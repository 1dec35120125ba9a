import PaperTape.Proofs.Moving
import PaperTape.Proofs.Reencoding

namespace PaperTape

namespace Tape

def trailer (tape : List UInt8) : Nat := (tape.rtakeWhile (· == Frame.blank)).length

theorem trailer_blanks (count : Nat) : trailer (List.replicate count Frame.blank) = count := by
  have blanks : (List.replicate count Frame.blank).rtakeWhile (· == Frame.blank) =
      List.replicate count Frame.blank := by
    rw [List.rtakeWhile_eq_self_iff]
    intro frame member
    rw [List.eq_of_mem_replicate member]
    rfl
  rw [trailer, blanks, List.length_replicate]

theorem trailer_append {front : List UInt8} {last : UInt8} (punched : last ≠ Frame.blank) (rest : List UInt8) :
    trailer (front ++ [last] ++ rest) = trailer rest := by
  have stops : (last :: front.reverse).takeWhile (· == Frame.blank) = [] :=
    List.takeWhile_cons_of_neg (by simpa using punched)
  unfold trailer List.rtakeWhile
  rw [List.reverse_append, List.reverse_append, List.reverse_singleton, List.singleton_append, List.takeWhile_append,
    stops, List.append_nil]
  split
  · rename_i all
    rw [List.length_reverse, List.length_reverse, List.length_reverse, all, List.length_reverse]
  · rfl

end Tape

namespace Reading

open ObjectBlock

theorem ofReader_append {start : Nat} {objects : List ObjectBlock} {front : List UInt8}
    (spelled : Tape.Spelled start objects front) (back : List UInt8) :
    (ofReader ⟨(front ++ back).map .byte, start⟩).blocks =
        objects ++ further (Tape.trailer front) (start + front.length) (ofReader (.ofBytes back)).blocks ∧
      (ofReader ⟨(front ++ back).map .byte, start⟩).failure =
        (ofReader (.ofBytes back)).failure.map (TapeError.moved (start + front.length)) := by
  induction spelled with
  | blanks start count =>
    rw [Tape.trailer_blanks, List.length_replicate]
    exact ofReader_further (Block.decode_led count start back)
  | @block start object objects bytes tape sound spelled position _ ih =>
    obtain ⟨ahead, ends⟩ := spelled.ends
    have trailer : Tape.trailer (bytes ++ tape) = Tape.trailer tape := by
      rw [ends]
      exact Tape.trailer_append (by decide) tape
    have decoded := Block.decode_spelled spelled ((tape ++ back).map .byte) position
    have read := ofReader_ok decoded sound.made
    rw [List.append_assoc, List.map_append, read.1, read.2, ih.1, ih.2, trailer, List.length_append, Nat.add_assoc]
    exact ⟨rfl, rfl⟩

end Reading

namespace ObjectFile

open ObjectBlock

/-- A tape behind one that is read without a failure is read as it would be alone. Its blocks lie further along by
    the length of the first tape, whose trailer is added to the first leader, and so does its failure. -/
theorem read_append {front : List UInt8} {name : String} {first : ObjectFile}
    (accepted : read (.ofBytes front) (named name) = .ok () first) (back : List UInt8) (file : ObjectFile) :
    read (.ofBytes (front ++ back)) file =
      match read (.ofBytes back) (named name) with
      | .ok () second =>
        .ok () { file with
          blocks := file.blocks ++ first.blocks ++ further (Tape.trailer front) front.length second.blocks }
      | .error error second =>
        .error (error.moved front.length) { file with
          blocks := file.blocks ++ first.blocks ++ further (Tape.trailer front) front.length second.blocks } := by
  obtain ⟨complete, rfl⟩ := read_named_eq_ok.mp accepted
  have spelled := Tape.spelled_of_ofReader front 0 complete
  obtain ⟨blocks, failure⟩ := Reading.ofReader_append spelled back
  rw [Nat.zero_add] at blocks failure
  simp only [read, Reader.ofBytes, Reader.ofSignals, named] at blocks failure ⊢
  rw [blocks, failure]
  cases (Reading.ofReader ⟨back.map .byte, 0⟩).failure with
  | none => simp
  | some error => simp

theorem read_append_unterminated :
    read (.ofBytes [0x00, 0x81, 0x81, 0x80, 0x84, 0x81, 0x80, 0x84, 0x93, 0xFF, 0x00, 0x00]) (named "sin.obj") =
        .ok () ⟨"sin.obj", 0, [⟨⟨1, [0x1004], false, 1⟩, ⟨1, 0, .absoluteWords⟩⟩]⟩ ∧
      read (.ofBytes ([0x00, 0x81, 0x81, 0x80, 0x84, 0x81, 0x80, 0x84, 0x93, 0xFF, 0x00, 0x00] ++
          [0x00, 0x83, 0x93, 0xFF, 0x81, 0x93, 0xFE])) ⟨"cos.obj", 3, [.endMark]⟩ =
        .error (.wrongMarker .missingTerminator 18 0xFF 0xFE) ⟨"cos.obj", 3,
          [.endMark, ⟨⟨1, [0x1004], false, 1⟩, ⟨1, 0, .absoluteWords⟩⟩, ⟨⟨3, [], true, 13⟩, .endOfTape⟩]⟩ := by
  have accepted :
      read (.ofBytes [0x00, 0x81, 0x81, 0x80, 0x84, 0x81, 0x80, 0x84, 0x93, 0xFF, 0x00, 0x00]) (named "sin.obj") =
        .ok () ⟨"sin.obj", 0, [⟨⟨1, [0x1004], false, 1⟩, ⟨1, 0, .absoluteWords⟩⟩]⟩ := by
    cbv
  have alone : read (.ofBytes [0x00, 0x83, 0x93, 0xFF, 0x81, 0x93, 0xFE]) (named "sin.obj") =
      .error (.wrongMarker .missingTerminator 6 0xFF 0xFE) ⟨"sin.obj", 0, [⟨⟨1, [], true, 1⟩, .endOfTape⟩]⟩ := by
    cbv
  have behind := read_append accepted [0x00, 0x83, 0x93, 0xFF, 0x81, 0x93, 0xFE] ⟨"cos.obj", 3, [.endMark]⟩
  rw [alone] at behind
  exact ⟨accepted, behind⟩

end ObjectFile

end PaperTape
