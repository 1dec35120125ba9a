import Mathlib
import PaperTape.Proofs.Reading
import PaperTape.Proofs.Writing

namespace PaperTape

namespace Tape

def trimmed (tape : List UInt8) : List UInt8 := tape.rdropWhile (· == Frame.blank)

/-- A tape with the usual lead at the offset of each end-of-tape mark. -/
def remarked (objects : List ObjectBlock) (tape : List UInt8) : List UInt8 :=
  objects.foldl
    (fun tape object => if object.block.endOfTape then tape.set object.block.position Frame.endOfTapeMarker else tape)
    tape

theorem trimmed_blanks (count : Nat) : trimmed (List.replicate count Frame.blank) = [] := by
  rw [trimmed, List.rdropWhile_eq_nil_iff]
  intro frame member
  rw [List.eq_of_mem_replicate member]
  rfl

theorem trimmed_append {front : List UInt8} {last : UInt8} (punched : last ≠ Frame.blank) (rest : List UInt8) :
    trimmed (front ++ [last] ++ rest) = front ++ [last] ++ trimmed rest := by
  have stops : (last == Frame.blank) = false := beq_eq_false_iff_ne.mpr punched
  unfold trimmed List.rdropWhile
  rw [List.reverse_append, List.dropWhile_append, List.reverse_append, List.reverse_singleton,
    List.singleton_append, List.dropWhile_cons_of_neg (by simp [stops])]
  split
  · rename_i none
    simp [List.isEmpty_iff.mp none]
  · simp

def canonical (objects : List ObjectBlock) (tape : List UInt8) : List UInt8 := remarked objects (trimmed tape)

/-- A tape of punched forms of sound blocks, the first byte at the offset `start`: each block tells its own
    offset, and blank frames follow the last. -/
inductive Spelled : Nat → List ObjectBlock → List UInt8 → Prop
  | blanks (start count : Nat) : Spelled start [] (List.replicate count Frame.blank)
  | block {start : Nat} {object : ObjectBlock} {objects : List ObjectBlock} {bytes tape : List UInt8} :
      object.Sound → object.block.Spelling bytes → object.block.position = start + object.block.leader →
      Spelled (start + bytes.length) objects tape → Spelled start (object :: objects) (bytes ++ tape)

end Tape

theorem Block.getLast?_body (block : Block) : block.body.getLast? = some Frame.terminator := by
  unfold body
  split
  · rfl
  · rw [List.getLast?_append]
    rfl

theorem Block.Spelling.ends {block : Block} {bytes : List UInt8} (spelled : block.Spelling bytes) :
    ∃ front, bytes = front ++ [Frame.terminator] := by
  apply List.getLast?_eq_some_iff.mp
  cases spelled with
  | punched => rw [Block.bytes, List.getLast?_append, Block.getLast?_body, Option.some_or]
  | alternate => exact List.getLast?_append
  | bare => exact List.getLast?_append

theorem ObjectBlock.Sound.remark {object : ObjectBlock} {bytes : List UInt8} (sound : object.Sound)
    (spelled : object.block.Spelling bytes) :
    (if object.block.endOfTape then bytes.set object.block.leader Frame.endOfTapeMarker else bytes) =
      object.block.bytes := by
  cases spelled with
  | punched wellFormed =>
    split
    · rename_i marked
      simp [Block.bytes, Block.body, marked]
    · rfl
  | alternate marked empty => simp [Block.bytes, Block.body, marked]
  | bare unmarked empty => exact absurd empty (sound.words_ne_nil unmarked)

theorem ObjectBlock.Sound.length_spelling {object : ObjectBlock} {bytes : List UInt8} (sound : object.Sound)
    (spelled : object.block.Spelling bytes) : bytes.length = object.block.bytes.length := by
  rw [← sound.remark spelled]
  split
  · rw [List.length_set]
  · rfl

theorem ObjectBlock.Sound.remark_between {object : ObjectBlock} {bytes : List UInt8} (sound : object.Sound)
    (spelled : object.block.Spelling bytes) (front rest : List UInt8)
    (position : object.block.position = front.length + object.block.leader) :
    (if object.block.endOfTape then
      (front ++ (bytes ++ rest)).set object.block.position Frame.endOfTapeMarker
    else front ++ (bytes ++ rest)) = front ++ (object.block.bytes ++ rest) := by
  have remark := sound.remark spelled
  have inside : object.block.leader < bytes.length := by
    rw [sound.length_spelling spelled, Block.length_bytes, Block.extent]
    split <;> omega
  split
  · rename_i marked
    rw [if_pos marked] at remark
    rw [position, List.set_append_right _ _ (Nat.le_add_right ..), Nat.add_sub_cancel_left,
      List.set_append_left _ _ inside, remark]
  · rename_i unmarked
    rw [if_neg unmarked] at remark
    rw [remark]

namespace Tape

theorem Spelled.remarked_trimmed {start : Nat} {objects : List ObjectBlock} {tape : List UInt8}
    (spelled : Spelled start objects tape) (front : List UInt8) (placed : front.length = start) :
    remarked objects (front ++ trimmed tape) = front ++ objects.flatMap (·.block.bytes) := by
  -- Leads are set by their offset on the whole tape, so the induction carries what is before its rest.
  induction spelled generalizing front with
  | blanks start count => rw [trimmed_blanks]; rfl
  | @block start object objects bytes tape sound spelled position _ ih =>
    obtain ⟨ahead, rfl⟩ := spelled.ends
    have further : (front ++ object.block.bytes).length = start + (ahead ++ [Frame.terminator]).length := by
      rw [List.length_append, placed, sound.length_spelling spelled]
    rw [← placed] at position
    rw [trimmed_append (by decide), remarked, List.foldl_cons,
      sound.remark_between spelled front (trimmed tape) position, ← List.append_assoc, List.flatMap_cons,
      ← List.append_assoc]
    exact ih (front ++ object.block.bytes) further

theorem Spelled.placed_eq {start : Nat} {objects : List ObjectBlock} {tape : List UInt8}
    (spelled : Spelled start objects tape) : ObjectBlock.placed start objects = objects := by
  induction spelled with
  | blanks => rfl
  | @block start object objects bytes tape sound spelled position _ ih =>
    rw [sound.length_spelling spelled, Block.length_bytes, ← Nat.add_assoc, ← position] at ih
    simp only [ObjectBlock.placed, ← position, ih]

theorem Spelled.sound {start : Nat} {objects : List ObjectBlock} {tape : List UInt8}
    (spelled : Spelled start objects tape) : ∀ object ∈ objects, object.Sound := by
  induction spelled with
  | blanks => exact fun _ member => nomatch member
  | block sound _ _ _ ih => exact List.forall_mem_cons.mpr ⟨sound, ih⟩

theorem spelled_of_ofReader (tape : List UInt8) (start : Nat)
    (complete : (Reading.ofReader ⟨tape.map .byte, start⟩).failure = none) :
    Spelled start (Reading.ofReader ⟨tape.map .byte, start⟩).blocks tape := by
  induction size_eq : tape.length using Nat.strongRecOn generalizing tape start with
  | ind size ih =>
    cases decoded : Block.decode ⟨tape.map .byte, start⟩ with
    | error error left =>
      rw [Reading.ofReader_error decoded] at complete ⊢
      by_cases clean : error.isCleanEnd = true
      · obtain ⟨count, blanks⟩ := Block.decode_cleanEnd decoded clean
        rw [Signal.values_bytes] at blanks
        rw [blanks]
        exact .blanks start count
      · rw [if_neg clean] at complete
        cases complete
    | ok block left =>
      cases made : ObjectBlock.ofBlock block with
      | error error =>
        rw [Reading.ofReader_refused decoded made] at complete
        cases complete
      | ok object =>
        obtain ⟨bytes, rest, rfl, rfl, spelled, position⟩ := Block.decode_spelling_bytes decoded
        have sound := ObjectBlock.sound_of_ofBlock spelled.wellFormed made
        obtain ⟨rfl, -⟩ := ObjectBlock.ofBlock_eq_ok.mp made
        have shorter : rest.length < size := by
          have filled := sound.length_spelling spelled
          rw [Block.length_bytes, Block.extent] at filled
          rw [← size_eq, List.length_append]
          split at filled <;> omega
        have read := Reading.ofReader_ok decoded made
        rw [read.2] at complete
        rw [read.1]
        exact .block sound spelled position (ih _ shorter rest _ complete rfl)

end Tape

namespace ObjectFile

/-- A file that a tape is read into is written as the tape was, without the blank frames at its end and with the
    usual lead of each end-of-tape mark. Read again, this gives the same file, which is written the same. -/
theorem write_canonical {tape : List UInt8} {name : String} {file : ObjectFile}
    (accepted : read (.ofBytes tape) (named name) = .ok () file) :
    Writer.Appends file.write (Tape.canonical file.blocks tape) ∧
      ∃ copy, read (.ofBytes (Tape.canonical file.blocks tape)) (named name) = .ok () copy ∧
        copy = file ∧ Writer.Appends copy.write (Tape.canonical file.blocks tape) := by
  obtain ⟨complete, rfl⟩ := read_named_eq_ok.mp accepted
  have spelled := Tape.spelled_of_ofReader tape 0 complete
  generalize objects_eq : (Reading.ofReader ⟨tape.map .byte, 0⟩).blocks = objects at spelled
  have punched : Tape.canonical objects tape = objects.flatMap (·.block.bytes) :=
    spelled.remarked_trimmed [] rfl
  have written := appends_write { name, blocks := objects }
  have again := read_tape objects spelled.sound 0 name
  rw [List.replicate_zero, List.append_nil, spelled.placed_eq, ← punched] at again
  rw [bytes, List.replicate_zero, List.append_nil, ← punched] at written
  rw [Reader.ofBytes, Reader.ofSignals, objects_eq]
  exact ⟨written, _, again, rfl, written⟩

theorem write_canonical_alternate :
    read (.ofBytes [0x00, 0x81, 0x81, 0x80, 0x84, 0x81, 0x80, 0x84, 0x93, 0xFF, 0xFF, 0x93, 0xFF, 0x00, 0x00])
        (named "sin.obj") =
      .ok () ⟨"sin.obj", 0, [⟨⟨1, [0x1004], false, 1⟩, ⟨1, 0, .absoluteWords⟩⟩, ⟨⟨0, [], true, 10⟩, .endOfTape⟩]⟩ ∧
    Writer.Appends
      (write ⟨"sin.obj", 0, [⟨⟨1, [0x1004], false, 1⟩, ⟨1, 0, .absoluteWords⟩⟩, ⟨⟨0, [], true, 10⟩, .endOfTape⟩]⟩)
      [0x00, 0x81, 0x81, 0x80, 0x84, 0x81, 0x80, 0x84, 0x93, 0xFF, 0x83, 0x93, 0xFF] := by
  have accepted :
      read (.ofBytes [0x00, 0x81, 0x81, 0x80, 0x84, 0x81, 0x80, 0x84, 0x93, 0xFF, 0xFF, 0x93, 0xFF, 0x00, 0x00])
        (named "sin.obj") =
      .ok () ⟨"sin.obj", 0, [⟨⟨1, [0x1004], false, 1⟩, ⟨1, 0, .absoluteWords⟩⟩, ⟨⟨0, [], true, 10⟩, .endOfTape⟩]⟩ := by
    cbv
  exact ⟨accepted, (write_canonical accepted).1⟩

end ObjectFile

end PaperTape
