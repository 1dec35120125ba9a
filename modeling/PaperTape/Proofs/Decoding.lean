import PaperTape.Block.Scan
import PaperTape.Proofs.Words

namespace PaperTape

namespace Scan

open Reader

theorem feed_more {scan next : Scan} {offset : Nat} {byte : UInt8} (goes : scan.step offset byte = .more next)
    (rest : List Signal) :
    feed machine scan (.byte byte :: rest) offset = feed machine next rest (offset + 1) := by
  simp only [feed, machine, goes]

theorem feed_done {scan : Scan} {offset : Nat} {byte : UInt8} {result : Except TapeError Block}
    (ends : scan.step offset byte = .done result) (rest : List Signal) :
    feed machine scan (.byte byte :: rest) offset = answer result ⟨rest, offset + 1⟩ := by
  simp only [feed, machine, ends]

variable (scan : Scan) (rest : List Signal) (offset : Nat)

theorem feed_blanks (count : Nat) (leading : scan.stage = .leader) :
    feed machine scan ((List.replicate count Frame.blank).map .byte ++ rest) offset =
      feed machine { scan with leader := scan.leader + count } rest (offset + count) := by
  induction count generalizing scan offset with
  | zero => rfl
  | succ count ih =>
    have first : scan.step offset Frame.blank = .more { scan with leader := scan.leader + 1 } := by
      simp [step, leading]
    rw [List.replicate_succ, List.map_cons, List.cons_append, feed_more first]
    refine (ih { scan with leader := scan.leader + 1 } (offset + 1) leading).trans ?_
    rw [Nat.add_right_comm offset, Nat.add_right_comm scan.leader]
    rfl

theorem feed_word (word : UInt16) (boundary : scan.stage = .wordBoundary) :
    feed machine scan ((Word.frames word).map .byte ++ rest) offset =
      feed machine { scan with reversed := word :: scan.reversed } rest (offset + 3) := by
  obtain ⟨stage, leader, position, reversed⟩ := scan
  obtain rfl : stage = .wordBoundary := boundary
  have first : step ⟨.wordBoundary, leader, position, reversed⟩ offset (Frame.punch (Word.high word)) =
      .more ⟨.secondFrame (Word.high word), leader, position, reversed⟩ := by
    simp [step, more, frame, Frame.punch_ne_midBlockMarker, Frame.value?_punch_leading _ (Word.high_lt word)]
  have second : step ⟨.secondFrame (Word.high word), leader, position, reversed⟩ (offset + 1)
      (Frame.punch (Word.middle word)) =
        .more ⟨.thirdFrame (Word.high word) (Word.middle word), leader, position, reversed⟩ := by
    simp [step, more, frame, Frame.punch_ne_midBlockMarker, Frame.value?_punch _ (Word.middle_lt word)]
  have third : step ⟨.thirdFrame (Word.high word) (Word.middle word), leader, position, reversed⟩ (offset + 2)
      (Frame.punch (Word.low word)) = .more ⟨.wordBoundary, leader, position, word :: reversed⟩ := by
    simp [step, frame, Frame.punch_ne_midBlockMarker, Frame.value?_punch _ (Word.low_lt word), Word.join_groups]
  simp only [Word.frames, List.map_cons, List.map_nil, List.cons_append, List.nil_append]
  rw [feed_more first, feed_more second, feed_more third]

theorem feed_words (words : List UInt16) (boundary : scan.stage = .wordBoundary) :
    feed machine scan ((words.flatMap Word.frames).map .byte ++ rest) offset =
      feed machine { scan with reversed := words.reverse ++ scan.reversed } rest (offset + 3 * words.length) := by
  induction words generalizing scan offset with
  | nil => rfl
  | cons word words ih =>
    rw [List.flatMap_cons, List.map_append, List.append_assoc, feed_word _ _ _ _ boundary,
      ih { scan with reversed := word :: scan.reversed } (offset + 3) boundary]
    simp only [List.reverse_cons, List.append_assoc, List.singleton_append, List.length_cons]
    rw [show offset + 3 + 3 * words.length = offset + 3 * (words.length + 1) by omega]

theorem feed_opened (leader : Nat) (words : List UInt16) (frames : List UInt8) :
    feed machine { leader } ((Frame.startMarker :: (words.flatMap Word.frames ++ frames)).map .byte ++ rest) offset =
      feed machine ⟨.wordBoundary, leader, offset, words.reverse⟩ (frames.map .byte ++ rest)
        (offset + 1 + 3 * words.length) := by
  have opened : step { leader } offset Frame.startMarker =
      .more { stage := .wordBoundary, leader, position := offset } := rfl
  rw [List.map_cons, List.cons_append, feed_more opened, List.map_append, List.append_assoc,
    feed_words _ _ _ _ rfl, List.append_nil]

theorem feed_close (boundary : scan.stage = .wordBoundary) :
    feed machine scan (.byte Frame.midBlockMarker :: .byte Frame.terminator :: rest) offset =
      answer scan.finished ⟨rest, offset + 2⟩ := by
  have middle : scan.step offset Frame.midBlockMarker = .more { scan with stage := .close } := by
    simp [step, more, boundary]
  have last : step { scan with stage := .close } (offset + 1) Frame.terminator = .done scan.finished := rfl
  rw [feed_more middle, feed_done last]

theorem finished_checksum (words : List UInt16)
    (read : scan.reversed = (words ++ [Word.checksum words]).reverse) :
    scan.finished = .ok ⟨scan.leader, words, false, scan.position⟩ := by
  simp [finished, read, Word.checksum_checksum]

end Scan

namespace Block

open Reader Scan

def extent (block : Block) : Nat := if block.endOfTape then 3 else 3 * (block.words.length + 1) + 3

theorem body_eq_cons (block : Block) : ∃ first rest, block.body = first :: rest ∧ first ≠ Frame.blank := by
  unfold body
  split
  · exact ⟨_, _, rfl, by decide⟩
  · exact ⟨_, _, rfl, by decide⟩

theorem length_body (block : Block) : block.body.length = block.extent := by
  unfold body extent
  split
  · rfl
  · rw [List.cons_append, List.length_cons, List.length_append, Word.length_flatMap_frames, List.length_append]
    simp only [List.length_cons, List.length_nil]

theorem length_bytes (block : Block) : block.bytes.length = block.leader + block.extent := by
  rw [bytes, List.length_append, List.length_replicate, length_body]

theorem feed_body (block : Block) (wellFormed : block.WellFormed) (leader : Nat) (rest : List Signal)
    (offset : Nat) :
    feed machine { leader } (block.body.map .byte ++ rest) offset =
      .ok ⟨leader, block.words, block.endOfTape, offset⟩ ⟨rest, offset + block.extent⟩ := by
  cases mark : block.endOfTape with
  | true =>
    rw [wellFormed mark]
    simp only [body, extent, mark]
    rfl
  | false =>
    simp only [body, extent, mark, Bool.false_eq_true, if_false, List.cons_append]
    rw [feed_opened]
    refine (feed_close _ _ _ rfl).trans ?_
    rw [finished_checksum _ block.words rfl, List.length_append, List.length_singleton]
    rw [show offset + 1 + 3 * (block.words.length + 1) + 2 = offset + (3 * (block.words.length + 1) + 3) by omega]
    rfl

theorem decode_leader (leader : Nat) (frames : List UInt8) (rest : List Signal) (offset : Nat) :
    decode ⟨(List.replicate leader Frame.blank ++ frames).map .byte ++ rest, offset⟩ =
      feed machine { leader } (frames.map .byte ++ rest) (offset + leader) := by
  rw [List.map_append, List.append_assoc]
  refine (feed_blanks {} _ offset leader rfl).trans ?_
  rw [Nat.zero_add]

theorem decode_blanks (count start : Nat) :
    decode ⟨(List.replicate count Frame.blank).map .byte, start⟩ =
      .error (.endOfTape (start + count)) ⟨[], start + count⟩ := by
  have run := feed_blanks {} [] start count rfl
  rw [List.append_nil] at run
  exact run

theorem decode_bytes (block : Block) (wellFormed : block.WellFormed) (rest : List Signal) (offset : Nat) :
    decode ⟨block.bytes.map .byte ++ rest, offset⟩ =
      .ok { block with position := offset + block.leader } ⟨rest, offset + block.bytes.length⟩ := by
  rw [length_bytes, bytes, decode_leader, feed_body block wellFormed, Nat.add_assoc]

end Block

end PaperTape
