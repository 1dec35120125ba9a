import PaperTape.Proofs.Decoding

namespace PaperTape

namespace Tape

def overwrite (offset : Nat) (bytes tape : List UInt8) : List UInt8 :=
  tape.take offset ++ bytes ++ tape.drop (offset + bytes.length)

theorem overwrite_append {offset : Nat} {front old bytes : List UInt8} (placed : front.length = offset)
    (same : old.length = bytes.length) (back : List UInt8) :
    overwrite offset bytes (front ++ old ++ back) = front ++ bytes ++ back := by
  have through : (front ++ old).length = offset + bytes.length := by rw [List.length_append, placed, same]
  rw [overwrite, ← through, List.drop_left, List.append_assoc front old, ← placed, List.take_left]

end Tape

namespace Word

theorem checksum_append (front back : List UInt16) : checksum (front ++ back) = checksum front ^^^ checksum back := by
  rw [checksum, List.foldl_append, foldl_xor]
  rfl

theorem checksum_cons (word : UInt16) (words : List UInt16) : checksum (word :: words) = word ^^^ checksum words := by
  rw [checksum, List.foldl_cons, foldl_xor, UInt16.zero_xor]

theorem checksum_replaced {front back : List UInt16} {word : UInt16} (zero : checksum (front ++ word :: back) = 0)
    (other : UInt16) : checksum (front ++ other :: back) = word ^^^ other := by
  have taken (middle : UInt16) : checksum (front ++ middle :: back) = middle ^^^ (checksum front ^^^ checksum back) := by
    rw [checksum_append, checksum_cons, ← UInt16.xor_assoc, UInt16.xor_comm (checksum front), UInt16.xor_assoc]
  rw [taken] at zero ⊢
  rw [← UInt16.xor_eq_zero_iff.mp zero, UInt16.xor_comm]

end Word

namespace Frame

theorem value?_following_midBlockMarker : value? followingChannels midBlockMarker = none := by decide

end Frame

namespace Scan

open Reader

/-- What is said of a frame that should be part of a word. -/
def Illegible (error : TapeError) : Prop := error.kind = .unexpectedMidBlockMarker ∨ error.kind = .invalidChannel

def inner (byte : UInt8) (offset : Nat) (go : UInt8 → Progress Scan Block) : Progress Scan Block :=
  if byte == Frame.midBlockMarker then fail (.markerInsideWord offset) else frame Frame.followingChannels byte offset go

theorem inner_legible {byte value : UInt8} (legible : Frame.value? Frame.followingChannels byte = some value)
    (offset : Nat) (go : UInt8 → Progress Scan Block) : inner byte offset go = go value := by
  have unmarked : byte ≠ Frame.midBlockMarker := by
    rintro rfl
    rw [Frame.value?_following_midBlockMarker] at legible
    cases legible
  simp [inner, frame, unmarked, legible]

theorem inner_illegible {byte : UInt8} (illegible : Frame.value? Frame.followingChannels byte = none) (offset : Nat)
    (go : UInt8 → Progress Scan Block) : ∃ error, inner byte offset go = fail error ∧ Illegible error := by
  unfold inner
  split
  · exact ⟨_, rfl, .inl rfl⟩
  · simp only [frame, illegible]
    exact ⟨_, rfl, .inr rfl⟩

variable (scan : Scan) (rest : List Signal) (offset : Nat)

theorem feed_midBlockMarker (boundary : scan.stage = .wordBoundary) (second : UInt8) :
    feed machine scan (.byte Frame.midBlockMarker :: .byte second :: rest) offset =
      if second = Frame.terminator then answer scan.finished ⟨rest, offset + 2⟩
      else .error (.wrongMarker .missingTerminator (offset + 1) Frame.terminator second) ⟨rest, offset + 2⟩ := by
  split
  · rename_i closed
    rw [closed]
    exact feed_close scan rest offset boundary
  · rename_i other
    have middle : scan.step offset Frame.midBlockMarker = .more { scan with stage := .close } := by
      simp [step, more, boundary]
    have last : step { scan with stage := .close } (offset + 1) second =
        .done (.error (.wrongMarker .missingTerminator (offset + 1) Frame.terminator second)) := by
      simp [step, expect, fail, other]
    rw [feed_more middle, feed_done last]
    rfl

/-- Three bytes hold no word if one of them is no data frame. The first one that is none decides. -/
theorem feed_illegible (boundary : scan.stage = .wordBoundary) {first second third : UInt8}
    (unmarked : first ≠ Frame.midBlockMarker)
    (illegible : Frame.value? Frame.leadingChannels first = none ∨
      Frame.value? Frame.followingChannels second = none ∨ Frame.value? Frame.followingChannels third = none) :
    ∃ error left, feed machine scan (.byte first :: .byte second :: .byte third :: rest) offset = .error error left ∧
      Illegible error := by
  obtain ⟨stage, leader, position, reversed⟩ := scan
  obtain rfl : stage = .wordBoundary := boundary
  cases opens : Frame.value? Frame.leadingChannels first with
  | none =>
    have ends : step ⟨.wordBoundary, leader, position, reversed⟩ offset first =
        .done (.error (.badFrame offset first)) := by
      simp [step, frame, fail, unmarked, opens]
    rw [feed_done ends]
    exact ⟨_, _, rfl, .inr rfl⟩
  | some high =>
    have goes : step ⟨.wordBoundary, leader, position, reversed⟩ offset first =
        .more ⟨.secondFrame high, leader, position, reversed⟩ := by
      simp [step, frame, more, unmarked, opens]
    rw [feed_more goes]
    cases follows : Frame.value? Frame.followingChannels second with
    | none =>
      obtain ⟨error, ends, said⟩ := inner_illegible follows (offset + 1) fun middle =>
        more ⟨.secondFrame high, leader, position, reversed⟩ (.thirdFrame high middle)
      have stops : step ⟨.secondFrame high, leader, position, reversed⟩ (offset + 1) second = .done (.error error) := ends
      rw [feed_done stops]
      exact ⟨_, _, rfl, said⟩
    | some middle =>
      have goes : step ⟨.secondFrame high, leader, position, reversed⟩ (offset + 1) second =
          .more ⟨.thirdFrame high middle, leader, position, reversed⟩ := inner_legible follows _ _
      rw [feed_more goes]
      have last : Frame.value? Frame.followingChannels third = none := by simpa [opens, follows] using illegible
      obtain ⟨error, ends, said⟩ := inner_illegible last (offset + 1 + 1) fun low =>
        .more ⟨.wordBoundary, leader, position, Word.join high middle low :: reversed⟩
      have stops : step ⟨.thirdFrame high middle, leader, position, reversed⟩ (offset + 1 + 1) third =
          .done (.error error) := ends
      rw [feed_done stops]
      exact ⟨_, _, rfl, said⟩

end Scan

namespace Block

open Reader Scan

def punched (block : Block) : List UInt16 := block.words ++ [block.checksum]

def damaged (block : Block) (index : Nat) (first second third : UInt8) : List UInt8 :=
  Tape.overwrite (block.leader + 1 + 3 * index) [first, second, third] block.bytes

theorem length_take_punched {block : Block} {index : Nat} {word : UInt16}
    (member : block.punched[index]? = some word) : (block.words.take index).length = index := by
  obtain ⟨within, -⟩ := List.getElem?_eq_some_iff.mp member
  rw [punched, List.length_append, List.length_singleton] at within
  exact List.length_take_of_le (Nat.le_of_lt_succ within)

theorem split_punched {block : Block} {index : Nat} {word : UInt16} (member : block.punched[index]? = some word) :
    block.punched = block.words.take index ++ word :: block.punched.drop (index + 1) := by
  obtain ⟨within, rfl⟩ := List.getElem?_eq_some_iff.mp member
  have bound : index ≤ block.words.length := by
    rw [punched, List.length_append, List.length_singleton] at within
    exact Nat.le_of_lt_succ within
  have front : block.punched.take index = block.words.take index := List.take_append_of_le_length bound
  rw [← front, ← List.drop_eq_getElem_cons within, List.take_append_drop]

theorem damaged_eq {block : Block} (unmarked : block.endOfTape = false) {front back : List UInt16} {word : UInt16}
    (split : block.punched = front ++ word :: back) (first second third : UInt8) :
    block.damaged front.length first second third =
      List.replicate block.leader Frame.blank ++
        Frame.startMarker :: (front.flatMap Word.frames ++ first :: second :: third ::
          (back.flatMap Word.frames ++ [Frame.midBlockMarker, Frame.terminator])) := by
  have whole : block.bytes =
      List.replicate block.leader Frame.blank ++ Frame.startMarker :: front.flatMap Word.frames ++ Word.frames word ++
        (back.flatMap Word.frames ++ [Frame.midBlockMarker, Frame.terminator]) := by
    rw [punched] at split
    simp [bytes, body, unmarked, split]
  have placed : (List.replicate block.leader Frame.blank ++ Frame.startMarker :: front.flatMap Word.frames).length =
      block.leader + 1 + 3 * front.length := by
    rw [List.length_append, List.length_replicate, List.length_cons, Word.length_flatMap_frames]
    omega
  rw [damaged, whole, Tape.overwrite_append placed (Word.length_frames word)]
  simp

theorem decode_words (leader : Nat) (words : List UInt16) (frames : List UInt8) (rest : List Signal) (start : Nat) :
    decode ⟨(List.replicate leader Frame.blank ++ Frame.startMarker :: (words.flatMap Word.frames ++ frames)).map .byte ++
        rest, start⟩ =
      feed machine ⟨.wordBoundary, leader, start + leader, words.reverse⟩ (frames.map .byte ++ rest)
        (start + leader + 1 + 3 * words.length) := by
  rw [decode_leader, feed_opened]

theorem finished_words {leader position : Nat} (words : List UInt16) :
    finished ⟨.wordBoundary, leader, position, words.reverse⟩ =
      if Word.checksum words = 0 then .ok ⟨leader, words.dropLast, false, position⟩
      else .error (.badChecksum position (Word.checksum words)) := by
  simp only [finished, List.reverse_reverse, beq_iff_eq, List.tail_reverse]

/-- Three data frames are the frames of some word, so that the block is read to its end and its words do not fold to
    zero any more. -/
theorem feed_replaced {front back : List UInt16} {word other : UInt16} (zero : Word.checksum (front ++ word :: back) = 0)
    (changed : other ≠ word) (leader position offset : Nat) (rest : List Signal) :
    feed machine ⟨.wordBoundary, leader, position, front.reverse⟩
        ((Word.frames other ++ (back.flatMap Word.frames ++ [Frame.midBlockMarker, Frame.terminator])).map .byte ++ rest)
        offset =
      .error (.badChecksum position (word ^^^ other)) ⟨rest, offset + 3 * (back.length + 1) + 2⟩ := by
  have residue : Word.checksum (front ++ other :: back) = word ^^^ other := Word.checksum_replaced zero other
  have nonzero : word ^^^ other ≠ 0 := fun none => changed (UInt16.xor_eq_zero_iff.mp none).symm
  have words : Word.frames other ++ (back.flatMap Word.frames ++ [Frame.midBlockMarker, Frame.terminator]) =
      (other :: back).flatMap Word.frames ++ [Frame.midBlockMarker, Frame.terminator] := by
    rw [List.flatMap_cons, List.append_assoc]
  have ended : finished ⟨.wordBoundary, leader, position, (other :: back).reverse ++ front.reverse⟩ =
      .error (.badChecksum position (word ^^^ other)) := by
    rw [← List.reverse_append, finished_words, residue, if_neg nonzero]
  rw [words, List.map_append, List.append_assoc, feed_words _ _ _ _ rfl]
  refine (feed_close _ _ _ rfl).trans ?_
  rw [ended]
  rfl

section

variable {block : Block} (unmarked : block.endOfTape = false) {index : Nat} {word : UInt16}
  (member : block.punched[index]? = some word) (first second third : UInt8) (rest : List Signal) (start : Nat)

include unmarked member

theorem decode_front :
    decode ⟨(block.damaged index first second third).map .byte ++ rest, start⟩ =
      feed machine ⟨.wordBoundary, block.leader, start + block.leader, (block.words.take index).reverse⟩
        ((first :: second :: third :: ((block.punched.drop (index + 1)).flatMap Word.frames ++
          [Frame.midBlockMarker, Frame.terminator])).map .byte ++ rest) (start + block.leader + 1 + 3 * index) := by
  have same := damaged_eq unmarked (split_punched member) first second third
  rw [length_take_punched member] at same
  rw [same, decode_words, length_take_punched member]

theorem decode_closed :
    ∃ left, left.offset = start + block.leader + 3 * index + 3 ∧
      decode ⟨(block.damaged index Frame.midBlockMarker second third).map .byte ++ rest, start⟩ =
        if second = Frame.terminator then
          if Word.checksum (block.words.take index) = 0 then
            .ok ⟨block.leader, block.words.take (index - 1), false, start + block.leader⟩ left
          else .error (.badChecksum (start + block.leader) (Word.checksum (block.words.take index))) left
        else
          .error (.wrongMarker .missingTerminator (start + block.leader + 1 + 3 * index + 1) Frame.terminator second)
            left := by
  have front : (block.words.take index).dropLast = block.words.take (index - 1) := by
    rw [List.dropLast_eq_take, length_take_punched member, List.take_take, Nat.min_eq_left (Nat.sub_le index 1)]
  have read := (decode_front unmarked member Frame.midBlockMarker second third rest start).trans
    (feed_midBlockMarker _ _ _ rfl second)
  rw [finished_words, front] at read
  refine ⟨⟨(third :: ((block.punched.drop (index + 1)).flatMap Word.frames ++
    [Frame.midBlockMarker, Frame.terminator])).map .byte ++ rest, start + block.leader + 1 + 3 * index + 2⟩,
    by simp only; omega, read.trans ?_⟩
  split
  · split
    · rfl
    · rfl
  · rfl

theorem decode_legible (changed : [first, second, third] ≠ Word.frames word)
    (opens : (Frame.value? Frame.leadingChannels first).isSome)
    (follows : (Frame.value? Frame.followingChannels second).isSome)
    (closes : (Frame.value? Frame.followingChannels third).isSome) :
    ∃ residue, decode ⟨(block.damaged index first second third).map .byte ++ rest, start⟩ =
      .error (.badChecksum (start + block.leader) residue) ⟨rest, start + block.bytes.length⟩ := by
  obtain ⟨high, opens⟩ := Option.isSome_iff_exists.mp opens
  obtain ⟨middle, follows⟩ := Option.isSome_iff_exists.mp follows
  obtain ⟨low, closes⟩ := Option.isSome_iff_exists.mp closes
  obtain ⟨small, punched1⟩ := Frame.faithful_leading _ _ opens
  obtain ⟨small', punched2⟩ := Frame.faithful_following _ _ follows
  obtain ⟨small'', punched3⟩ := Frame.faithful_following _ _ closes
  have frames : Word.frames (Word.join high middle low) = [first, second, third] := by
    rw [Word.frames_join _ _ _ small small' small'', punched1, punched2, punched3]
  have other : Word.join high middle low ≠ word := by
    rintro same
    rw [same] at frames
    exact changed frames.symm
  have split := split_punched member
  have zero : Word.checksum (block.words.take index ++ word :: block.punched.drop (index + 1)) = 0 := by
    rw [← split]
    exact Word.checksum_checksum block.words
  have read := feed_replaced zero other block.leader (start + block.leader) (start + block.leader + 1 + 3 * index) rest
  rw [frames] at read
  have words : block.words.length + 1 = index + ((block.punched.drop (index + 1)).length + 1) := by
    have lengths := congrArg List.length split
    rwa [List.length_append, length_take_punched member, punched, List.length_append] at lengths
  have stop : start + block.leader + 1 + 3 * index + 3 * ((block.punched.drop (index + 1)).length + 1) + 2 =
      start + block.bytes.length := by
    rw [length_bytes, extent, if_neg (by simp [unmarked]), words]
    omega
  rw [stop] at read
  exact ⟨_, (decode_front unmarked member first second third rest start).trans read⟩

theorem decode_illegible (punched : first ≠ Frame.midBlockMarker)
    (illegible : ¬ ((Frame.value? Frame.leadingChannels first).isSome ∧
      (Frame.value? Frame.followingChannels second).isSome ∧ (Frame.value? Frame.followingChannels third).isSome)) :
    ∃ error left, decode ⟨(block.damaged index first second third).map .byte ++ rest, start⟩ = .error error left ∧
      Illegible error := by
  rw [decode_front unmarked member]
  refine feed_illegible _ _ _ rfl punched ?_
  simpa only [Decidable.not_and_iff_not_or_not, Option.not_isSome_iff_eq_none] using illegible

end

/-- A block with three other bytes in place of a word is decoded only if they are a mid-block marker, a terminator and
    anything, behind words that fold to zero. All other bytes are refused, and data frames not before the end of the
    block. -/
theorem decode_damaged {block : Block} (unmarked : block.endOfTape = false) {index : Nat} {word : UInt16}
    (member : block.punched[index]? = some word) {first second third : UInt8}
    (changed : [first, second, third] ≠ Word.frames word) (rest : List Signal) (start : Nat) :
    let result := decode ⟨(block.damaged index first second third).map .byte ++ rest, start⟩
    let ends := first = Frame.midBlockMarker ∧ second = Frame.terminator ∧ Word.checksum (block.words.take index) = 0
    (ends → ∃ left, result = .ok ⟨block.leader, block.words.take (index - 1), false, start + block.leader⟩ left ∧
      left.offset = start + block.leader + 3 * index + 3) ∧
    (¬ ends → ∃ error left, result = .error error left ∧
      (error.kind = .missingTerminator ↔ first = Frame.midBlockMarker ∧ second ≠ Frame.terminator) ∧
      error.kind ∈ [.missingTerminator, .unexpectedMidBlockMarker, .invalidChannel, .checksumMismatch]) ∧
    ((Frame.value? Frame.leadingChannels first).isSome → (Frame.value? Frame.followingChannels second).isSome →
      (Frame.value? Frame.followingChannels third).isSome →
      ∃ residue, result =
        .error (.badChecksum (start + block.leader) residue) ⟨rest, start + block.bytes.length⟩) := by
  intro result ends
  have legible := decode_legible unmarked member first second third rest start changed
  by_cases marked : first = Frame.midBlockMarker
  · subst marked
    obtain ⟨left, stop, closing⟩ := decode_closed unmarked member second third rest start
    refine ⟨fun early => ?_, fun late => ?_, legible⟩
    · obtain ⟨-, closed, folds⟩ := early
      rw [if_pos closed, if_pos folds] at closing
      exact ⟨left, closing, stop⟩
    · by_cases closed : second = Frame.terminator
      · have residue : Word.checksum (block.words.take index) ≠ 0 := fun folds => late ⟨rfl, closed, folds⟩
        rw [if_pos closed, if_neg residue] at closing
        exact ⟨_, left, closing, by simp [TapeError.badChecksum, closed], by simp [TapeError.badChecksum]⟩
      · rw [if_neg closed] at closing
        exact ⟨_, left, closing, by simp [TapeError.wrongMarker, closed], by simp [TapeError.wrongMarker]⟩
  · refine ⟨fun early => absurd early.1 marked, fun _ => ?_, legible⟩
    by_cases data : (Frame.value? Frame.leadingChannels first).isSome ∧
        (Frame.value? Frame.followingChannels second).isSome ∧ (Frame.value? Frame.followingChannels third).isSome
    · obtain ⟨residue, refused⟩ := legible data.1 data.2.1 data.2.2
      exact ⟨_, _, refused, by simp [TapeError.badChecksum, marked], by simp [TapeError.badChecksum]⟩
    · obtain ⟨error, left, refused, said⟩ :=
        decode_illegible unmarked member first second third rest start marked data
      refine ⟨error, left, refused, ?_, ?_⟩
      · rcases said with said | said <;> simp [said, marked]
      · rcases said with said | said <;> simp [said]

theorem decode_damaged_twins :
    (Block.mk 2 [0x1004, 0x1004] false 0).endOfTape = false ∧
      (Block.mk 2 [0x1004, 0x1004] false 0).punched[2]? = some 0 ∧ [0x93, 0xFF, 0x80] ≠ Word.frames 0 ∧
      ∃ left,
        decode ⟨[0x00, 0x00, 0x81, 0x81, 0x80, 0x84, 0x81, 0x80, 0x84, 0x93, 0xFF, 0x80, 0x93, 0xFF].map .byte ++ [], 0⟩ =
            .ok ⟨2, [0x1004], false, 2⟩ left ∧
          left.offset = 11 := by
  have member : (Block.mk 2 [0x1004, 0x1004] false 0).punched[2]? = some 0 := by decide
  have changed : [0x93, 0xFF, 0x80] ≠ Word.frames 0 := by decide
  exact ⟨rfl, member, changed, (decode_damaged rfl member changed [] 0).1 ⟨rfl, rfl, by decide⟩⟩

end Block

end PaperTape
