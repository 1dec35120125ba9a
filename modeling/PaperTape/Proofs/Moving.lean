import PaperTape.Proofs.Reading

namespace PaperTape

def TapeError.moved (distance : Nat) (error : TapeError) : TapeError := { error with offset := error.offset + distance }

theorem TapeError.isCleanEnd_moved (distance : Nat) (error : TapeError) :
    (error.moved distance).isCleanEnd = error.isCleanEnd := rfl

/-- A block further along that has more blank frames in front of it. -/
def Block.moved (lead distance : Nat) (block : Block) : Block :=
  { block with leader := block.leader + lead, position := block.position + distance }

namespace Reader

def moved (distance : Nat) (reader : Reader) : Reader := ⟨reader.signals, reader.offset + distance⟩

def movedOutcome (lead distance : Nat) : Except TapeError Block → Except TapeError Block
  | .ok block => .ok (block.moved lead distance)
  | .error error => .error (error.moved distance)

def movedResult (lead distance : Nat) :
    EStateM.Result TapeError Reader Block → EStateM.Result TapeError Reader Block
  | .ok block left => .ok (block.moved lead distance) (left.moved distance)
  | .error error left => .error (error.moved distance) (left.moved distance)

theorem answer_moved (lead distance : Nat) (result : Except TapeError Block) (reader : Reader) :
    answer (movedOutcome lead distance result) (reader.moved distance) =
      movedResult lead distance (answer result reader) := by
  cases result <;> rfl

end Reader

namespace Scan

open Reader

def moved (lead distance : Nat) (scan : Scan) : Scan :=
  { scan with leader := scan.leader + lead, position := scan.position + distance }

def movedProgress (lead distance : Nat) : Progress Scan Block → Progress Scan Block
  | .more next => .more (next.moved lead distance)
  | .done result => .done (movedOutcome lead distance result)

variable (lead distance : Nat)

theorem expect_moved {go later : Progress Scan Block} (same : later = movedProgress lead distance go)
    (found expected : UInt8) (kind : TapeError.Kind) (offset : Nat) :
    Scan.expect found expected kind (offset + distance) later =
      movedProgress lead distance (Scan.expect found expected kind offset go) := by
  unfold Scan.expect
  split
  · exact same
  · rfl

theorem frame_moved {go later : UInt8 → Progress Scan Block}
    (same : ∀ value, later value = movedProgress lead distance (go value)) (channels byte : UInt8) (offset : Nat) :
    frame channels byte (offset + distance) later = movedProgress lead distance (frame channels byte offset go) := by
  unfold frame
  split
  · exact same _
  · rfl

theorem finished_moved (scan : Scan) :
    (scan.moved lead distance).finished = movedOutcome lead distance scan.finished := by
  obtain ⟨stage, leader, position, reversed⟩ := scan
  cases folds : Word.checksum reversed.reverse == 0 with
  | true =>
    simp only [finished, moved, folds, if_true]
    rfl
  | false =>
    simp only [finished, moved, folds, Bool.false_eq_true, if_false]
    rfl

theorem step_moved (scan : Scan) (offset : Nat) (byte : UInt8) :
    (scan.moved lead distance).step (offset + distance) byte = movedProgress lead distance (scan.step offset byte) := by
  obtain ⟨stage, leader, position, reversed⟩ := scan
  cases stage with
  | leader =>
    simp only [step, moved]
    split
    · simp only [movedProgress, moved, Nat.add_right_comm]
    · split
      · rfl
      · split <;> rfl
  | endOfTapeMiddle => exact expect_moved lead distance (by rfl) ..
  | endOfTapeClose => exact expect_moved lead distance (by rfl) ..
  | wordBoundary =>
    simp only [step, moved]
    split
    · rfl
    · apply frame_moved
      intro value
      rfl
  | secondFrame high =>
    simp only [step, moved]
    split
    · rfl
    · apply frame_moved
      intro value
      rfl
  | thirdFrame high middle =>
    simp only [step, moved]
    split
    · rfl
    · apply frame_moved
      intro value
      rfl
  | close => exact expect_moved lead distance (congrArg Progress.done (finished_moved lead distance _)) ..

theorem feed_moved (scan : Scan) (signals : List Signal) (offset : Nat) :
    feed machine (scan.moved lead distance) signals (offset + distance) =
      movedResult lead distance (feed machine scan signals offset) := by
  induction signals generalizing scan offset with
  | nil =>
    obtain ⟨stage, leader, position, reversed⟩ := scan
    cases stage <;> rfl
  | cons signal signals ih =>
    cases signal with
    | interrupted => exact ih scan offset
    | failure cause => rfl
    | byte value =>
      have stepped := step_moved lead distance scan offset value
      cases next : scan.step offset value with
      | more next' =>
        rw [next] at stepped
        rw [feed_more stepped, feed_more next, Nat.add_right_comm]
        exact ih next' (offset + 1)
      | done result =>
        rw [next] at stepped
        rw [feed_done stepped, feed_done next, ← answer_moved, Reader.moved, Nat.add_right_comm]

theorem feed_unplaced (leader position other : Nat) (signals : List Signal) (offset : Nat) :
    feed machine { leader, position } signals offset = feed machine { leader, position := other } signals offset := by
  induction signals generalizing leader offset with
  | nil => rfl
  | cons signal signals ih =>
    cases signal with
    | interrupted => exact ih leader offset
    | failure cause => rfl
    | byte value =>
      by_cases blank : value = Frame.blank
      · have more (position : Nat) :
            step { leader, position } offset value = .more { leader := leader + 1, position } := by
          simp [step, blank]
        rw [feed_more (more position), feed_more (more other)]
        exact ih (leader + 1) (offset + 1)
      · have same : step { leader, position } offset value = step { leader, position := other } offset value := by
          simp [step, blank]
        simp only [feed, machine, same]

end Scan

namespace Block

open Reader Scan

theorem decode_moved (distance : Nat) (reader : Reader) :
    decode (reader.moved distance) = movedResult 0 distance (decode reader) :=
  (feed_unplaced 0 0 (0 + distance) reader.signals (reader.offset + distance)).trans
    (feed_moved 0 distance {} reader.signals reader.offset)

theorem decode_led (lead start : Nat) (tape : List UInt8) :
    decode ⟨(List.replicate lead Frame.blank ++ tape).map .byte, start⟩ =
      movedResult lead (start + lead) (decode ⟨tape.map .byte, 0⟩) := by
  have behind := decode_leader lead tape [] start
  rw [List.append_nil, List.append_nil] at behind
  have further := feed_moved lead (start + lead) {} (tape.map .byte) 0
  simp only [Scan.moved, Nat.zero_add] at further
  rw [behind, feed_unplaced lead 0 (start + lead), further]
  rfl

theorem classify_moved (lead distance : Nat) (block : Block) :
    (block.moved lead distance).classify = block.classify.mapError (TapeError.moved distance) := by
  obtain ⟨leader, words, endOfTape, position⟩ := block
  cases endOfTape with
  | true => rfl
  | false =>
    cases words with
    | nil => rfl
    | cons first rest =>
      simp only [classify, moved]
      cases Kind.find? (Word.high first) (Word.middle first) <;> rfl

end Block

namespace ObjectBlock

def moved (lead distance : Nat) (object : ObjectBlock) : ObjectBlock :=
  { object with block := object.block.moved lead distance }

def further (lead distance : Nat) : List ObjectBlock → List ObjectBlock
  | [] => []
  | first :: rest => first.moved lead distance :: rest.map (moved 0 distance)

theorem further_zero (distance : Nat) (objects : List ObjectBlock) :
    further 0 distance objects = objects.map (moved 0 distance) := by
  cases objects <;> rfl

theorem ofBlock_moved (lead distance : Nat) (block : Block) :
    ofBlock (block.moved lead distance) =
      ((ofBlock block).map (moved lead distance)).mapError (TapeError.moved distance) := by
  rw [ofBlock, Block.classify_moved, ofBlock]
  cases block.classify <;> rfl

end ObjectBlock

namespace Reading

open ObjectBlock

theorem ofReader_error_further {reader later left left' : Reader} {error : TapeError} {lead distance : Nat}
    (earlier : Block.decode reader = .error error left)
    (decoded : Block.decode later = .error (error.moved distance) left') :
    (ofReader later).blocks = further lead distance (ofReader reader).blocks ∧
      (ofReader later).failure = (ofReader reader).failure.map (TapeError.moved distance) := by
  rw [ofReader_error earlier, ofReader_error decoded, TapeError.isCleanEnd_moved]
  cases error.isCleanEnd <;> exact ⟨rfl, rfl⟩

theorem ofReader_further {reader later : Reader} {lead distance : Nat}
    (decoded : Block.decode later = Reader.movedResult lead distance (Block.decode reader)) :
    (ofReader later).blocks = further lead distance (ofReader reader).blocks ∧
      (ofReader later).failure = (ofReader reader).failure.map (TapeError.moved distance) := by
  -- Behind the first block there are no more blank frames than before, only the offsets differ.
  induction reader using Reader.attempts.induct generalizing later lead with
  | case1 reader block left same shorter ih =>
    rw [same] at decoded
    cases made : ofBlock block with
    | error error =>
      have refused := ofBlock_moved lead distance block
      rw [made] at refused
      rw [ofReader_refused same made, ofReader_refused decoded refused]
      exact ⟨rfl, rfl⟩
    | ok object =>
      have kept := ofBlock_moved lead distance block
      obtain ⟨rfl, -⟩ := ofBlock_eq_ok.mp made
      rw [made] at kept
      have behind : Block.decode later = .ok (object.moved lead distance).block (left.moved distance) := decoded
      obtain ⟨blocks, failure⟩ := ih (Block.decode_moved distance left)
      have first := ofReader_ok same made
      have second := ofReader_ok behind kept
      rw [first.1, first.2, second.1, second.2, blocks, failure, further_zero]
      exact ⟨rfl, rfl⟩
  | case2 reader error left same clean =>
    rw [same] at decoded
    exact ofReader_error_further same decoded
  | case3 reader error left same unclean shorter ih =>
    rw [same] at decoded
    exact ofReader_error_further same decoded

end Reading

end PaperTape
