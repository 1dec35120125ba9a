import PaperTape.Block
import PaperTape.Reader

namespace PaperTape

namespace Scan

inductive Stage where
  | leader
  | endOfTapeMiddle
  | endOfTapeClose
  /-- The first frame of a word, or the mid-block marker. -/
  | wordBoundary
  | secondFrame (high : UInt8)
  | thirdFrame (high middle : UInt8)
  | close
  deriving DecidableEq, Repr

end Scan

structure Scan where
  stage : Scan.Stage := .leader
  leader : Nat := 0
  position : Nat := 0
  /-- The words so far, the last one first. -/
  reversed : List UInt16 := []
  deriving DecidableEq, Repr

namespace Scan

def more (scan : Scan) (stage : Stage) : Progress Scan Block := .more { scan with stage }

def fail (error : TapeError) : Progress Scan Block := .done (.error error)

def expect (found expected : UInt8) (kind : TapeError.Kind) (offset : Nat) (go : Progress Scan Block) :
    Progress Scan Block :=
  if found == expected then go else fail (.wrongMarker kind offset expected found)

def frame (channels byte : UInt8) (offset : Nat) (go : UInt8 → Progress Scan Block) : Progress Scan Block :=
  match Frame.value? channels byte with
  | some value => go value
  | none => fail (.badFrame offset byte)

def finished (scan : Scan) : Except TapeError Block :=
  let residue := Word.checksum scan.reversed.reverse
  if residue == 0 then .ok ⟨scan.leader, scan.reversed.tail.reverse, false, scan.position⟩
  else .error (.badChecksum scan.position residue)

def step (scan : Scan) (offset : Nat) (byte : UInt8) : Progress Scan Block :=
  match scan.stage with
  | .leader =>
    if byte == Frame.blank then .more { scan with leader := scan.leader + 1 }
    else
      let opened := { scan with position := offset }
      if byte == Frame.startMarker then opened.more .wordBoundary
      else if byte == Frame.endOfTapeMarker || byte == Frame.terminator then opened.more .endOfTapeMiddle
      else fail (.strayAfterLeader offset byte)
  | .endOfTapeMiddle =>
    expect byte Frame.midBlockMarker .missingStartMarker offset <| scan.more .endOfTapeClose
  | .endOfTapeClose =>
    expect byte Frame.terminator .missingStartMarker offset <| .done (.ok ⟨scan.leader, [], true, scan.position⟩)
  | .wordBoundary =>
    if byte == Frame.midBlockMarker then scan.more .close
    else frame Frame.leadingChannels byte offset fun high => scan.more (.secondFrame high)
  | .secondFrame high =>
    if byte == Frame.midBlockMarker then fail (.markerInsideWord offset)
    else frame Frame.followingChannels byte offset fun middle => scan.more (.thirdFrame high middle)
  | .thirdFrame high middle =>
    if byte == Frame.midBlockMarker then fail (.markerInsideWord offset)
    else frame Frame.followingChannels byte offset fun low =>
      .more { scan with stage := .wordBoundary, reversed := Word.join high middle low :: scan.reversed }
  | .close => expect byte Frame.terminator .missingTerminator offset <| .done scan.finished

def atEnd (scan : Scan) (offset : Nat) : TapeError :=
  match scan.stage with
  | .leader => .endOfTape offset
  | _ => .cutShort offset

def machine : Machine Scan Block := ⟨step, fun scan offset => .error (scan.atEnd offset)⟩

end Scan

/-- Decodes the next block. A block with a bad checksum is read to its end before it is refused. -/
def Block.decode : EStateM TapeError Reader Block := Reader.run Scan.machine {}

namespace Reader

structure Attempt where
  outcome : Except TapeError Block
  offset : Nat

/-- Each block and each failure but the clean end takes something from the stream. -/
theorem decode_consumes (reader : Reader) :
    match Block.decode reader with
    | .ok _ rest => rest.signals.length < reader.signals.length
    | .error error rest => error.isCleanEnd = true ∨ rest.signals.length < reader.signals.length := by
  obtain ⟨signals, offset⟩ := reader
  cases signals with
  | nil => exact .inl rfl
  | cons signal rest =>
    have shorter : (remaining (Block.decode ⟨signal :: rest, offset⟩)).length ≤ rest.length := by
      cases signal with
      | interrupted => exact remaining_feed Scan.machine {} rest offset
      | failure cause => exact Nat.le_refl _
      | byte value =>
        simp only [Block.decode, run, feed]
        cases Scan.machine.step {} offset value with
        | more next => exact remaining_feed Scan.machine next rest (offset + 1)
        | done result => simp [remaining_answer]
    cases same : Block.decode ⟨signal :: rest, offset⟩ with
    | ok block left => rw [same] at shorter; exact Nat.lt_succ_of_le shorter
    | error error left => rw [same] at shorter; exact .inr (Nat.lt_succ_of_le shorter)

/-- Decodes again and again, going on after failures, until the clean end, which is the last entry. -/
def attempts (reader : Reader) : List Attempt :=
  match same : Block.decode reader with
  | .ok block rest =>
    have : rest.signals.length < reader.signals.length := by
      have consumes := decode_consumes reader
      rwa [same] at consumes
    ⟨.ok block, rest.offset⟩ :: attempts rest
  | .error error rest =>
    if last : error.isCleanEnd then [⟨.error error, rest.offset⟩]
    else
      have : rest.signals.length < reader.signals.length := by
        have consumes := decode_consumes reader
        rw [same] at consumes
        exact consumes.resolve_left last
      ⟨.error error, rest.offset⟩ :: attempts rest
termination_by reader.signals.length

end Reader

end PaperTape
