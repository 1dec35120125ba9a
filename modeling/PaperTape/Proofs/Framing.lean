import PaperTape.Proofs.Scanning

namespace PaperTape

open TapeError (MisplacedAt)

namespace Scan

open Reader

def closing : Stage → List UInt8
  | .leader => [Frame.endOfTapeMarker, Frame.midBlockMarker, Frame.terminator]
  | .endOfTapeMiddle => [Frame.midBlockMarker, Frame.terminator]
  | .endOfTapeClose => [Frame.terminator]
  | .wordBoundary => [Frame.midBlockMarker, Frame.terminator]
  | .secondFrame _ => [Frame.channel8, Frame.channel8, Frame.midBlockMarker, Frame.terminator]
  | .thirdFrame _ _ => [Frame.channel8, Frame.midBlockMarker, Frame.terminator]
  | .close => [Frame.terminator]

theorem closing_ne_nil (stage : Stage) : closing stage ≠ [] := by
  cases stage <;> exact List.cons_ne_nil _ _

end Scan

theorem Tape.findIdx?_led (leader : Nat) {marker : UInt8} (punched : marker ≠ Frame.blank) (rest : List UInt8) :
    (List.replicate leader Frame.blank ++ marker :: rest).findIdx? (· != Frame.blank) = some leader := by
  induction leader with
  | zero => simp [List.findIdx?_cons, punched]
  | succ leader ih =>
    rw [List.replicate_succ, List.cons_append, List.findIdx?_cons, ih]
    rfl

namespace Block

open Reader Scan

/-- A block, or words that do not fold to zero, and nothing left to be read. -/
def Complete : EStateM.Result TapeError Reader Block → Prop
  | .ok _ left => left.signals = []
  | .error error left => error.kind = .checksumMismatch ∧ left.signals = []

/-- Bytes that are one block from the first to the last, up to the checksum of its words. -/
def WellFramed (bytes : List UInt8) : Prop := Complete (decode (.ofBytes bytes))

def Begun (bytes : List UInt8) : Prop := ∃ whole, WellFramed whole ∧ bytes <+: whole

theorem complete_finished (scan : Scan) (offset : Nat) : Complete (answer scan.finished ⟨[], offset⟩) := by
  cases ended : scan.finished with
  | ok block => exact rfl
  | error error =>
    rw [finished_refused ended]
    exact ⟨rfl, rfl⟩

theorem complete_closing (scan : Scan) (offset : Nat) :
    Complete (feed machine scan ((closing scan.stage).map .byte) offset) := by
  obtain ⟨stage, leader, position, reversed⟩ := scan
  cases stage with
  | leader => exact rfl
  | endOfTapeMiddle => exact rfl
  | endOfTapeClose => exact rfl
  | wordBoundary => exact complete_finished _ _
  | secondFrame high => exact complete_finished _ _
  | thirdFrame high middle => exact complete_finished _ _
  | close => exact complete_finished _ _

section

variable {front : List UInt8} {next : Scan} (went : Scan.through {} 0 front = some next)

include went

theorem decode_through (rest : List UInt8) :
    decode (.ofBytes (front ++ rest)) = feed machine next (rest.map .byte) front.length := by
  have further := feed_through went (rest.map .byte)
  rwa [← List.map_append, Nat.zero_add] at further

theorem wellFramed_closing : WellFramed (front ++ closing next.stage) := by
  rw [WellFramed, decode_through went]
  exact complete_closing next front.length

theorem decode_answer {byte : UInt8} {result : Except TapeError Block} (ends : next.step front.length byte = .done result)
    (rest : List UInt8) :
    decode (.ofBytes (front ++ byte :: rest)) = answer result ⟨rest.map .byte, front.length + 1⟩ := by
  rw [decode_through went, List.map_cons, feed_done ends]

theorem not_begun_of_misplaced {byte : UInt8} {error : TapeError}
    (refused : next.step front.length byte = .done (.error error)) (misplaced : MisplacedAt front.length error) :
    ¬ Begun (front ++ [byte]) := by
  rintro ⟨whole, framed, rest, rfl⟩
  rw [List.append_assoc, List.singleton_append, WellFramed, decode_answer went refused] at framed
  have other := misplaced.1
  rw [framed.1] at other
  exact absurd other (by decide)

end

/-- What a failure says of a tape, and where it leaves the reader. Bytes are refused at the first of them that no block
    allows for, an end that comes too early could have been put off, and words that do not fold to zero are read to
    the end of their block. -/
def Earliest (tape : List UInt8) (error : TapeError) (left : Reader) : Prop :=
  match error.kind with
  | .missingStartMarker | .invalidChannel | .unexpectedMidBlockMarker | .missingTerminator =>
    error.offset < tape.length ∧ left = ⟨(tape.drop (error.offset + 1)).map .byte, error.offset + 1⟩ ∧
      Begun (tape.take error.offset) ∧ ¬ Begun (tape.take (error.offset + 1))
  | .unexpectedEnd =>
    error.offset = tape.length ∧ left = ⟨[], tape.length⟩ ∧ (∃ frame ∈ tape, frame ≠ Frame.blank) ∧
      ∃ whole, WellFramed whole ∧ tape <+: whole ∧ tape ≠ whole
  | .cleanEnd => error.offset = tape.length ∧ left = ⟨[], tape.length⟩ ∧ ∀ frame ∈ tape, frame = Frame.blank
  | .checksumMismatch =>
    ∃ taken rest, tape = taken ++ rest ∧ left = ⟨rest.map .byte, taken.length⟩ ∧ WellFramed taken ∧
      tape.findIdx? (· != Frame.blank) = some error.offset
  | .stream | .unknownBlockType | .emptyBlock => False

theorem earliest_ended {tape : List UInt8} {next : Scan} (went : Scan.through {} 0 tape = some next) :
    Earliest tape (next.atEnd tape.length) ⟨[], tape.length⟩ := by
  have after := (After.start 0).through went
  by_cases leading : next.stage = .leader
  · obtain ⟨⟨frames, read, blanks⟩, -⟩ := after
    rw [Taken, leading] at read
    rw [List.nil_append, read.1, List.append_nil] at blanks
    rw [atEnd_of_leading leading]
    refine ⟨rfl, rfl, fun frame member => ?_⟩
    rw [blanks] at member
    exact List.eq_of_mem_replicate member
  · obtain ⟨marker, frames, same, punched⟩ := after.opened leading
    rw [List.nil_append] at same
    rw [atEnd_of_inside leading]
    refine ⟨rfl, rfl, ⟨marker, by simp [same], punched⟩, _, wellFramed_closing went, List.prefix_append _ _, ?_⟩
    intro whole
    exact closing_ne_nil next.stage (List.append_right_eq_self.mp whole.symm)

theorem earliest_misplaced {front : List UInt8} {byte : UInt8} {next : Scan} {error : TapeError}
    (went : Scan.through {} 0 front = some next) (refused : next.step front.length byte = .done (.error error))
    (misplaced : MisplacedAt front.length error) (rest : List UInt8) :
    Earliest (front ++ byte :: rest) error ⟨rest.map .byte, front.length + 1⟩ := by
  have begun : Begun front := ⟨_, wellFramed_closing went, List.prefix_append _ _⟩
  have dead := not_begun_of_misplaced went refused misplaced
  have split : front ++ byte :: rest = front ++ [byte] ++ rest := List.append_cons ..
  have length : (front ++ [byte]).length = front.length + 1 := List.length_append
  have whole :
      front.length < (front ++ byte :: rest).length ∧
        Reader.mk (rest.map .byte) (front.length + 1) =
          ⟨((front ++ byte :: rest).drop (front.length + 1)).map .byte, front.length + 1⟩ ∧
        Begun ((front ++ byte :: rest).take front.length) ∧
        ¬ Begun ((front ++ byte :: rest).take (front.length + 1)) := by
    refine ⟨by simp, ?_, by rwa [List.take_left], ?_⟩
    · rw [split, ← length, List.drop_left]
    · rwa [split, ← length, List.take_left]
  obtain ⟨kind, offset, message⟩ := error
  obtain ⟨known, rfl⟩ := misplaced
  simp only [TapeError.Kind.misplaced, List.mem_cons, List.not_mem_nil, or_false] at known
  rcases known with rfl | rfl | rfl | rfl
  all_goals exact whole

theorem earliest_unfolded {front : List UInt8} {byte : UInt8} {next : Scan}
    (went : Scan.through {} 0 front = some next) (closed : next.stage = .close) {residue : UInt16}
    (refused : next.step front.length byte = .done (.error (.badChecksum next.position residue))) (rest : List UInt8) :
    Earliest (front ++ byte :: rest) (.badChecksum next.position residue) ⟨rest.map .byte, front.length + 1⟩ := by
  have after := (After.start 0).through went
  have inside : next.stage ≠ .leader := by simp [closed]
  obtain ⟨marker, frames, same, punched⟩ := after.opened inside
  have position := after.position.resolve_left inside
  rw [Nat.zero_add] at position
  rw [List.nil_append] at same
  refine ⟨front ++ [byte], rest, List.append_cons .., by simp, ?_, ?_⟩
  · rw [WellFramed, decode_answer went refused]
    exact ⟨rfl, rfl⟩
  · rw [same, List.append_assoc, List.cons_append, Tape.findIdx?_led _ punched, ← position]
    rfl

/-- Whatever decoding fails at is the earliest fault of the framing, told at the offset of its byte. -/
theorem decode_earliest {tape : List UInt8} {error : TapeError} {left : Reader}
    (refused : decode (.ofBytes tape) = .error error left) : Earliest tape error left := by
  -- Either no byte of the tape is refused and its end is, or one of them is answered.
  cases settled : Scan.through {} 0 tape with
  | some next =>
    have ended := decode_through settled []
    rw [List.append_nil, refused] at ended
    obtain ⟨rfl, rfl⟩ := EStateM.Result.error.inj ended
    exact earliest_ended settled
  | none =>
    obtain ⟨front, byte, rest, next, result, rfl, went, ends⟩ := exists_answer settled
    rw [Nat.zero_add] at ends
    rw [decode_answer went ends] at refused
    cases result with
    | ok block => cases refused
    | error error =>
      obtain ⟨rfl, rfl⟩ := EStateM.Result.error.inj refused
      rcases step_refused ends with misplaced | ⟨closed, rfl⟩
      · exact earliest_misplaced went ends misplaced rest
      · exact earliest_unfolded went closed ends rest

/-- The marker in the middle of a word is refused, though the block in front of it could have gone on. The second block
    is read to its end, with another one behind it. -/
theorem decode_earliest_marker :
    decode (.ofBytes [0x00, 0x81, 0x81, 0x93, 0xFF]) = .error (.markerInsideWord 3) ⟨[.byte 0xFF], 4⟩ ∧
      Begun [0x00, 0x81, 0x81] ∧ ¬ Begun [0x00, 0x81, 0x81, 0x93] ∧
      decode (.ofBytes [0x00, 0x81, 0x81, 0x80, 0x84, 0x93, 0xFF, 0x83]) =
        .error (.badChecksum 1 0x1004) ⟨[.byte 0x83], 7⟩ ∧
      Earliest [0x00, 0x81, 0x81, 0x80, 0x84, 0x93, 0xFF, 0x83] (.badChecksum 1 0x1004) ⟨[.byte 0x83], 7⟩ := by
  have marker : decode (.ofBytes [0x00, 0x81, 0x81, 0x93, 0xFF]) = .error (.markerInsideWord 3) ⟨[.byte 0xFF], 4⟩ := by
    rfl
  have unfolded : decode (.ofBytes [0x00, 0x81, 0x81, 0x80, 0x84, 0x93, 0xFF, 0x83]) =
      .error (.badChecksum 1 0x1004) ⟨[.byte 0x83], 7⟩ := by
    rfl
  obtain ⟨-, -, begun, dead⟩ := decode_earliest marker
  exact ⟨marker, begun, dead, unfolded, decode_earliest unfolded⟩

end Block

end PaperTape
