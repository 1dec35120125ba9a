import PaperTape.Proofs.Delivery
import PaperTape.Proofs.Spelling

namespace PaperTape

namespace TapeError

def Kind.misplaced : List Kind :=
  [.missingStartMarker, .invalidChannel, .unexpectedMidBlockMarker, .missingTerminator]

def MisplacedAt (offset : Nat) (error : TapeError) : Prop := error.kind ∈ Kind.misplaced ∧ error.offset = offset

theorem misplacedAt {kind : Kind} (known : kind ∈ Kind.misplaced) (offset : Nat) (message : String) :
    MisplacedAt offset ⟨kind, offset, message⟩ := ⟨known, rfl⟩

end TapeError

open TapeError (MisplacedAt misplacedAt)

namespace Scan

open Reader

def through (scan : Scan) (offset : Nat) : List UInt8 → Option Scan
  | [] => some scan
  | byte :: rest =>
    match scan.step offset byte with
    | .more next => next.through (offset + 1) rest
    | .done _ => none

theorem feed_through {scan next : Scan} {offset : Nat} {bytes : List UInt8}
    (reached : scan.through offset bytes = some next) (rest : List Signal) :
    feed machine scan (bytes.map .byte ++ rest) offset = feed machine next rest (offset + bytes.length) := by
  induction bytes generalizing scan offset with
  | nil =>
    cases reached
    rfl
  | cons byte bytes ih =>
    rw [through] at reached
    cases stepped : scan.step offset byte with
    | more middle =>
      rw [stepped] at reached
      rw [List.map_cons, List.cons_append, feed_more stepped, ih reached, List.length_cons, Nat.add_assoc,
        Nat.add_comm 1]
    | done result =>
      rw [stepped] at reached
      cases reached

theorem After.through {start : Nat} {taken bytes : List UInt8} {scan next : Scan} (after : After start taken scan)
    (reached : scan.through (start + taken.length) bytes = some next) : After start (taken ++ bytes) next := by
  induction bytes generalizing scan taken with
  | nil =>
    cases reached
    rwa [List.append_nil]
  | cons byte bytes ih =>
    have outcome := after.step byte
    rw [Scan.through] at reached
    cases stepped : scan.step (start + taken.length) byte with
    | more middle =>
      rw [stepped] at reached outcome
      have further : start + taken.length + 1 = start + (taken ++ [byte]).length := by
        rw [List.length_append, List.length_singleton, Nat.add_assoc]
      rw [further] at reached
      rw [List.append_cons]
      exact ih outcome reached
    | done result =>
      rw [stepped] at reached
      cases reached

theorem through_of_feed {scan : Scan} {offset stop : Nat} {front back : List UInt8} {rest : List Signal} {block : Block}
    (read : feed machine scan ((front ++ back).map .byte ++ rest) offset = .ok block ⟨rest, stop⟩) (short : back ≠ []) :
    ∃ next, scan.through offset front = some next := by
  induction front generalizing scan offset with
  | nil => exact ⟨scan, rfl⟩
  | cons byte front ih =>
    rw [through]
    rw [List.cons_append, List.map_cons, List.cons_append] at read
    cases stepped : scan.step offset byte with
    | more next =>
      rw [feed_more stepped] at read
      exact ih read
    | done result =>
      rw [feed_done stepped] at read
      obtain ⟨-, stopped⟩ := answer_eq_ok.mp read
      obtain ⟨none, -⟩ := Reader.mk.inj stopped
      rw [List.append_left_eq_self, List.map_eq_nil_iff, List.append_eq_nil_iff] at none
      exact absurd none.2 short

theorem exists_answer {scan : Scan} {offset : Nat} {bytes : List UInt8} (settled : scan.through offset bytes = none) :
    ∃ front byte rest next result, bytes = front ++ byte :: rest ∧ scan.through offset front = some next ∧
      next.step (offset + front.length) byte = .done result := by
  induction bytes generalizing scan offset with
  | nil => cases settled
  | cons byte bytes ih =>
    rw [through] at settled
    cases stepped : scan.step offset byte with
    | more next =>
      rw [stepped] at settled
      obtain ⟨front, last, rest, reached, result, rfl, went, ends⟩ := ih settled
      refine ⟨byte :: front, last, rest, reached, result, rfl, ?_, ?_⟩
      · rw [through, stepped]
        exact went
      · rwa [List.length_cons, Nat.add_comm front.length, ← Nat.add_assoc]
    | done result => exact ⟨[], byte, bytes, scan, result, rfl, rfl, stepped⟩

theorem expect_refused {found expected : UInt8} {kind : TapeError.Kind} {offset : Nat} {go : Progress Scan Block}
    {error : TapeError} (known : kind ∈ TapeError.Kind.misplaced)
    (refused : Scan.expect found expected kind offset go = .done (.error error)) :
    MisplacedAt offset error ∨ go = .done (.error error) := by
  unfold Scan.expect at refused
  split at refused
  · exact .inr refused
  · cases refused
    exact .inl (misplacedAt known _ _)

theorem frame_refused {channels byte : UInt8} {offset : Nat} {go : UInt8 → Progress Scan Block} {error : TapeError}
    (goes : ∀ value, go value ≠ .done (.error error))
    (refused : frame channels byte offset go = .done (.error error)) : MisplacedAt offset error := by
  unfold frame at refused
  split at refused
  · exact absurd refused (goes _)
  · cases refused
    exact misplacedAt (by decide) _ _

theorem finished_refused {scan : Scan} {error : TapeError} (refused : scan.finished = .error error) :
    error = .badChecksum scan.position (Word.checksum scan.reversed.reverse) := by
  simp only [finished] at refused
  split at refused
  · cases refused
  · cases refused
    rfl

theorem step_refused {scan : Scan} {offset : Nat} {byte : UInt8} {error : TapeError}
    (refused : scan.step offset byte = .done (.error error)) :
    MisplacedAt offset error ∨
      scan.stage = .close ∧ error = .badChecksum scan.position (Word.checksum scan.reversed.reverse) := by
  obtain ⟨stage, leader, position, reversed⟩ := scan
  cases stage with
  | leader =>
    simp only [step] at refused
    split at refused
    · cases refused
    · split at refused
      · cases refused
      · split at refused
        · cases refused
        · cases refused
          exact .inl (misplacedAt (by decide) _ _)
  | endOfTapeMiddle | endOfTapeClose =>
    rcases expect_refused (by decide) refused with misplaced | ended
    · exact .inl misplaced
    · cases ended
  | wordBoundary =>
    simp only [step] at refused
    split at refused
    · cases refused
    · refine .inl (frame_refused ?_ refused)
      rintro _ ⟨⟩
  | secondFrame high =>
    simp only [step] at refused
    split at refused
    · cases refused
      exact .inl (misplacedAt (by decide) _ _)
    · refine .inl (frame_refused ?_ refused)
      rintro _ ⟨⟩
  | thirdFrame high middle =>
    simp only [step] at refused
    split at refused
    · cases refused
      exact .inl (misplacedAt (by decide) _ _)
    · refine .inl (frame_refused ?_ refused)
      rintro _ ⟨⟩
  | close =>
    rcases expect_refused (by decide) refused with misplaced | ended
    · exact .inl misplaced
    · exact .inr ⟨rfl, finished_refused (Progress.done.inj ended)⟩

theorem After.opened {start : Nat} {taken : List UInt8} {scan : Scan} (after : After start taken scan)
    (behind : scan.stage ≠ .leader) :
    ∃ marker frames, taken = List.replicate scan.leader Frame.blank ++ marker :: frames ∧ marker ≠ Frame.blank := by
  obtain ⟨⟨frames, read, rfl⟩, -⟩ := after
  obtain ⟨stage, leader, position, reversed⟩ := scan
  cases stage with
  | leader => exact absurd rfl behind
  | endOfTapeMiddle =>
    rcases read with rfl | rfl
    · exact ⟨_, _, rfl, by decide⟩
    · exact ⟨_, _, rfl, by decide⟩
  | endOfTapeClose =>
    rcases read with rfl | rfl
    · exact ⟨_, _, rfl, by decide⟩
    · exact ⟨_, _, rfl, by decide⟩
  | wordBoundary => exact ⟨_, _, congrArg _ read, by decide⟩
  | secondFrame high => exact ⟨_, _, congrArg _ read.2, by decide⟩
  | thirdFrame high middle => exact ⟨_, _, congrArg _ read.2.2, by decide⟩
  | close => exact ⟨_, _, congrArg _ read, by decide⟩

theorem atEnd_of_leading {scan : Scan} (leading : scan.stage = .leader) (offset : Nat) :
    scan.atEnd offset = .endOfTape offset := by
  simp only [atEnd, leading]

theorem atEnd_of_inside {scan : Scan} (inside : scan.stage ≠ .leader) (offset : Nat) :
    scan.atEnd offset = .cutShort offset := by
  obtain ⟨stage, leader, position, reversed⟩ := scan
  cases stage with
  | leader => exact absurd rfl inside
  | _ => rfl

end Scan

end PaperTape
