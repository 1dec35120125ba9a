import PaperTape.Proofs.Damage
import PaperTape.Proofs.Listings

namespace PaperTape

/-- A well-framed stretch of a tape: blank frames and, behind them, an end-of-tape mark, the words of a block of a known
    kind with their checksum, or words that do not fold to zero. -/
inductive Segment where
  | endMark (leader : Nat) (lead : UInt8) (known : lead = Frame.endOfTapeMarker ∨ lead = Frame.terminator)
  | good (leader : Nat) (first second : UInt16) (rest : List UInt16) (kind : Kind)
      (folded : Word.checksum (first :: second :: rest) = 0) (known : Kind.ofFirstWord? first = some kind)
  | bad (leader : Nat) (words : List UInt16) (unfolded : Word.checksum words ≠ 0)

namespace Segment

open Reader

def framed (words : List UInt16) : List UInt8 :=
  Frame.startMarker :: words.flatMap Word.frames ++ [Frame.midBlockMarker, Frame.terminator]

def bytes : Segment → List UInt8
  | .endMark leader lead _ => List.replicate leader Frame.blank ++ [lead, Frame.midBlockMarker, Frame.terminator]
  | .good leader first second rest _ _ _ => List.replicate leader Frame.blank ++ framed (first :: second :: rest)
  | .bad leader words _ => List.replicate leader Frame.blank ++ framed words

/-- What there is to be listed of a segment that begins at an offset. The last of its words is the checksum. -/
def object? (start : Nat) : Segment → Option ObjectBlock
  | .endMark leader _ _ => some ⟨⟨leader, [], true, start + leader⟩, .endOfTape⟩
  | .good leader first second rest kind _ _ =>
    some ⟨⟨leader, (first :: second :: rest).dropLast, false, start + leader⟩, Word.high first, Word.middle first, kind⟩
  | .bad .. => none

def failure? (start : Nat) : Segment → Option TapeError
  | .bad leader words _ => some (.badChecksum (start + leader) (Word.checksum words))
  | _ => none

def placed : Nat → List Segment → List (Nat × Segment)
  | _, [] => []
  | start, segment :: rest => (start, segment) :: placed (start + segment.bytes.length) rest

def objects (start : Nat) (segments : List Segment) : List ObjectBlock :=
  (placed start segments).filterMap fun place => place.2.object? place.1

def failures (start : Nat) (segments : List Segment) : List TapeError :=
  (placed start segments).filterMap fun place => place.2.failure? place.1

theorem decode_framed (leader : Nat) (words : List UInt16) (rest : List Signal) (start : Nat) :
    Block.decode ⟨(List.replicate leader Frame.blank ++ framed words).map .byte ++ rest, start⟩ =
      answer
        (if Word.checksum words = 0 then .ok ⟨leader, words.dropLast, false, start + leader⟩
        else .error (.badChecksum (start + leader) (Word.checksum words)))
        ⟨rest, start + (List.replicate leader Frame.blank ++ framed words).length⟩ := by
  have length : start + (List.replicate leader Frame.blank ++ framed words).length =
      start + leader + 1 + 3 * words.length + 2 := by
    rw [framed, List.length_append, List.length_replicate, List.cons_append, List.length_cons, List.length_append,
      Word.length_flatMap_frames, List.length_cons, List.length_singleton]
    omega
  rw [length, framed, List.cons_append, Block.decode_words, ← Block.finished_words]
  exact Scan.feed_close _ _ _ rfl

theorem decode_object {segment : Segment} {start : Nat} {object : ObjectBlock}
    (listed : segment.object? start = some object) (rest : List Signal) :
    Block.decode ⟨segment.bytes.map .byte ++ rest, start⟩ = .ok object.block ⟨rest, start + segment.bytes.length⟩ ∧
      object.block.classify = .ok object.classification := by
  cases segment with
  | endMark leader lead known =>
    obtain rfl := Option.some.inj listed
    refine ⟨?_, rfl⟩
    rw [bytes, Block.decode_leader, List.length_append, List.length_replicate]
    rcases known with rfl | rfl <;> rfl
  | good leader first second others kind folded known =>
    obtain rfl := Option.some.inj listed
    refine ⟨?_, ?_⟩
    · rw [bytes, decode_framed, if_pos folded]
      rfl
    · change Kind.find? (Word.high first) (Word.middle first) = some kind at known
      simp only [Block.classify, List.dropLast_cons_cons, Bool.false_eq_true, if_false, known]
  | bad leader words unfolded => cases listed

theorem decode_failure {segment : Segment} {start : Nat} {error : TapeError}
    (refused : segment.failure? start = some error) (rest : List Signal) :
    Block.decode ⟨segment.bytes.map .byte ++ rest, start⟩ = .error error ⟨rest, start + segment.bytes.length⟩ ∧
      error.kind = .checksumMismatch := by
  cases segment with
  | endMark leader lead known => cases refused
  | good leader first second others kind folded known => cases refused
  | bad leader words unfolded =>
    obtain rfl := Option.some.inj refused
    refine ⟨?_, rfl⟩
    rw [bytes, decode_framed, if_neg unfolded]
    rfl

theorem objects_cons (start : Nat) (segment : Segment) (segments : List Segment) :
    objects start (segment :: segments) =
      (segment.object? start).toList ++ objects (start + segment.bytes.length) segments := by
  rw [objects, placed, List.filterMap_cons]
  cases segment.object? start <;> rfl

theorem failures_cons (start : Nat) (segment : Segment) (segments : List Segment) :
    failures start (segment :: segments) =
      (segment.failure? start).toList ++ failures (start + segment.bytes.length) segments := by
  rw [failures, placed, List.filterMap_cons]
  cases segment.failure? start <;> rfl

theorem object_or_failure (start : Nat) (segment : Segment) :
    (∃ object, segment.object? start = some object ∧ segment.failure? start = none) ∨
      ∃ error, segment.failure? start = some error ∧ segment.object? start = none := by
  cases segment with
  | endMark leader lead known => exact .inl ⟨_, rfl, rfl⟩
  | good leader first second rest kind folded known => exact .inl ⟨_, rfl, rfl⟩
  | bad leader words unfolded => exact .inr ⟨_, rfl, rfl⟩

end Segment

namespace Listing

open Reader Segment

def warned (error : TapeError) (listing : Listing) : Listing :=
  { listing with errors := ("warning: " ++ error.text) :: listing.errors }

theorem ofAttempts_mismatch (words : Bool) {error : TapeError} (mismatch : error.kind = .checksumMismatch)
    (offset : Nat) (rest : List Attempt) (blocks bad : Nat) :
    ofAttempts { words, keepGoing := true } (⟨.error error, offset⟩ :: rest) blocks bad =
      (ofAttempts { words, keepGoing := true } rest blocks (bad + 1)).warned error := by
  have unclean : error.isCleanEnd = false := by rw [TapeError.isCleanEnd, mismatch]; rfl
  simp only [ofAttempts, unclean, mismatch]
  rfl

def keptGoing (words : Bool) (blocks bad : Nat) (objects : List ObjectBlock) (failures : List TapeError) : Listing where
  lines :=
    objectLines words objects ++
      [s!"{Text.decimal (blocks + objects.length)} blocks, {Text.decimal (bad + failures.length)} with a bad checksum"]
  errors := failures.map fun error => "warning: " ++ error.text
  exit := if bad + failures.length = 0 then 0 else 1

theorem keptGoing_object (words : Bool) (blocks bad : Nat) (object : ObjectBlock) (objects : List ObjectBlock)
    (failures : List TapeError) :
    keptGoing words blocks bad (object :: objects) failures =
      (keptGoing words (blocks + 1) bad objects failures).preceded
        (blockLines { words } object.block object.classification) := by
  simp only [keptGoing, preceded, objectLines, List.flatMap_cons, List.append_assoc, List.length_cons,
    Nat.add_right_comm blocks 1, ← Nat.add_assoc]

theorem keptGoing_failure (words : Bool) (blocks bad : Nat) (objects : List ObjectBlock) (error : TapeError)
    (failures : List TapeError) :
    keptGoing words blocks bad objects (error :: failures) =
      (keptGoing words blocks (bad + 1) objects failures).warned error := by
  simp only [keptGoing, warned, List.map_cons, List.length_cons, Nat.add_right_comm bad 1, ← Nat.add_assoc]

theorem ofAttempts_segments (words : Bool) (segments : List Segment) (trailing start blocks bad : Nat) :
    let tape := segments.flatMap Segment.bytes ++ List.replicate trailing Frame.blank
    ofAttempts { words, keepGoing := true } (Reader.attempts ⟨tape.map .byte, start⟩) blocks bad =
      keptGoing words blocks bad (objects start segments) (failures start segments) := by
  induction segments generalizing start blocks bad with
  | nil =>
    have blanks := attempts_error (Block.decode_blanks trailing start)
    simp only [List.flatMap_nil, List.nil_append, blanks]
    rfl
  | cons segment segments ih =>
    simp only [List.flatMap_cons, List.append_assoc, List.map_append, objects_cons, failures_cons] at ih ⊢
    -- A segment is decoded whatever stands behind it, and the rest of the tape by the induction.
    rcases segment.object_or_failure start with ⟨object, listed, unrefused⟩ | ⟨error, refused, unlisted⟩
    · obtain ⟨decoded, classified⟩ := decode_object listed
        ((segments.flatMap Segment.bytes).map .byte ++ (List.replicate trailing Frame.blank).map .byte)
      rw [attempts_ok decoded, ofAttempts_ok _ _ _ _ _ classified, ih, listed, unrefused]
      exact (keptGoing_object ..).symm
    · obtain ⟨decoded, mismatch⟩ := decode_failure refused
        ((segments.flatMap Segment.bytes).map .byte ++ (List.replicate trailing Frame.blank).map .byte)
      have unclean : error.isCleanEnd = false := by rw [TapeError.isCleanEnd, mismatch]; rfl
      rw [attempts_error decoded, ofAttempts_mismatch _ mismatch, if_neg (Bool.eq_false_iff.mp unclean), ih, refused,
        unlisted]
      exact (keptGoing_failure ..).symm

/-- A tape of well-framed blocks is listed to its end, if there is a flag that asks for it. Each block that is none of
    the bad ones is shown at its offset, each bad one is warned of at its own, and the last line counts both. -/
theorem run_keptGoing {files : FileSystem} {path : String} (segments : List Segment) (trailing : Nat)
    (opened : files.openEntry path =
      .ok (.file (segments.flatMap Segment.bytes ++ List.replicate trailing Frame.blank)))
    (unflagged : path.startsWith "-" = false) {before after : List String}
    (known : ∀ flag ∈ before ++ after, AsksForWords flag ∨ AsksToKeepGoing flag)
    (onward : ∃ flag ∈ before ++ after, AsksToKeepGoing flag) :
    let shown := objects 0 segments
    let bad := failures 0 segments
    run files (before ++ path :: after) = {
      lines :=
        objectLines ((before ++ after).any (AsksForWords ·)) shown ++
          [s!"{Text.decimal shown.length} blocks, {Text.decimal bad.length} with a bad checksum"]
      errors := bad.map fun error => "warning: " ++ error.text
      exit := if bad.length = 0 then 0 else 1 } := by
  intro shown bad
  have request := Request.ofArguments_surrounding (FileSystem.isEmpty_of_openEntry opened) unflagged known
  have asked : (before ++ after).any (AsksToKeepGoing ·) = true := by
    obtain ⟨flag, member, asks⟩ := onward
    exact List.any_eq_true.mpr ⟨flag, member, decide_eq_true asks⟩
  have listed := ofAttempts_segments ((before ++ after).any (AsksForWords ·)) segments trailing 0 0 0
  simp only [keptGoing, Nat.zero_add] at listed
  simp only [run, request, opened, Options.asked, asked, Bool.false_or]
  exact listed

def mixed : List Segment := [
  .bad 1 [0x1004, 0x1006] (by decide),
  .endMark 0 Frame.terminator (.inr rfl),
  .good 2 0x1004 7 [0x1003] .absoluteWords (by decide) (by decide)]

def mixedFiles : FileSystem where
  working := ["tmp"]
  entries := [(["tmp", "sin.tap"], .file (mixed.flatMap Segment.bytes ++ List.replicate 3 Frame.blank))]

theorem run_keptGoing_mixed :
    mixedFiles.openEntry "sin.tap" = .ok (.file (mixed.flatMap Segment.bytes ++ List.replicate 3 Frame.blank)) ∧
      "sin.tap".startsWith "-" = false ∧
      (∀ flag ∈ ["-k"] ++ ["-w"], AsksForWords flag ∨ AsksToKeepGoing flag) ∧
      (∃ flag ∈ ["-k"] ++ ["-w"], AsksToKeepGoing flag) ∧
      run mixedFiles ["-k", "sin.tap", "-w"] =
        ⟨["      10  leader    0  type 0/00    0 words  end of tape",
            "      15  leader    2  type 1/00    2 words  absolute program words", "          010004 000007",
            "2 blocks, 1 with a bad checksum"],
          ["warning: checksum mismatch: residue 0o000002 (offset 1)"], 1⟩ := by
  have opened : mixedFiles.openEntry "sin.tap" =
      .ok (.file (mixed.flatMap Segment.bytes ++ List.replicate 3 Frame.blank)) := by
    rfl
  have unflagged : "sin.tap".startsWith "-" = false := by cbv
  have known : ∀ flag ∈ ["-k"] ++ ["-w"], AsksForWords flag ∨ AsksToKeepGoing flag := by decide
  have onward : ∃ flag ∈ ["-k"] ++ ["-w"], AsksToKeepGoing flag := by decide
  refine ⟨opened, unflagged, known, onward, (run_keptGoing mixed 3 opened unflagged known onward).trans ?_⟩
  cbv

end Listing

end PaperTape
