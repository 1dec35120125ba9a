import PaperTape.Proofs.Truncation

namespace PaperTape

def TapeError.Kind.framing : List Kind :=
  [.missingStartMarker, .invalidChannel, .unexpectedMidBlockMarker, .missingTerminator, .checksumMismatch]

theorem TapeError.Kind.framing_inside : ∀ kind ∈ framing, kind ≠ .cleanEnd ∧ kind ≠ .unexpectedEnd := by decide

theorem TapeError.isCleanEnd_of_framing {error : TapeError} (framing : error.kind ∈ Kind.framing) :
    error.isCleanEnd = false := beq_eq_false_iff_ne.mpr (Kind.framing_inside _ framing).1

namespace Scan

open Reader

def Framed : Progress Scan Block → Prop
  | .done (.error error) => error.kind ∈ TapeError.Kind.framing
  | _ => True

theorem framed_step (scan : Scan) (offset : Nat) (byte : UInt8) : Framed (scan.step offset byte) := by
  cases stepped : scan.step offset byte with
  | more next => trivial
  | done result =>
    cases result with
    | ok block => trivial
    | error error =>
      change error.kind ∈ TapeError.Kind.misplaced ++ [.checksumMismatch]
      rcases step_refused stepped with misplaced | ⟨-, rfl⟩
      · exact List.mem_append_left _ misplaced.1
      · exact List.mem_append_right _ (List.mem_singleton_self _)

theorem feed_settled {scan : Scan} {offset : Nat} {bytes : List UInt8} (settled : scan.through offset bytes = none) :
    ∃ result read rest, bytes = read ++ rest ∧ read ≠ [] ∧ Framed (.done result) ∧
      ∀ more, feed machine scan (bytes.map .byte ++ more) offset =
        answer result ⟨rest.map .byte ++ more, offset + read.length⟩ := by
  obtain ⟨front, byte, rest, next, result, rfl, went, ends⟩ := exists_answer settled
  have framed := framed_step next (offset + front.length) byte
  rw [ends] at framed
  refine ⟨result, front ++ [byte], rest, List.append_cons .., by simp, framed, fun more => ?_⟩
  rw [List.map_append, List.append_assoc, feed_through went, List.map_cons, List.cons_append, feed_done ends,
    List.length_append]
  rfl

end Scan

namespace Block

open Reader Scan

theorem decode_settles (front : List UInt8) (start : Nat) :
    (∃ result read rest, front = read ++ rest ∧ read ≠ [] ∧ Framed (.done result) ∧
      ∀ more, decode ⟨front.map .byte ++ more, start⟩ =
        answer result ⟨rest.map .byte ++ more, start + read.length⟩) ∨
    ∃ scan : Scan, ∀ more, decode ⟨front.map .byte ++ more, start⟩ = feed machine scan more (start + front.length) := by
  cases reached : Scan.through {} start front with
  | none => exact .inl (feed_settled reached)
  | some scan => exact .inr ⟨scan, fun more => feed_through reached more⟩

end Block

theorem Block.kind_classify {block : Block} {error : TapeError} (refused : block.classify = .error error) :
    error.kind = .emptyBlock ∨ error.kind = .unknownBlockType := by
  unfold classify at refused
  split at refused
  · cases refused
  · split at refused
    · cases refused
      exact .inl rfl
    · simp only at refused
      split at refused
      · cases refused
      · cases refused
        exact .inr rfl

theorem ObjectBlock.ofBlock_eq_error {block : Block} {error : TapeError} :
    ofBlock block = .error error ↔ block.classify = .error error := by
  unfold ofBlock
  cases block.classify <;> simp [Except.map]

namespace Reading

/-- What is said of a tape whose stream fails where it ends. An end is no end then, and what is wrong with the bytes
    in front of it is still wrong. -/
def broken (failure : TapeError) : Option TapeError → TapeError
  | none => failure
  | some error => if error.kind = .unexpectedEnd then failure else error

theorem broken_of_ne (failure : TapeError) {error : TapeError} (uncut : error.kind ≠ .unexpectedEnd) :
    broken failure (some error) = error := if_neg uncut

/-- A stream that fails behind some bytes is read as these bytes, up to what is said of their end. -/
theorem ofReader_failing (front : List UInt8) (cause : String) (rest : List Signal) (start : Nat) :
    (ofReader ⟨front.map .byte ++ .failure cause :: rest, start⟩).blocks =
        (ofReader ⟨front.map .byte, start⟩).blocks ∧
      (ofReader ⟨front.map .byte ++ .failure cause :: rest, start⟩).failure =
        some (broken (.couldNotRead (start + front.length) cause) (ofReader ⟨front.map .byte, start⟩).failure) := by
  -- Each block takes some bytes, so the induction is on what is left of them.
  induction size_eq : front.length using Nat.strongRecOn generalizing front start with
  | ind size ih =>
    rcases Block.decode_settles front start with ⟨result, read, left, rfl, taken, framed, decoded⟩ | ⟨scan, decoded⟩
    · have whole := decoded []
      have failing := decoded (.failure cause :: rest)
      rw [List.append_nil, List.append_nil] at whole
      cases result with
      | error error =>
        obtain ⟨-, uncut⟩ := TapeError.Kind.framing_inside _ framed
        rw [ofReader_error whole, ofReader_error failing, TapeError.isCleanEnd_of_framing framed]
        exact ⟨rfl, congrArg some (broken_of_ne _ uncut).symm⟩
      | ok block =>
        cases made : ObjectBlock.ofBlock block with
        | error error =>
          have uncut : error.kind ≠ .unexpectedEnd := by
            rcases Block.kind_classify (ObjectBlock.ofBlock_eq_error.mp made) with kind | kind <;> rw [kind] <;> decide
          rw [ofReader_refused whole made, ofReader_refused failing made]
          exact ⟨rfl, congrArg some (broken_of_ne _ uncut).symm⟩
        | ok object =>
          obtain ⟨rfl, -⟩ := ObjectBlock.ofBlock_eq_ok.mp made
          rw [List.length_append] at size_eq
          have shorter : left.length < size := by
            have := List.length_pos_iff.mpr taken
            omega
          obtain ⟨blocks, failure⟩ := ih left.length shorter left (start + read.length) rfl
          have first := ofReader_ok whole made
          have second := ofReader_ok failing made
          rw [first.1, first.2, second.1, second.2, blocks, failure, Nat.add_assoc, size_eq]
          exact ⟨rfl, rfl⟩
    · have whole := decoded []
      have failing := decoded (.failure cause :: rest)
      rw [List.append_nil] at whole
      obtain ⟨stage, leader, position, reversed⟩ := scan
      rw [ofReader_error whole, ofReader_error failing, size_eq]
      cases stage <;> exact ⟨rfl, rfl⟩

end Reading

namespace Fault

/-- The failure that a stream meets first. No other is at a smaller position, and of those at its own position it is
    the first of the list. -/
structure Foremost (faults : List Fault) (position : Nat) (cause : String) : Prop where
  first : (faults.filter (·.position == position)).findSome? Fault.cause = some cause
  least : ∀ fault ∈ faults, fault.cause.isSome → position ≤ fault.position

theorem uninterrupted_raisedAt (faults : List Fault) (position : Nat) :
    Signal.uninterrupted (raisedAt faults position) =
      ((faults.filter (·.position == position)).filterMap Fault.cause).map .failure := by
  unfold raisedAt
  induction faults.filter (·.position == position) with
  | nil => rfl
  | cons fault faults ih =>
    obtain ⟨place, cause⟩ := fault
    cases cause with
    | none => exact ih
    | some cause => exact congrArg (Signal.failure cause :: ·) ih

theorem uninterrupted_raisedAt_of_none {faults : List Fault} {position : Nat}
    (none : ∀ fault ∈ faults, fault.cause.isSome → fault.position ≠ position) :
    Signal.uninterrupted (raisedAt faults position) = [] := by
  rw [uninterrupted_raisedAt, List.map_eq_nil_iff, List.filterMap_eq_nil_iff]
  intro fault member
  obtain ⟨member, same⟩ := List.mem_filter.mp member
  rw [← Option.not_isSome_iff_eq_none]
  exact fun failing => none fault member failing (eq_of_beq same)

theorem Foremost.uninterrupted_raisedAt {faults : List Fault} {position : Nat} {cause : String}
    (foremost : Foremost faults position cause) :
    ∃ rest, Signal.uninterrupted (raisedAt faults position) = .failure cause :: rest := by
  have first := foremost.first
  rw [← List.head?_filterMap, List.head?_eq_some_iff] at first
  obtain ⟨causes, same⟩ := first
  rw [Fault.uninterrupted_raisedAt, same]
  exact ⟨_, rfl⟩

theorem exists_foremost {faults : List Fault} {limit : Nat}
    (failing : ∃ fault ∈ faults, fault.cause.isSome ∧ fault.position ≤ limit) :
    ∃ position cause, Foremost faults position cause ∧ position ≤ limit := by
  obtain ⟨early, among, raised, within⟩ := failing
  have some : ∃ position, ∃ fault ∈ faults, fault.cause.isSome ∧ fault.position = position :=
    ⟨early.position, early, among, raised, rfl⟩
  have least (fault : Fault) (member : fault ∈ faults) (failing : fault.cause.isSome) :
      Nat.find some ≤ fault.position := Nat.find_min' some ⟨fault, member, failing, rfl⟩
  obtain ⟨fault, member, failing, placed⟩ := Nat.find_spec some
  cases found : (faults.filter (·.position == Nat.find some)).findSome? Fault.cause with
  | none =>
    have empty := List.findSome?_eq_none_iff.mp found fault (List.mem_filter.mpr ⟨member, beq_iff_eq.mpr placed⟩)
    rw [empty] at failing
    cases failing
  | some cause => exact ⟨_, cause, ⟨found, least⟩, Nat.le_trans (least early among raised) within⟩

end Fault

namespace Signal

open Fault

theorem uninterrupted_append (front back : List Signal) :
    uninterrupted (front ++ back) = uninterrupted front ++ uninterrupted back := List.filter_append ..

theorem uninterrupted_weave {faults : List Fault} (bytes : List UInt8) (position : Nat)
    (none : ∀ fault ∈ faults, fault.cause.isSome → position + bytes.length < fault.position) :
    uninterrupted (weave faults bytes position) = bytes.map .byte := by
  induction bytes generalizing position with
  | nil =>
    apply uninterrupted_raisedAt_of_none
    intro fault member failing
    exact Nat.ne_of_gt (none fault member failing)
  | cons value bytes ih =>
    have later (fault : Fault) (member : fault ∈ faults) (failing : fault.cause.isSome) :
        position + 1 + bytes.length < fault.position := by
      have := none fault member failing
      rw [List.length_cons] at this
      omega
    have clear : uninterrupted (raisedAt faults position) = [] := by
      apply uninterrupted_raisedAt_of_none
      intro fault member failing
      have := later fault member failing
      omega
    rw [weave, uninterrupted_append, clear]
    exact congrArg (Signal.byte value :: ·) (ih _ later)

theorem uninterrupted_weave_foremost {faults : List Fault} {place : Nat} {cause : String}
    (foremost : Foremost faults place cause) (bytes : List UInt8) (position : Nat) (behind : position ≤ place)
    (within : place ≤ position + bytes.length) :
    ∃ rest, uninterrupted (weave faults bytes position) =
      (bytes.take (place - position)).map .byte ++ .failure cause :: rest := by
  induction bytes generalizing position with
  | nil =>
    obtain rfl : position = place := Nat.le_antisymm behind within
    simpa [weave] using foremost.uninterrupted_raisedAt
  | cons value bytes ih =>
    rw [weave, uninterrupted_append]
    by_cases here : position = place
    · obtain ⟨rest, raised⟩ := foremost.uninterrupted_raisedAt
      rw [here, raised, Nat.sub_self]
      exact ⟨_, rfl⟩
    · have clear : uninterrupted (raisedAt faults position) = [] := by
        apply uninterrupted_raisedAt_of_none
        intro fault member failing same
        have := foremost.least fault member failing
        omega
      obtain ⟨rest, same⟩ := ih (position + 1) (by omega) (by rw [List.length_cons] at within; omega)
      have step : place - position = place - (position + 1) + 1 := by omega
      rw [clear, step, List.take_succ_cons]
      exact ⟨rest, congrArg (Signal.byte value :: ·) same⟩

end Signal

namespace Reader

theorem decode_uninterrupted (reader : Reader) :
    Block.decode reader.uninterrupted = uninterruptedResult (Block.decode reader) := by
  unfold Block.decode run
  exact feed_uninterrupted ..

theorem attempts_uninterrupted (reader : Reader) : reader.uninterrupted.attempts = reader.attempts := by
  induction reader using attempts.induct with
  | case1 reader block left decoded _ ih =>
    have same := decode_uninterrupted reader
    rw [decoded] at same
    rw [attempts_ok same, attempts_ok decoded, ih]
    rfl
  | case2 reader error left decoded clean =>
    have same := decode_uninterrupted reader
    rw [decoded] at same
    rw [attempts_error same, attempts_error decoded, if_pos clean, if_pos clean]
    rfl
  | case3 reader error left decoded unclean _ ih =>
    have same := decode_uninterrupted reader
    rw [decoded] at same
    rw [attempts_error same, attempts_error decoded, if_neg unclean, if_neg unclean, ih]
    rfl

end Reader

namespace ObjectFile

open Reader

def brokenOff (failure : TapeError) :
    EStateM.Result TapeError ObjectFile Unit → EStateM.Result TapeError ObjectFile Unit
  | .ok () kept => .error failure kept
  | .error error kept => .error (if error.kind = .unexpectedEnd then failure else error) kept

theorem brokenOff_ne_ok (failure : TapeError) (result : EStateM.Result TapeError ObjectFile Unit)
    (file : ObjectFile) : brokenOff failure result ≠ .ok () file := by
  cases result <;> exact nofun

theorem read_uninterrupted (reader : Reader) (file : ObjectFile) :
    read reader.uninterrupted file = read reader file := by
  rw [read, read, Reading.ofReader, Reading.ofReader, attempts_uninterrupted]

theorem read_failing (bytes : List UInt8) (cause : String) (rest : List Signal) (file : ObjectFile) :
    read (.ofSignals (bytes.map .byte ++ .failure cause :: rest)) file =
      brokenOff (.couldNotRead bytes.length cause) (read (.ofBytes bytes) file) := by
  obtain ⟨blocks, failure⟩ := Reading.ofReader_failing bytes cause rest 0
  rw [Nat.zero_add] at failure
  simp only [read, ofBytes, ofSignals, blocks, failure]
  cases (Reading.ofReader ⟨bytes.map .byte, 0⟩).failure <;> rfl

theorem read_unfailing {bytes : List UInt8} {faults : List Fault}
    (none : ∀ fault ∈ faults, fault.cause.isSome → bytes.length < fault.position) (file : ObjectFile) :
    read (.ofFaulty bytes faults) file = read (.ofBytes bytes) file := by
  have same := Signal.uninterrupted_weave bytes 0 (by rwa [Nat.zero_add])
  rw [← read_uninterrupted, uninterrupted, ofFaulty, ofSignals, same]
  rfl

theorem read_foremost {bytes : List UInt8} {faults : List Fault} {position : Nat} {cause : String}
    (foremost : Fault.Foremost faults position cause) (within : position ≤ bytes.length) (file : ObjectFile) :
    read (.ofFaulty bytes faults) file =
      brokenOff (.couldNotRead position cause) (read (.ofBytes (bytes.take position)) file) := by
  obtain ⟨rest, same⟩ :=
    Signal.uninterrupted_weave_foremost foremost bytes 0 (Nat.zero_le _) (by rwa [Nat.zero_add])
  have failing := read_failing (bytes.take position) cause rest file
  rw [List.length_take_of_le within] at failing
  rw [← read_uninterrupted, uninterrupted, ofFaulty, ofSignals, same]
  exact failing

/-- Faults never lose a block and never pass for the end of a tape. Without a failure on the way, a source is read as
    its bytes. Otherwise it is read as the bytes in front of the failure that it meets first: the same blocks are kept,
    and where these bytes end, the failure is told. -/
theorem read_faulty (bytes : List UInt8) (faults : List Fault) (file : ObjectFile) :
    ((∀ fault ∈ faults, fault.cause.isSome → bytes.length < fault.position) →
      read (.ofFaulty bytes faults) file = read (.ofBytes bytes) file) ∧
    (∀ position cause, Fault.Foremost faults position cause → position ≤ bytes.length →
      read (.ofFaulty bytes faults) file =
        brokenOff (.couldNotRead position cause) (read (.ofBytes (bytes.take position)) file)) ∧
    ((∃ fault ∈ faults, fault.cause.isSome ∧ fault.position ≤ bytes.length) →
      ∃ position cause, Fault.Foremost faults position cause ∧ position ≤ bytes.length ∧
        ∀ after, read (.ofFaulty bytes faults) file ≠ .ok () after) := by
  refine ⟨fun none => read_unfailing none file, fun _ _ foremost within => read_foremost foremost within file,
    fun failing => ?_⟩
  obtain ⟨position, cause, foremost, within⟩ := Fault.exists_foremost failing
  refine ⟨position, cause, foremost, within, fun after => ?_⟩
  rw [read_foremost foremost within file]
  exact brokenOff_ne_ok _ _ _

def harmless : List Fault := [⟨4, some "dust"⟩, ⟨1, none⟩]

def dusty : List Fault := [⟨9, some "dust"⟩, ⟨5, none⟩, ⟨5, some "tear"⟩, ⟨5, some "dust"⟩, ⟨0, none⟩]

/-- A failure behind the end is never met. The second tape is torn inside of a word, after an interruption at the same
    place and in front of another failure. -/
theorem read_faulty_torn :
    (∀ fault ∈ harmless, fault.cause.isSome → 3 < fault.position) ∧
      read (.ofFaulty [0x83, 0x93, 0xFF] harmless) (named "sin.obj") =
        .ok () ⟨"sin.obj", 0, [⟨⟨0, [], true, 0⟩, .endOfTape⟩]⟩ ∧
      Fault.Foremost dusty 5 "tear" ∧
      read (.ofFaulty [0x83, 0x93, 0xFF, 0x81, 0x81, 0x80, 0x84, 0x81, 0x80, 0x84, 0x93, 0xFF] dusty)
          (named "sin.obj") =
        .error (.couldNotRead 5 "tear") ⟨"sin.obj", 0, [⟨⟨0, [], true, 0⟩, .endOfTape⟩]⟩ := by
  have late : ∀ fault ∈ harmless, fault.cause.isSome → 3 < fault.position := by decide
  have foremost : Fault.Foremost dusty 5 "tear" := ⟨by decide, by decide⟩
  have whole : read (.ofBytes [0x83, 0x93, 0xFF]) (named "sin.obj") =
      .ok () ⟨"sin.obj", 0, [⟨⟨0, [], true, 0⟩, .endOfTape⟩]⟩ := by
    cbv
  have front : read (.ofBytes [0x83, 0x93, 0xFF, 0x81, 0x81]) (named "sin.obj") =
      .error (.cutShort 5) ⟨"sin.obj", 0, [⟨⟨0, [], true, 0⟩, .endOfTape⟩]⟩ := by
    cbv
  have unharmed := (read_faulty [0x83, 0x93, 0xFF] harmless (named "sin.obj")).1 late
  have torn := (read_faulty [0x83, 0x93, 0xFF, 0x81, 0x81, 0x80, 0x84, 0x81, 0x80, 0x84, 0x93, 0xFF] dusty
    (named "sin.obj")).2.1 5 "tear" foremost (by decide)
  refine ⟨late, unharmed.trans whole, foremost, torn.trans ?_⟩
  simp only [List.take_succ_cons, List.take_zero, front]
  rfl

end ObjectFile

end PaperTape
