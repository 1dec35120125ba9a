import PaperTape.Proofs.Faults
import PaperTape.Proofs.Moving

namespace PaperTape

namespace Reader

def leaving {Answer : Type} : EStateM.Result TapeError Reader Answer → Reader
  | .ok _ left => left
  | .error _ left => left

def answered {Answer : Type} : EStateM.Result TapeError Reader Answer → Except TapeError Answer
  | .ok value _ => .ok value
  | .error error _ => .error error

def behind (reader : Reader) : Reader := leaving (Block.decode reader)

def outcome (reader : Reader) : Except TapeError Block := answered (Block.decode reader)

def cleanEnd : Except TapeError Block → Bool
  | .ok _ => false
  | .error error => error.isCleanEnd

theorem attempts_eq (reader : Reader) :
    reader.attempts =
      ⟨reader.outcome, reader.behind.offset⟩ :: if cleanEnd reader.outcome then [] else reader.behind.attempts := by
  unfold outcome behind
  cases decoded : Block.decode reader with
  | ok block left => exact attempts_ok decoded
  | error error left => exact attempts_error decoded

theorem feed_takes {State Answer : Type} (machine : Machine State Answer) (state : State) (signals : List Signal)
    (offset : Nat) :
    ∃ taken, signals = taken ++ (leaving (feed machine state signals offset)).signals ∧
      (leaving (feed machine state signals offset)).offset = offset + (Signal.values taken).length := by
  have answers (result : Except TapeError Answer) (reader : Reader) : leaving (answer result reader) = reader := by
    cases result <;> rfl
  induction signals generalizing state offset with
  | nil =>
    rw [feed, answers]
    exact ⟨[], rfl, rfl⟩
  | cons signal signals ih =>
    cases signal with
    | interrupted =>
      obtain ⟨taken, same, stop⟩ := ih state offset
      exact ⟨.interrupted :: taken, congrArg (Signal.interrupted :: ·) same, stop⟩
    | failure cause => exact ⟨[.failure cause], rfl, rfl⟩
    | byte value =>
      simp only [feed]
      cases machine.step state offset value with
      | more next =>
        obtain ⟨taken, same, stop⟩ := ih next (offset + 1)
        refine ⟨.byte value :: taken, congrArg (Signal.byte value :: ·) same, stop.trans ?_⟩
        rw [Nat.add_assoc, Nat.add_comm 1]
        rfl
      | done result =>
        rw [answers]
        exact ⟨[.byte value], rfl, rfl⟩

theorem takes (reader : Reader) :
    ∃ taken, reader.signals = taken ++ reader.behind.signals ∧
      reader.behind.offset = reader.offset + (Signal.values taken).length ∧
      (cleanEnd reader.outcome = false → taken ≠ []) := by
  obtain ⟨taken, same, stop⟩ := feed_takes Scan.machine {} reader.signals reader.offset
  refine ⟨taken, same, stop, fun unended none => ?_⟩
  have consumes := decode_consumes reader
  have whole : reader.signals = reader.behind.signals := by rw [same, none]; rfl
  unfold outcome behind at *
  cases decoded : Block.decode reader with
  | ok block left =>
    rw [decoded] at consumes whole
    exact Nat.lt_irrefl _ (whole ▸ consumes)
  | error error left =>
    rw [decoded] at consumes whole unended
    rcases consumes with clean | shorter
    · exact Bool.false_ne_true (unended.symm.trans clean)
    · exact Nat.lt_irrefl _ (whole ▸ shorter)

/-- The attempts are the calls up to the first clean end, each of which starts where the one before it stopped. -/
theorem attempts_eq_range (reader : Reader) :
    ∃ last ≤ reader.signals.length,
      reader.attempts =
        (List.range (last + 1)).map
          (fun call => ⟨(behind^[call] reader).outcome, (behind^[call + 1] reader).offset⟩) ∧
      (∀ call < last, cleanEnd (behind^[call] reader).outcome = false) ∧
      cleanEnd (behind^[last] reader).outcome = true := by
  induction size_eq : reader.signals.length using Nat.strongRecOn generalizing reader with
  | ind size ih =>
    rw [attempts_eq]
    cases ended : cleanEnd reader.outcome with
    | true => exact ⟨0, Nat.zero_le _, rfl, nofun, ended⟩
    | false =>
      obtain ⟨taken, same, -, some⟩ := reader.takes
      have shorter : reader.behind.signals.length < size := by
        have := List.length_pos_iff.mpr (some ended)
        rw [← size_eq, same, List.length_append]
        omega
      obtain ⟨last, within, attempts, before, clean⟩ := ih _ shorter reader.behind rfl
      refine ⟨last + 1, by omega, ?_, ?_, clean⟩
      · rw [List.range_succ_eq_map, attempts]
        simp
      · intro call early
        cases call with
        | zero => exact ended
        | succ call => exact before call (Nat.lt_of_succ_lt_succ early)

theorem feed_cleanEnd (scan : Scan) (signals : List Signal) (offset : Nat)
    (clean : cleanEnd (answered (feed Scan.machine scan signals offset)) = true) :
    let left := leaving (feed Scan.machine scan signals offset)
    left.signals = [] ∧ answered (feed Scan.machine scan signals offset) = .error (.endOfTape left.offset) := by
  induction signals generalizing scan offset with
  | nil =>
    obtain ⟨stage, leader, position, reversed⟩ := scan
    cases stage with
    | leader => exact ⟨rfl, rfl⟩
    | _ => cases clean
  | cons signal signals ih =>
    cases signal with
    | interrupted => exact ih scan offset clean
    | failure cause => cases clean
    | byte value =>
      cases stepped : scan.step offset value with
      | more next =>
        rw [Scan.feed_more stepped] at clean ⊢
        exact ih next (offset + 1) clean
      | done result =>
        have framed := Scan.framed_step scan offset value
        rw [Scan.feed_done stepped] at clean
        rw [stepped] at framed
        cases result with
        | ok block => cases clean
        | error error =>
          exact absurd clean (Bool.eq_false_iff.mp (TapeError.isCleanEnd_of_framing framed))

theorem nil_of_cleanEnd {reader : Reader} (clean : cleanEnd reader.outcome = true) :
    reader.behind.signals = [] ∧ reader.outcome = .error (.endOfTape reader.behind.offset) :=
  feed_cleanEnd {} reader.signals reader.offset clean

theorem behind_of_nil {reader : Reader} (none : reader.signals = []) :
    reader.behind = reader ∧ reader.outcome = .error (.endOfTape reader.offset) := by
  obtain ⟨signals, offset⟩ := reader
  obtain rfl : signals = [] := none
  exact ⟨rfl, rfl⟩

theorem iterate_behind_of_nil {reader : Reader} (none : reader.signals = []) (calls : Nat) :
    behind^[calls] reader = reader := Function.iterate_fixed (behind_of_nil none).1 calls

theorem iterate_behind_of_cleanEnd {reader : Reader} {last call : Nat}
    (clean : cleanEnd (behind^[last] reader).outcome = true) (late : last ≤ call) :
    behind^[call + 1] reader = behind^[last + 1] reader ∧
      (behind^[call] reader).outcome = .error (.endOfTape (behind^[last + 1] reader).offset) := by
  obtain ⟨none, said⟩ := nil_of_cleanEnd clean
  rw [← Function.iterate_succ_apply' behind] at none said
  have stays (more : Nat) : behind^[more + (last + 1)] reader = behind^[last + 1] reader :=
    (Function.iterate_add_apply _ _ _ _).trans (iterate_behind_of_nil none more)
  rcases Nat.eq_or_lt_of_le late with rfl | later
  · exact ⟨rfl, said⟩
  · obtain ⟨more, rfl⟩ := Nat.exists_eq_add_of_le' later
    rw [Nat.add_right_comm more, stays, stays]
    exact ⟨rfl, (behind_of_nil none).2⟩

end Reader

namespace Fault

def since (offset : Nat) (fault : Fault) : Fault := { fault with position := fault.position - offset }

theorem raisedAt_cons (fault : Fault) (faults : List Fault) (position : Nat) :
    raisedAt (fault :: faults) position =
      if fault.position = position then fault.signal :: raisedAt faults position else raisedAt faults position := by
  unfold raisedAt
  simp only [List.filter_cons, beq_iff_eq]
  split <;> rfl

theorem raisedAt_append (front back : List Fault) (position : Nat) :
    raisedAt (front ++ back) position = raisedAt front position ++ raisedAt back position := by
  rw [raisedAt, List.filter_append, List.map_append]
  rfl

theorem raisedAt_eq_nil {faults : List Fault} {position : Nat} (none : raisedAt faults position = []) :
    ∀ fault ∈ faults, fault.position ≠ position := by
  rw [raisedAt, List.map_eq_nil_iff, List.filter_eq_nil_iff] at none
  exact fun fault member here => none fault member (beq_iff_eq.mpr here)

theorem raisedAt_since {faults : List Fault} {offset : Nat} (ahead : ∀ fault ∈ faults, offset ≤ fault.position)
    (position : Nat) : raisedAt (faults.map (since offset)) position = raisedAt faults (offset + position) := by
  induction faults with
  | nil => rfl
  | cons fault faults ih =>
    obtain ⟨first, others⟩ := List.forall_mem_cons.mp ahead
    have same : fault.position - offset = position ↔ fault.position = offset + position := by omega
    rw [List.map_cons, raisedAt_cons, raisedAt_cons, ih others]
    simp only [since, same]
    rfl

theorem length_raisedAt (faults : List Fault) (position : Nat) :
    (raisedAt faults position).length = faults.countP (·.position == position) := by
  rw [raisedAt, List.length_map, List.countP_eq_length_filter]

theorem countP_from (faults : List Fault) (position : Nat) :
    faults.countP (position ≤ ·.position) =
      faults.countP (·.position == position) + faults.countP (position + 1 ≤ ·.position) := by
  induction faults with
  | nil => rfl
  | cons fault faults ih =>
    simp only [List.countP_cons, ih, decide_eq_true_eq, beq_iff_eq]
    split_ifs <;> omega

theorem exists_first {faults : List Fault} {position : Nat} (raised : raisedAt faults position ≠ []) :
    ∃ front fault back, faults = front ++ fault :: back ∧ fault.position = position ∧ raisedAt front position = [] := by
  obtain ⟨signal, signals, same⟩ := List.exists_cons_of_ne_nil raised
  obtain ⟨fault, others, same, -, -⟩ := List.map_eq_cons_iff.mp same
  obtain ⟨front, back, rfl, none, here, -⟩ := List.filter_eq_cons_iff.mp same
  refine ⟨front, fault, back, rfl, eq_of_beq here, ?_⟩
  rw [raisedAt, List.filter_eq_nil_iff.mpr none]
  rfl

theorem values_signal (fault : Fault) : Signal.values [fault.signal] = [] := by
  obtain ⟨position, cause⟩ := fault
  cases cause <;> rfl

end Fault

namespace Signal

open Fault

theorem weave_congr {faults others : List Fault} {position : Nat}
    (same : ∀ later, position ≤ later → raisedAt faults later = raisedAt others later) (bytes : List UInt8) :
    weave faults bytes position = weave others bytes position := by
  induction bytes generalizing position with
  | nil => exact same position (Nat.le_refl _)
  | cons value bytes ih =>
    rw [weave, weave, same position (Nat.le_refl _), ih fun later behind => same later (Nat.le_of_succ_le behind)]

theorem weave_since {faults : List Fault} {offset : Nat} (ahead : ∀ fault ∈ faults, offset ≤ fault.position)
    (bytes : List UInt8) (position : Nat) :
    weave (faults.map (since offset)) bytes position = weave faults bytes (offset + position) := by
  induction bytes generalizing position with
  | nil => exact raisedAt_since ahead position
  | cons value bytes ih =>
    rw [weave, weave, raisedAt_since ahead, ih]
    rfl

theorem length_weave (faults : List Fault) (bytes : List UInt8) (position : Nat) :
    (weave faults bytes position).length ≤ bytes.length + faults.countP (position ≤ ·.position) := by
  induction bytes generalizing position with
  | nil =>
    rw [countP_from, weave, length_raisedAt]
    omega
  | cons value bytes ih =>
    have tail := ih (position + 1)
    rw [countP_from, weave, List.length_append, List.length_cons, List.length_cons, length_raisedAt]
    omega

theorem weave_first {front : List Fault} {fault : Fault} (first : raisedAt front fault.position = [])
    (back : List Fault) (bytes : List UInt8) :
    weave (front ++ fault :: back) bytes fault.position =
      fault.signal :: weave (front ++ back) bytes fault.position := by
  have here : raisedAt (front ++ fault :: back) fault.position =
      fault.signal :: raisedAt (front ++ back) fault.position := by
    rw [raisedAt_append, raisedAt_append, raisedAt_cons, if_pos rfl, first]
    rfl
  have later (position : Nat) (behind : fault.position + 1 ≤ position) :
      raisedAt (front ++ fault :: back) position = raisedAt (front ++ back) position := by
    rw [raisedAt_append, raisedAt_append, raisedAt_cons, if_neg (Nat.ne_of_lt behind)]
  cases bytes with
  | nil => exact here
  | cons value bytes =>
    rw [weave, weave, here, weave_congr later]
    rfl

end Signal

namespace Reader

/-- A reader in the middle of a source: it has the bytes from its offset on, and faults that are not behind it. -/
structure Stands (bytes : List UInt8) (left : List Fault) (reader : Reader) : Prop where
  within : reader.offset ≤ bytes.length
  ahead : ∀ fault ∈ left, reader.offset ≤ fault.position
  signals : reader.signals = Signal.weave left (bytes.drop reader.offset) reader.offset

theorem Stands.start (bytes : List UInt8) (faults : List Fault) : Stands bytes faults (ofFaulty bytes faults) :=
  ⟨Nat.zero_le _, fun _ _ => Nat.zero_le _, rfl⟩

variable {bytes : List UInt8} {left : List Fault}

theorem Stands.signal {signal : Signal} {signals : List Signal} {offset : Nat}
    (stands : Stands bytes left ⟨signal :: signals, offset⟩) :
    ∃ fewer : List Fault, fewer.Sublist left ∧
      Stands bytes fewer ⟨signals, offset + (Signal.values [signal]).length⟩ := by
  obtain ⟨within, ahead, same⟩ := stands
  simp only at within ahead same
  -- Without a fault here the answer is the next byte, and else the first of the faults.
  cases raised : Fault.raisedAt left offset with
  | nil =>
    cases rest : bytes.drop offset with
    | nil =>
      rw [rest, Signal.weave, raised] at same
      cases same
    | cons value tail =>
      rw [rest, Signal.weave, raised] at same
      obtain ⟨rfl, rfl⟩ := List.cons.inj same
      have further : bytes.drop (offset + 1) = tail := by
        rw [← List.drop_drop, rest]
        rfl
      have short : offset < bytes.length := by
        apply Nat.lt_of_not_le
        intro beyond
        rw [List.drop_eq_nil_of_le beyond] at rest
        cases rest
      refine ⟨left, .refl _, short, fun fault member => ?_, ?_⟩
      · exact Nat.lt_of_le_of_ne (ahead fault member) (Fault.raisedAt_eq_nil raised fault member).symm
      · rw [← further]
        rfl
  | cons first others =>
    obtain ⟨front, fault, back, rfl, rfl, none⟩ := Fault.exists_first (by rw [raised]; exact List.cons_ne_nil _ _)
    rw [Signal.weave_first none] at same
    obtain ⟨rfl, rfl⟩ := List.cons.inj same
    have sub : (front ++ back).Sublist (front ++ fault :: back) := (List.sublist_cons_self fault back).append_left front
    refine ⟨front ++ back, sub, ?_⟩
    rw [Fault.values_signal]
    exact ⟨within, fun other member => ahead other (sub.subset member), rfl⟩

theorem Stands.behind {taken signals : List Signal} {offset : Nat}
    (stands : Stands bytes left ⟨taken ++ signals, offset⟩) :
    ∃ fewer : List Fault, fewer.Sublist left ∧
      Stands bytes fewer ⟨signals, offset + (Signal.values taken).length⟩ := by
  induction taken generalizing left offset with
  | nil => exact ⟨left, .refl _, stands⟩
  | cons signal taken ih =>
    obtain ⟨fewer, sub, next⟩ := stands.signal
    obtain ⟨fewest, sub', last⟩ := ih next
    refine ⟨fewest, sub'.trans sub, ?_⟩
    rw [Nat.add_assoc, ← List.length_append, Signal.values, Signal.values, ← List.filterMap_append] at last
    exact last

theorem Stands.offset_of_nil {reader : Reader} (stands : Stands bytes left reader) (none : reader.signals = []) :
    reader.offset = bytes.length := by
  have same := stands.signals
  rw [none] at same
  cases rest : bytes.drop reader.offset with
  | nil => exact Nat.le_antisymm stands.within (List.drop_eq_nil_iff.mp rest)
  | cons value tail =>
    rw [rest, Signal.weave] at same
    exact absurd same.symm (List.append_ne_nil_of_right_ne_nil _ (List.cons_ne_nil _ _))

def ofRest (bytes : List UInt8) (left : List Fault) (offset : Nat) : Reader :=
  ofFaulty (bytes.drop offset) (left.map (Fault.since offset))

theorem Stands.eq_moved {reader : Reader} (stands : Stands bytes left reader) :
    reader = (ofRest bytes left reader.offset).moved reader.offset := by
  obtain ⟨within, ahead, same⟩ := stands
  obtain ⟨signals, offset⟩ := reader
  simp only at same ahead ⊢
  rw [same, moved, ofRest, ofFaulty, ofSignals, Signal.weave_since ahead, Nat.add_zero, Nat.zero_add]

theorem outcome_moved (distance : Nat) (reader : Reader) :
    (reader.moved distance).outcome = movedOutcome 0 distance reader.outcome := by
  rw [outcome, Block.decode_moved, outcome]
  cases Block.decode reader <;> rfl

/-- One call of `Block.decode` in the middle of a source, some of whose faults are left. It answers as if the rest of
    the source were all of it, and takes something from it unless it finds the clean end. -/
structure Call (bytes : List UInt8) (left : List Fault) (taken : List Signal) (reader : Reader) : Prop where
  stands : reader = (ofRest bytes left reader.offset).moved reader.offset
  answers : reader.outcome = movedOutcome 0 reader.offset (ofRest bytes left reader.offset).outcome
  takes : reader.signals = taken ++ reader.behind.signals
  counts : reader.behind.offset = reader.offset + (Signal.values taken).length
  progress : cleanEnd reader.outcome = false → taken ≠ []

theorem Stands.call {reader : Reader} (stands : Stands bytes left reader) :
    ∃ fewer taken, fewer.Sublist left ∧ Stands bytes fewer reader.behind ∧ Call bytes left taken reader := by
  obtain ⟨taken, same, counts, progress⟩ := reader.takes
  have answers := outcome_moved reader.offset (ofRest bytes left reader.offset)
  rw [← stands.eq_moved] at answers
  have whole : Stands bytes left ⟨taken ++ reader.behind.signals, reader.offset⟩ := by
    rw [← same]
    exact stands
  obtain ⟨fewer, sub, next⟩ := whole.behind
  rw [← counts] at next
  exact ⟨fewer, taken, sub, next, stands.eq_moved, answers, same, counts, progress⟩

theorem stands_iterate (bytes : List UInt8) (faults : List Fault) (calls : Nat) :
    ∃ left : List Fault, left.Sublist faults ∧ Stands bytes left (Reader.behind^[calls] (ofFaulty bytes faults)) := by
  induction calls with
  | zero => exact ⟨faults, .refl _, .start bytes faults⟩
  | succ calls ih =>
    obtain ⟨left, sub, stands⟩ := ih
    obtain ⟨fewer, -, sub', next, -⟩ := stands.call
    rw [Function.iterate_succ_apply']
    exact ⟨fewer, sub'.trans sub, next⟩

/-- Decoding again and again, also after failures, takes a source apart from front to end. It finds the clean end
    behind the last byte, after no more calls than there are bytes and faults and one, and every later call finds it
    again. -/
theorem decode_repeatedly (bytes : List UInt8) (faults : List Fault) :
    let reader := fun call => Reader.behind^[call] (ofFaulty bytes faults)
    (∀ call, ∃ left taken, left.Sublist faults ∧ Call bytes left taken (reader call)) ∧
    ∃ last ≤ bytes.length + faults.length,
      (ofFaulty bytes faults).attempts =
        (List.range (last + 1)).map (fun call => ⟨(reader call).outcome, (reader (call + 1)).offset⟩) ∧
      (∀ call < last, cleanEnd (reader call).outcome = false) ∧
      ∀ call ≥ last,
        (reader call).outcome = .error (.endOfTape bytes.length) ∧ (reader (call + 1)).offset = bytes.length := by
  intro reader
  refine ⟨fun call => ?_, ?_⟩
  · obtain ⟨left, sub, stands⟩ := stands_iterate bytes faults call
    obtain ⟨-, taken, -, -, each⟩ := stands.call
    exact ⟨left, taken, sub, each⟩
  · obtain ⟨last, within, attempts, before, clean⟩ := attempts_eq_range (ofFaulty bytes faults)
    have size : (ofFaulty bytes faults).signals.length ≤ bytes.length + faults.length :=
      (Signal.length_weave faults bytes 0).trans (Nat.add_le_add_left List.countP_le_length _)
    -- The clean end is found where nothing is left, so that the last call has read all of the source.
    have none := (nil_of_cleanEnd clean).1
    rw [← Function.iterate_succ_apply' Reader.behind] at none
    obtain ⟨left, -, stands⟩ := stands_iterate bytes faults (last + 1)
    have stop : (reader (last + 1)).offset = bytes.length := stands.offset_of_nil none
    refine ⟨last, within.trans size, attempts, before, fun call late => ?_⟩
    obtain ⟨same, said⟩ := iterate_behind_of_cleanEnd clean late
    rw [← stop]
    exact ⟨said, congrArg Reader.offset same⟩

/-- The frames of an end mark that is torn behind the first of them begin no other block, but for the last one. -/
example : (ofFaulty [0x83, 0x93, 0xFF] [⟨1, some "tear"⟩]).attempts =
    [⟨.error (.couldNotRead 1 "tear"), 1⟩, ⟨.error (.strayAfterLeader 1 0x93), 2⟩, ⟨.error (.cutShort 3), 3⟩,
      ⟨.error (.endOfTape 3), 3⟩] := by
  cbv

end Reader

end PaperTape
