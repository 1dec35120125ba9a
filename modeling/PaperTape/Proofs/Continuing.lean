import PaperTape.Proofs.Failing

namespace PaperTape

namespace Sink

theorem kind_of_kept {sink after : Sink}
    (kept : after = { sink with held := after.held, interruptions := after.interruptions }) :
    after.overflow = sink.overflow ∧ after.largest = sink.largest := by
  rw [kept]
  exact ⟨rfl, rfl⟩

/-- A sink that rejects what it has no room for, and is offered nothing that it takes in several pieces, takes
    nothing of a buffer that it fails at. -/
theorem held_rejected {bytes : List UInt8} {sink after : Sink} {cause : String} (rejecting : sink.overflow = .reject)
    (whole : ∀ most ∈ sink.largest, bytes.length ≤ most) (failed : writeAll bytes sink = .error cause after) :
    after.held = sink.held := by
  fun_induction writeAll bytes sink with
  | case1 => cases failed
  | case2 sink byte rest interrupted ih => exact ih rejecting whole failed
  | case3 => cases failed; rfl
  | case4 => cases failed; rfl
  | case5 sink byte rest quiet count taken ih =>
    have wanted : sink.wanted (rest.length + 1) = rest.length + 1 := by
      unfold Sink.wanted
      cases most : sink.largest with
      | none => rfl
      | some largest => exact Nat.min_eq_left (whole largest most)
    have all : count = rest.length := by
      simp only [accepts, wanted, rejecting] at taken
      split at taken
      · cases taken
        rfl
      · split at taken
        · cases taken
        · cases taken
          rfl
    rw [all, List.drop_length, writeAll] at failed
    cases failed

end Sink

def left {ε τ α : Type} : EStateM.Result ε τ α → τ
  | .ok _ after | .error _ after => after

open Output

namespace Writer

section

variable {σ : Type}

inductive Step where
  | write (bytes : List UInt8)
  | blank (count : Nat)
  | encode (block : Block)
  | flush

namespace Step

def run [Output σ] : Step → EStateM TapeError (Writer σ) Unit
  | .write bytes => writeBytes bytes
  | .blank count => writeBlank count
  | .encode block => block.encode
  | .flush => Writer.flush

def buffers : Step → List (List UInt8)
  | .write bytes => [bytes]
  | .blank count => blankBuffers count
  | .encode block => block.buffers
  | .flush => []

end Step

structure Call (σ : Type) where
  buffer : List UInt8
  failed : Bool
  after : Writer σ

def behind (writer : Writer σ) (calls : List (Call σ)) : Writer σ := calls.foldl (fun _ call => call.after) writer

def state (writer : Writer σ) : σ × Nat := (writer.output, writer.offset)

theorem behind_cons (writer : Writer σ) (call : Call σ) (calls : List (Call σ)) :
    writer.behind (call :: calls) = call.after.behind calls := rfl

theorem behind_append (writer : Writer σ) (earlier later : List (Call σ)) :
    writer.behind (earlier ++ later) = (writer.behind earlier).behind later := List.foldl_append ..

theorem state_behind {writer other : Writer σ} (same : writer.state = other.state) (calls : List (Call σ)) :
    (writer.behind calls).state = (other.behind calls).state := by
  cases calls with
  | nil => exact same
  | cons call calls => rfl

variable [Output σ]

def perform (writer : Writer σ) (step : Step) : Writer σ := left (step.run writer)

def call (writer : Writer σ) (buffer : List UInt8) : Call σ :=
  match writeBytes buffer writer with
  | .ok _ after => ⟨buffer, false, after⟩
  | .error _ after => ⟨buffer, true, after⟩

def calls (writer : Writer σ) : List (List UInt8) → List (Call σ)
  | [] => []
  | buffer :: rest =>
    let call := writer.call buffer
    call :: if call.failed then [] else call.after.calls rest

/-- All calls that some steps make, one step after the other, whatever becomes of each. -/
def history (writer : Writer σ) : List Step → List (Call σ)
  | [] => []
  | step :: rest => writer.calls step.buffers ++ (writer.perform step).history rest

theorem call_ok {writer : Writer σ} {buffer : List UInt8} {after : σ}
    (wrote : writeAll buffer writer.output = .ok () after) :
    writer.call buffer = ⟨buffer, false, after, writer.offset + buffer.length, writer.journal⟩ := by
  simp only [call, writeBytes, wrote]

theorem call_error {writer : Writer σ} {buffer : List UInt8} {cause : String} {after : σ}
    (failed : writeAll buffer writer.output = .error cause after) :
    writer.call buffer = ⟨buffer, true, after, writer.offset, writer.journal⟩ := by
  simp only [call, writeBytes, failed]

theorem left_offer (writer : Writer σ) (buffers : List (List UInt8)) :
    left (offer buffers writer.state) = (writer.behind (writer.calls buffers)).state := by
  induction buffers generalizing writer with
  | nil => rfl
  | cons buffer buffers ih =>
    rw [calls, state, offer]
    cases wrote : writeAll buffer writer.output with
    | ok _ after =>
      rw [call_ok wrote]
      exact ih ⟨after, writer.offset + buffer.length, writer.journal⟩
    | error cause after =>
      rw [call_error wrote]
      rfl

theorem state_perform_offers (writer : Writer σ) (step : Step) (offers : Offers (σ := σ) step.run step.buffers) :
    (writer.perform step).state = (writer.behind (writer.calls step.buffers)).state := by
  have same : bare (step.run writer) = offer step.buffers writer.state := offers writer
  rw [← left_offer, ← same, perform]
  cases step.run writer <;> rfl

end

theorem state_perform (writer : Writer Sink) (step : Step) :
    (writer.perform step).state = (writer.behind (writer.calls step.buffers)).state := by
  cases step with
  | write bytes => exact state_perform_offers writer _ (offers_writeBytes bytes)
  | blank count => exact state_perform_offers writer _ (offers_writeBlank count)
  | encode block => exact state_perform_offers writer _ block.offers_encode
  | flush =>
    simp only [perform, Step.run, flush, Output.flush, Sink.flush]
    cases writer.output.flushFailure <;> rfl

def Call.Leaves (call : Call Sink) (piece : List UInt8) : Prop :=
  if call.failed then piece <+: call.buffer ∧ piece.length < call.buffer.length else piece = call.buffer

def Call.counted (call : Call Sink) : Nat := if call.failed then 0 else call.buffer.length

theorem Call.Leaves.counted_eq {call : Call Sink} {piece : List UInt8} (leaves : call.Leaves piece)
    (succeeded : call.failed = false) : call.counted = piece.length := by
  simp only [Leaves, succeeded, Bool.false_eq_true, if_false] at leaves
  rw [leaves, counted, succeeded]
  rfl

theorem Call.Leaves.counted_le {call : Call Sink} {piece : List UInt8} (leaves : call.Leaves piece) :
    call.counted ≤ piece.length := by
  by_cases failed : call.failed = true
  · rw [counted, if_pos failed]
    exact Nat.zero_le _
  · exact (leaves.counted_eq (Bool.eq_false_iff.mpr failed)).le

/-- A writer that started on a sink and has made some calls. -/
structure InStep (sink : Sink) (calls : List (Call Sink)) (writer : Writer Sink) : Prop where
  kind : writer.output.overflow = sink.overflow ∧ writer.output.largest = sink.largest
  held : ∃ pieces, List.Forall₂ Call.Leaves calls pieces ∧
    writer.output.held.toList = sink.held.toList ++ pieces.flatten
  counted : writer.offset = (calls.map Call.counted).sum
  within : sink.held.size + writer.offset ≤ writer.output.held.size
  level : (∀ call ∈ calls, call.failed = false) → writer.output.held.size = sink.held.size + writer.offset
  /-- A sink that takes each buffer whole or not at all is never ahead. -/
  whole : sink.overflow = .reject → (∀ call ∈ calls, ∀ most ∈ sink.largest, call.buffer.length ≤ most) →
    writer.output.held.size = sink.held.size + writer.offset

namespace InStep

theorem start (sink : Sink) : InStep sink [] { output := sink } where
  kind := ⟨rfl, rfl⟩
  held := ⟨[], .nil, (List.append_nil _).symm⟩
  counted := rfl
  within := Nat.le_refl _
  level _ := rfl
  whole _ _ := rfl

variable {sink : Sink} {done : List (Call Sink)} {writer : Writer Sink}

theorem congr {other : Writer Sink} (inStep : InStep sink done writer) (same : other.state = writer.state) :
    InStep sink done other := by
  obtain ⟨output, offset⟩ := Prod.mk.inj same
  obtain ⟨kind, held, counted, within, level, whole⟩ := inStep
  rw [← output] at kind held
  rw [← offset] at counted
  rw [← output, ← offset] at within level whole
  exact ⟨kind, held, counted, within, level, whole⟩

theorem extend {call : Call Sink} {piece : List UInt8} (inStep : InStep sink done writer)
    (kind : call.after.output.overflow = writer.output.overflow ∧ call.after.output.largest = writer.output.largest)
    (leaves : call.Leaves piece) (held : call.after.output.held.toList = writer.output.held.toList ++ piece)
    (offset : call.after.offset = writer.offset + call.counted)
    (whole : writer.output.overflow = .reject → (∀ most ∈ writer.output.largest, call.buffer.length ≤ most) →
      call.counted = piece.length) : InStep sink (done ++ [call]) call.after := by
  have size : call.after.output.held.size = writer.output.held.size + piece.length := by
    rw [← Array.length_toList, held, List.length_append, Array.length_toList]
  have atMost := leaves.counted_le
  have within := inStep.within
  constructor
  case kind => exact ⟨kind.1.trans inStep.kind.1, kind.2.trans inStep.kind.2⟩
  case held =>
    obtain ⟨pieces, before, holds⟩ := inStep.held
    refine ⟨pieces ++ [piece], List.rel_append before (.cons leaves .nil), ?_⟩
    rw [held, holds, List.flatten_append, List.flatten_singleton, List.append_assoc]
  case counted => simp [offset, inStep.counted]
  case within => omega
  case level =>
    intro succeeded
    obtain ⟨before, last⟩ := List.forall_mem_append.mp succeeded
    have earlier := inStep.level before
    have equal := leaves.counted_eq (last _ (List.mem_singleton_self _))
    omega
  case whole =>
    intro rejecting fits
    obtain ⟨before, last⟩ := List.forall_mem_append.mp fits
    have earlier := inStep.whole rejecting before
    have equal : call.counted = piece.length := by
      refine whole (inStep.kind.1.trans rejecting) ?_
      rw [inStep.kind.2]
      exact last _ (List.mem_singleton_self _)
    omega

theorem call (inStep : InStep sink done writer) (buffer : List UInt8) :
    InStep sink (done ++ [writer.call buffer]) (writer.call buffer).after := by
  have kept := Sink.writeAll_kept buffer writer.output
  have taken := Sink.held_writeAll buffer writer.output
  cases wrote : Sink.writeAll buffer writer.output with
  | ok _ after =>
    rw [wrote] at kept taken
    rw [call_ok wrote]
    exact inStep.extend (Sink.kind_of_kept kept) rfl taken rfl fun _ _ => rfl
  | error cause after =>
    rw [wrote] at kept taken
    rw [call_error wrote]
    obtain ⟨piece, front, shorter, holds⟩ := taken
    refine inStep.extend (Sink.kind_of_kept kept) ⟨front, shorter⟩ holds rfl fun rejecting fits => ?_
    have same := Sink.held_rejected rejecting fits wrote
    rw [same, List.self_eq_append_right] at holds
    rw [holds]
    rfl

theorem calls (inStep : InStep sink done writer) (buffers : List (List UInt8)) {earlier later : List (Call Sink)}
    (split : writer.calls buffers = earlier ++ later) : InStep sink (done ++ earlier) (writer.behind earlier) := by
  induction buffers generalizing writer done earlier with
  | nil =>
    obtain ⟨rfl, -⟩ := List.append_eq_nil_iff.mp split.symm
    rwa [List.append_nil]
  | cons buffer buffers ih =>
    cases earlier with
    | nil => rwa [List.append_nil]
    | cons first earlier =>
      obtain ⟨rfl, rest⟩ := List.cons.inj split
      rw [behind_cons, List.append_cons]
      split at rest
      · obtain ⟨rfl, -⟩ := List.append_eq_nil_iff.mp rest.symm
        rw [List.append_nil]
        exact inStep.call buffer
      · exact ih (inStep.call buffer) rest

theorem perform (inStep : InStep sink done writer) (step : Step) :
    InStep sink (done ++ writer.calls step.buffers) (writer.perform step) :=
  (inStep.calls step.buffers (List.append_nil _).symm).congr (writer.state_perform step)

theorem history (inStep : InStep sink done writer) (steps : List Step) {earlier later : List (Call Sink)}
    (split : writer.history steps = earlier ++ later) : InStep sink (done ++ earlier) (writer.behind earlier) := by
  induction steps generalizing writer done earlier with
  | nil =>
    obtain ⟨rfl, -⟩ := List.append_eq_nil_iff.mp split.symm
    rwa [List.append_nil]
  | cons step steps ih =>
    -- The calls end within those of the first step, or behind them.
    rcases List.append_eq_append_iff.mp split with ⟨more, rfl, rest⟩ | ⟨less, within, -⟩
    · rw [← List.append_assoc, behind_append]
      exact (ih (inStep.perform step) rest).congr (state_behind (writer.state_perform step).symm more)
    · exact inStep.calls step.buffers within

end InStep

theorem state_history (writer : Writer Sink) (steps : List Step) :
    (steps.foldl perform writer).state = (writer.behind (writer.history steps)).state := by
  induction steps generalizing writer with
  | nil => rfl
  | cons step steps ih =>
    rw [List.foldl_cons, ih, history, behind_append]
    exact state_behind (writer.state_perform step) _

/-- Some steps leave a new writer where their calls leave it, and after any number of these calls it is in step with
    its sink. -/
theorem inStep_history (sink : Sink) (steps : List Step) :
    let start : Writer Sink := { output := sink }
    (steps.foldl perform start).state = (start.behind (start.history steps)).state ∧
      ∀ earlier later, start.history steps = earlier ++ later → InStep sink earlier (start.behind earlier) :=
  ⟨state_history _ steps, fun _ _ split => (InStep.start sink).history steps split⟩

def narrow : Writer Sink := { output := { limit := some 8, largest := some 2, interruptions := ⟨[true, false, true]⟩ } }

def mixed : List Step := [.write [1, 2, 3], .encode ⟨2, [0x1004], false, 0⟩, .flush, .write [7]]

set_option maxRecDepth 4000 in
theorem inStep_history_narrow :
    (narrow.history mixed).map (fun call => (call.buffer, call.failed)) =
        [([1, 2, 3], false), ([0x00, 0x00], false),
          ([0x81, 0x81, 0x80, 0x84, 0x81, 0x80, 0x84, 0x93, 0xFF], true), ([7], false)] ∧
      (mixed.foldl perform narrow).output.held = #[1, 2, 3, 0x00, 0x00, 0x81, 0x81, 7] ∧
      (mixed.foldl perform narrow).offset = 6 ∧
      (mixed.foldl perform narrow).state = (narrow.behind (narrow.history mixed)).state ∧
      InStep narrow.output (narrow.history mixed) (narrow.behind (narrow.history mixed)) := by
  obtain ⟨same, always⟩ := inStep_history narrow.output mixed
  refine ⟨?_, by cbv, by cbv, same, always _ [] (List.append_nil _).symm⟩
  cbv

end Writer

end PaperTape
