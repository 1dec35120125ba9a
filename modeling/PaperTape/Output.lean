namespace PaperTape

/-- Takes all of the given bytes, in order, or fails after some of them. -/
class Output (σ : Type) where
  writeAll : List UInt8 → EStateM String σ Unit
  flush : EStateM String σ Unit

def Output.untaken : String := "failed to write whole buffer"

namespace Sink

inductive Overflow where
  | reject
  /-- Takes what it has room for, and fails when there is no room at all. -/
  | short
  /-- Takes what it has room for, even if that is nothing. -/
  | zero
  deriving DecidableEq, Repr

/-- Which of the next write calls are interrupted, and have to be repeated. -/
structure Interruptions where
  calls : List Bool := []
  deriving DecidableEq, Repr

instance : Coe Nat Interruptions := ⟨fun count => ⟨List.replicate count true⟩⟩

end Sink

structure Sink where
  held : Array UInt8 := #[]
  limit : Option Nat := none
  overflow : Sink.Overflow := .reject
  failure : String := "tape full"
  /-- How many bytes it takes at once at most. -/
  largest : Option Nat := none
  interruptions : Sink.Interruptions := {}
  flushFailure : Option String := none
  deriving DecidableEq, Repr

namespace Sink

def wanted (sink : Sink) (offered : Nat) : Nat := (sink.largest.map (min offered)).getD offered

def accepts (sink : Sink) (offered : Nat) : Except String Nat :=
  let wanted := sink.wanted offered
  match sink.limit with
  | none => .ok wanted
  | some limit =>
    let room := limit - sink.held.size
    match sink.overflow with
    | .reject => if room < wanted then .error sink.failure else .ok wanted
    | .short => if room = 0 then .error sink.failure else .ok (min wanted room)
    | .zero => .ok (min wanted room)

def interrupted (sink : Sink) : Bool := sink.interruptions.calls.headD false

def called (sink : Sink) : Sink := { sink with interruptions := ⟨sink.interruptions.calls.tail⟩ }

theorem length_called_lt {sink : Sink} (interrupted : sink.interrupted = true) :
    sink.called.interruptions.calls.length < sink.interruptions.calls.length := by
  unfold Sink.interrupted at interrupted
  unfold called
  cases calls : sink.interruptions.calls with
  | nil =>
    rw [calls] at interrupted
    cases interrupted
  | cons call later => exact Nat.lt_succ_self later.length

/-- Repeats write calls until all bytes are taken. A call that takes none of them is a failure. -/
def writeAll (bytes : List UInt8) (sink : Sink) : EStateM.Result String Sink Unit :=
  match bytes with
  | [] => .ok () sink
  | byte :: rest =>
    if sink.interrupted then writeAll (byte :: rest) sink.called
    else
      match sink.accepts (rest.length + 1) with
      | .error cause => .error cause sink.called
      | .ok 0 => .error Output.untaken sink.called
      | .ok (count + 1) =>
        writeAll (rest.drop count) { sink.called with held := sink.held ++ byte :: rest.take count }
termination_by bytes.length + sink.interruptions.calls.length
decreasing_by
  · rename_i interrupted
    exact Nat.add_lt_add_left (length_called_lt interrupted) _
  · simp only [called, List.length_drop, List.length_cons, List.length_tail]
    omega

/-- A sink that fails has taken some bytes from the front, but not all. -/
theorem held_writeAll (bytes : List UInt8) (sink : Sink) :
    match writeAll bytes sink with
    | .ok _ after => after.held.toList = sink.held.toList ++ bytes
    | .error _ after =>
      ∃ taken, taken <+: bytes ∧ taken.length < bytes.length ∧ after.held.toList = sink.held.toList ++ taken := by
  fun_induction writeAll bytes sink with
  | case1 => simp
  | case2 sink byte rest interrupted ih => simpa [called] using ih
  | case3 => exact ⟨[], by simp [called]⟩
  | case4 => exact ⟨[], by simp [called]⟩
  | case5 sink byte rest _ count _ ih =>
    revert ih
    split
    · intro ih
      simp_all
    · rintro ⟨taken, ⟨left, same⟩, shorter, holds⟩
      refine ⟨byte :: rest.take count ++ taken, ⟨left, ?_⟩, ?_, ?_⟩
      · rw [List.append_assoc, same]
        simp
      · simp only [List.length_drop, List.length_append, List.length_cons, List.length_take] at *
        omega
      · simp_all

def flush (sink : Sink) : EStateM.Result String Sink Unit :=
  match sink.flushFailure with
  | some cause => .error cause sink
  | none => .ok () sink

instance : Output Sink := ⟨writeAll, flush⟩

def emptied (sink : Sink) : Sink := { sink with held := #[] }

end Sink

structure Buffered (σ : Type) where
  pending : Array UInt8 := #[]
  output : σ

namespace Buffered

def capacity : Nat := 8192

variable {σ : Type} [Output σ]

/-- A write that takes nothing has a cause of its own here. -/
def drain (buffer : Buffered σ) : EStateM.Result String (Buffered σ) Unit :=
  match Output.writeAll buffer.pending.toList buffer.output with
  | .ok _ output => .ok () ⟨#[], output⟩
  | .error cause output =>
    .error (if cause = Output.untaken then "failed to write the buffered data" else cause) ⟨buffer.pending, output⟩

def append (bytes : List UInt8) (buffer : Buffered σ) : EStateM.Result String (Buffered σ) Unit :=
  if bytes.length < capacity then .ok () ⟨buffer.pending ++ bytes, buffer.output⟩
  else
    match Output.writeAll bytes buffer.output with
    | .ok _ output => .ok () ⟨buffer.pending, output⟩
    | .error cause output => .error cause ⟨buffer.pending, output⟩

def writeAll (bytes : List UInt8) (buffer : Buffered σ) : EStateM.Result String (Buffered σ) Unit :=
  if buffer.pending.size + bytes.length ≤ capacity then append bytes buffer
  else
    match drain buffer with
    | .ok _ drained => append bytes drained
    | .error cause buffer => .error cause buffer

def flush (buffer : Buffered σ) : EStateM.Result String (Buffered σ) Unit :=
  match drain buffer with
  | .ok _ drained =>
    match Output.flush drained.output with
    | .ok _ output => .ok () ⟨drained.pending, output⟩
    | .error cause output => .error cause ⟨drained.pending, output⟩
  | .error cause buffer => .error cause buffer

instance : Output (Buffered σ) := ⟨writeAll, flush⟩

end Buffered

end PaperTape
