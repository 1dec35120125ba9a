import PaperTape.TapeError

namespace PaperTape

/-- What a stream answers to a request for its next byte. The end of the list is the end of the stream. -/
inductive Signal where
  | byte (value : UInt8)
  | interrupted
  | failure (cause : String)
  deriving DecidableEq, Repr

/-- A fault raised once, when `position` bytes have been handed out: a failure with a cause, or an
    interruption if there is none. -/
structure Fault where
  position : Nat
  cause : Option String
  deriving DecidableEq, Repr

def Fault.signal (fault : Fault) : Signal :=
  match fault.cause with
  | some cause => .failure cause
  | none => .interrupted

def Fault.raisedAt (faults : List Fault) (position : Nat) : List Signal :=
  (faults.filter (·.position == position)).map Fault.signal

/-- The stream of some bytes, the first of them at `position`, with faults between them. A fault after the end
    is never raised. -/
def Signal.weave (faults : List Fault) : List UInt8 → Nat → List Signal
  | [], position => Fault.raisedAt faults position
  | value :: rest, position => Fault.raisedAt faults position ++ .byte value :: weave faults rest (position + 1)

structure Reader where
  signals : List Signal
  offset : Nat
  deriving DecidableEq, Repr

inductive Progress (State Answer : Type) where
  | more (state : State)
  | done (answer : Except TapeError Answer)

structure Machine (State Answer : Type) where
  step : State → Nat → UInt8 → Progress State Answer
  finish : State → Nat → Except TapeError Answer

namespace Reader

def ofSignals (signals : List Signal) : Reader := ⟨signals, 0⟩

def ofBytes (bytes : List UInt8) : Reader := ofSignals (bytes.map .byte)

def ofFaulty (bytes : List UInt8) (faults : List Fault) : Reader := ofSignals (Signal.weave faults bytes 0)

def answer {Answer : Type} (result : Except TapeError Answer) (reader : Reader) :
    EStateM.Result TapeError Reader Answer :=
  match result with
  | .ok value => .ok value reader
  | .error error => .error error reader

def feed {State Answer : Type} (machine : Machine State Answer) (state : State) :
    List Signal → Nat → EStateM.Result TapeError Reader Answer
  | [], offset => answer (machine.finish state offset) ⟨[], offset⟩
  | .interrupted :: rest, offset => feed machine state rest offset
  | .failure cause :: rest, offset => .error (.couldNotRead offset cause) ⟨rest, offset⟩
  | .byte value :: rest, offset =>
    match machine.step state offset value with
    | .more next => feed machine next rest (offset + 1)
    | .done result => answer result ⟨rest, offset + 1⟩

def run {State Answer : Type} (machine : Machine State Answer) (state : State) :
    EStateM TapeError Reader Answer :=
  fun reader => feed machine state reader.signals reader.offset

def remaining {Answer : Type} : EStateM.Result TapeError Reader Answer → List Signal
  | .ok _ rest => rest.signals
  | .error _ rest => rest.signals

theorem remaining_answer {Answer : Type} (result : Except TapeError Answer) (reader : Reader) :
    remaining (answer result reader) = reader.signals := by
  cases result <;> rfl

theorem remaining_feed {State Answer : Type} (machine : Machine State Answer) (state : State)
    (signals : List Signal) (offset : Nat) :
    (remaining (feed machine state signals offset)).length ≤ signals.length := by
  induction signals generalizing state offset with
  | nil => simp [feed, remaining_answer]
  | cons signal rest ih =>
    cases signal with
    | interrupted => exact Nat.le_succ_of_le (ih state offset)
    | failure cause => simp [feed, remaining]
    | byte value =>
      simp only [feed, List.length_cons]
      cases machine.step state offset value with
      | more next => exact Nat.le_succ_of_le (ih next (offset + 1))
      | done result => simp [remaining_answer]

def next : EStateM TapeError Reader (Option UInt8) :=
  run ⟨fun _ _ value => .done (.ok (some value)), fun _ _ => .ok none⟩ ()

def expect : EStateM TapeError Reader UInt8 :=
  run ⟨fun _ _ value => .done (.ok value), fun _ offset => .error (.cutShort offset)⟩ ()

end Reader

end PaperTape
