import PaperTape.Reader

namespace PaperTape

/-- Signals that deliver some bytes, with interruptions before each of them but none after the last. -/
inductive Signal.Delivers : List Signal → List UInt8 → Prop
  | nil : Delivers [] []
  | byte (value : UInt8) {signals : List Signal} {bytes : List UInt8} :
      Delivers signals bytes → Delivers (.byte value :: signals) (value :: bytes)
  | interrupted {signals : List Signal} {value : UInt8} {bytes : List UInt8} :
      Delivers signals (value :: bytes) → Delivers (.interrupted :: signals) (value :: bytes)

theorem Signal.Delivers.eq_nil {signals : List Signal} (delivers : Delivers signals []) : signals = [] := by
  cases delivers
  rfl

namespace Reader

variable {State Answer : Type} {machine : Machine State Answer}

theorem answer_eq_ok {result : Except TapeError Answer} {reader left : Reader} {value : Answer} :
    answer result reader = .ok value left ↔ result = .ok value ∧ reader = left := by
  cases result with
  | ok found => simp [answer]
  | error error => simp [answer]

theorem feed_delivered (endless : ∀ state offset, (machine.finish state offset).isOk = false)
    (signals : List Signal) {state : State} {offset : Nat} {value : Answer} {left : Reader}
    (done : feed machine state signals offset = .ok value left) :
    ∃ read first bytes, signals = read ++ left.signals ∧ Signal.Delivers read (first :: bytes) ∧
      left.offset = offset + (first :: bytes).length := by
  induction signals generalizing state offset with
  | nil =>
    have finished := (answer_eq_ok.mp done).1
    have failed := endless state offset
    rw [finished] at failed
    cases failed
  | cons signal signals ih =>
    cases signal with
    | interrupted =>
      obtain ⟨read, first, bytes, rfl, delivers, stopped⟩ := ih done
      exact ⟨.interrupted :: read, first, bytes, rfl, .interrupted delivers, stopped⟩
    | failure cause => cases done
    | byte value =>
      simp only [feed] at done
      split at done
      · obtain ⟨read, first, bytes, rfl, delivers, stopped⟩ := ih done
        refine ⟨.byte value :: read, value, first :: bytes, rfl, .byte value delivers, ?_⟩
        simp only [stopped, List.length_cons]
        omega
      · obtain ⟨rfl, rfl⟩ := answer_eq_ok.mp done
        exact ⟨[.byte value], value, [], rfl, .byte value .nil, rfl⟩

theorem feed_of_delivers {read : List Signal} {bytes : List UInt8} (delivers : Signal.Delivers read bytes)
    {state : State} {offset stop : Nat} {value : Answer} {rest : List Signal}
    (done : feed machine state (bytes.map .byte ++ rest) offset = .ok value ⟨rest, stop⟩) :
    feed machine state (read ++ rest) offset = .ok value ⟨rest, stop⟩ := by
  induction delivers generalizing state offset with
  | nil => exact done
  | interrupted _ ih => exact ih done
  | @byte first signals bytes delivers ih =>
    simp only [List.map_cons, List.cons_append, feed] at done ⊢
    cases stepped : machine.step state offset first with
    | more next =>
      rw [stepped] at done
      exact ih done
    | done result =>
      rw [stepped] at done
      obtain ⟨rfl, stopped⟩ := answer_eq_ok.mp done
      obtain ⟨none, rfl⟩ := Reader.mk.inj stopped
      -- The machine has answered, so that this was the last of the bytes.
      obtain rfl : bytes = [] := by
        rwa [List.append_left_eq_self, List.map_eq_nil_iff] at none
      rw [delivers.eq_nil]
      rfl

end Reader

def Signal.uninterrupted (signals : List Signal) : List Signal := signals.filter (· ≠ .interrupted)

namespace Reader

variable {State Answer : Type} {machine : Machine State Answer}

def uninterrupted (reader : Reader) : Reader := ⟨Signal.uninterrupted reader.signals, reader.offset⟩

def uninterruptedResult : EStateM.Result TapeError Reader Answer → EStateM.Result TapeError Reader Answer
  | .ok value left => .ok value left.uninterrupted
  | .error error left => .error error left.uninterrupted

theorem feed_uninterrupted (state : State) (signals : List Signal) (offset : Nat) :
    feed machine state (Signal.uninterrupted signals) offset =
      uninterruptedResult (feed machine state signals offset) := by
  have answered (result : Except TapeError Answer) (reader : Reader) :
      answer result reader.uninterrupted = uninterruptedResult (answer result reader) := by
    cases result <;> rfl
  induction signals generalizing state offset with
  | nil => exact answered (machine.finish state offset) ⟨[], offset⟩
  | cons signal signals ih =>
    cases signal with
    | interrupted => exact ih state offset
    | failure cause => rfl
    | byte value =>
      change feed machine state (.byte value :: Signal.uninterrupted signals) offset = _
      simp only [feed]
      cases machine.step state offset value with
      | more next => exact ih next (offset + 1)
      | done result => exact answered result ⟨signals, offset + 1⟩

end Reader

end PaperTape
