import PaperTape.Library
import PaperTape.Proofs.Decoding
import PaperTape.Proofs.Offering

namespace PaperTape

theorem size_appendList (held : Array UInt8) (bytes : List UInt8) : (held ++ bytes).size = held.size + bytes.length := by
  rw [← Array.length_toList, Array.toList_appendList, List.length_append, Array.length_toList]

/-- No write and no flush fails, though a write may be interrupted or take only a part of an offer. -/
structure Sink.Accepting (sink : Sink) : Prop where
  unlimited : sink.limit = none
  progressing : sink.largest ≠ some 0
  flushing : sink.flushFailure = none

namespace Sink

theorem accepting_empty : Accepting {} := ⟨rfl, nofun, rfl⟩

/-- Nothing fails while so many bytes more are written, in whatever pieces, and the sink is flushed behind them. -/
structure Fits (sink : Sink) (count : Nat) : Prop where
  progressing : sink.largest ≠ some 0
  roomy : ∀ limit ∈ sink.limit, sink.held.size + count ≤ limit
  flushing : sink.flushFailure = none

theorem Accepting.fits {sink : Sink} (accepting : sink.Accepting) (count : Nat) : sink.Fits count where
  progressing := accepting.progressing
  roomy limit member := by
    rw [accepting.unlimited] at member
    cases member
  flushing := accepting.flushing

theorem wanted_le (sink : Sink) (offered : Nat) :
    sink.wanted offered ≤ offered ∧ ∀ most ∈ sink.largest, sink.wanted offered ≤ most := by
  unfold wanted
  cases sink.largest with
  | none => exact ⟨Nat.le_refl offered, nofun⟩
  | some largest =>
    refine ⟨Nat.min_le_left .., fun most member => ?_⟩
    cases member
    exact Nat.min_le_right ..

theorem wanted_pos {sink : Sink} (progressing : sink.largest ≠ some 0) (offered : Nat) :
    0 < sink.wanted (offered + 1) := by
  unfold wanted
  cases most : sink.largest with
  | none => exact Nat.succ_pos offered
  | some largest =>
    have positive : largest ≠ 0 := fun zero => progressing (by rw [most, zero])
    simp only [Option.map_some, Option.getD_some]
    omega

theorem accepts_ok {sink : Sink} {offered taken : Nat} (accepted : sink.accepts offered = .ok taken) :
    taken ≤ sink.wanted offered ∧ ∀ limit ∈ sink.limit, taken ≤ limit - sink.held.size := by
  unfold accepts at accepted
  cases bound : sink.limit with
  | none =>
    rw [bound] at accepted
    cases accepted
    exact ⟨Nat.le_refl _, nofun⟩
  | some limit =>
    simp only [bound] at accepted
    have both : taken ≤ sink.wanted offered ∧ taken ≤ limit - sink.held.size := by
      split at accepted
      · split at accepted
        · cases accepted
        · rename_i roomy
          cases accepted
          exact ⟨Nat.le_refl _, Nat.le_of_not_lt roomy⟩
      · split at accepted
        · cases accepted
        · cases accepted
          exact ⟨Nat.min_le_left .., Nat.min_le_right ..⟩
      · cases accepted
        exact ⟨Nat.min_le_left .., Nat.min_le_right ..⟩
    refine ⟨both.1, fun other member => ?_⟩
    cases member
    exact both.2

theorem Fits.accepts {sink : Sink} {offered count : Nat} (fits : sink.Fits (offered + 1 + count)) :
    sink.accepts (offered + 1) = .ok (sink.wanted (offered + 1)) := by
  have roomy := fits.roomy
  have some := wanted_pos fits.progressing offered
  unfold Sink.accepts
  cases bound : sink.limit with
  | none => rfl
  | some limit =>
    have within := (sink.wanted_le (offered + 1)).1
    have room := roomy limit bound
    have fitting : sink.wanted (offered + 1) ≤ limit - sink.held.size := by omega
    cases sink.overflow with
    | reject => exact if_neg (Nat.not_lt_of_le fitting)
    | short =>
      have remains : limit - sink.held.size ≠ 0 := by omega
      simp only [remains, if_false, Nat.min_eq_left fitting]
    | zero => simp only [Nat.min_eq_left fitting]

theorem writeAll_kept (bytes : List UInt8) (sink : Sink) :
    match writeAll bytes sink with
    | .ok _ after | .error _ after =>
      after = { sink with held := after.held, interruptions := after.interruptions } := by
  fun_induction writeAll bytes sink with
  | case1 => rfl
  | case2 _ _ _ _ ih => exact ih
  | case3 => rfl
  | case4 => rfl
  | case5 _ _ _ _ _ _ ih => exact ih

theorem writeAll_fits {bytes : List UInt8} {sink : Sink} {count : Nat} (fits : sink.Fits (bytes.length + count)) :
    ∃ after, writeAll bytes sink = .ok () after ∧ after.Fits count := by
  fun_induction writeAll bytes sink with
  | case1 sink =>
    rw [List.length_nil, Nat.zero_add] at fits
    exact ⟨sink, rfl, fits⟩
  | case2 sink byte rest _ ih => exact ih ⟨fits.progressing, fits.roomy, fits.flushing⟩
  | case3 sink byte rest _ cause refused =>
    have accepted : sink.accepts (rest.length + 1) = _ := Fits.accepts fits
    rw [accepted] at refused
    cases refused
  | case4 sink byte rest _ none =>
    have accepted : sink.accepts (rest.length + 1) = _ := Fits.accepts fits
    rw [accepted] at none
    exact absurd (Except.ok.inj none) (Nat.ne_of_gt (wanted_pos fits.progressing rest.length))
  | case5 sink byte rest _ taken accepted ih =>
    have within := Nat.le_trans (accepts_ok accepted).1 (sink.wanted_le _).1
    refine ih ⟨fits.progressing, fun limit member => ?_, fits.flushing⟩
    have room := fits.roomy limit member
    simp only [size_appendList, List.length_cons, List.length_take, List.length_drop] at room ⊢
    omega

/-- Bytes can only have been written where there was room for them. -/
theorem room_of_writeAll {bytes : List UInt8} {sink after : Sink} (wrote : writeAll bytes sink = .ok () after)
    (filled : bytes ≠ []) : sink.largest ≠ some 0 ∧ ∀ limit ∈ sink.limit, after.held.size ≤ limit := by
  fun_induction writeAll bytes sink with
  | case1 => exact absurd rfl filled
  | case2 sink byte rest _ ih => exact ih wrote filled
  | case3 => cases wrote
  | case4 => cases wrote
  | case5 sink byte rest _ taken accepted ih =>
    obtain ⟨wanted, room⟩ := accepts_ok accepted
    have most := (sink.wanted_le (rest.length + 1)).2
    refine ⟨fun zero => ?_, ?_⟩
    · have none := Nat.le_trans wanted (most 0 zero)
      omega
    · by_cases all : rest.drop taken = []
      · rw [all, writeAll] at wrote
        cases wrote
        intro limit member
        have free := room limit member
        simp only [size_appendList, List.length_cons, List.length_take]
        omega
      · exact (ih wrote all).2

theorem writeAll_accepting (bytes : List UInt8) (sink : Sink) (accepting : sink.Accepting) :
    ∃ after, writeAll bytes sink = .ok () after ∧ after.Accepting := by
  obtain ⟨after, wrote, -⟩ := writeAll_fits (accepting.fits (bytes.length + 0))
  have kept := writeAll_kept bytes sink
  rw [wrote] at kept
  refine ⟨after, wrote, ?_⟩
  rw [kept]
  exact ⟨accepting.unlimited, accepting.progressing, accepting.flushing⟩

theorem offer_accepting (buffers : List (List UInt8)) {sink : Sink} (accepting : sink.Accepting) (offset : Nat) :
    ∃ after stop, Output.offer buffers (sink, offset) = .ok () (after, stop) ∧ after.Accepting := by
  induction buffers generalizing sink offset with
  | nil => exact ⟨sink, offset, rfl, accepting⟩
  | cons buffer buffers ih =>
    obtain ⟨middle, wrote, accepting⟩ := writeAll_accepting buffer sink accepting
    obtain ⟨after, stop, taken, accepting⟩ := ih accepting (offset + buffer.length)
    exact ⟨after, stop, Output.offer_cons_ok.mpr ⟨middle, wrote, taken⟩, accepting⟩

theorem held_offer {buffers : List (List UInt8)} {sink after : Sink} {offset stop : Nat}
    (taken : Output.offer buffers (sink, offset) = .ok () (after, stop)) :
    after.held.toList = sink.held.toList ++ buffers.flatten := by
  induction buffers generalizing sink offset with
  | nil =>
    cases taken
    exact (List.append_nil _).symm
  | cons buffer buffers ih =>
    obtain ⟨middle, wrote, taken⟩ := Output.offer_cons_ok.mp taken
    have held := held_writeAll buffer sink
    rw [show writeAll buffer sink = .ok () middle from wrote] at held
    rw [ih taken, held, List.flatten_cons, List.append_assoc]

theorem held_refused {front : List (List UInt8)} {buffer : List UInt8} {sink middle after : Sink} {offset stop : Nat}
    {cause : String} (taken : Output.offer front (sink, offset) = .ok () (middle, stop))
    (refused : Output.writeAll buffer middle = .error cause after) :
    ∃ piece, piece <+: buffer ∧ piece.length < buffer.length ∧
      after.held.toList = sink.held.toList ++ (front.flatten ++ piece) := by
  have held := held_writeAll buffer middle
  rw [show writeAll buffer middle = .error cause after from refused] at held
  obtain ⟨piece, begins, shorter, holds⟩ := held
  refine ⟨piece, begins, shorter, ?_⟩
  rw [holds, held_offer taken, List.append_assoc]

end Sink

namespace Writer

variable {ε : Type}

/-- A step that puts the given bytes, and no others, on every accepting sink. -/
def Appends (step : EStateM ε (Writer Sink) Unit) (bytes : List UInt8) : Prop :=
  ∀ writer, writer.output.Accepting →
    ∃ after, step writer = .ok () after ∧ after.output.Accepting ∧
      after.output.held.toList = writer.output.held.toList ++ bytes ∧ after.offset = writer.offset + bytes.length

theorem Appends.bind {first second : EStateM ε (Writer Sink) Unit} {left right : List UInt8}
    (one : Appends first left) (two : Appends second right) :
    Appends (first >>= fun _ => second) (left ++ right) := by
  intro writer accepting
  obtain ⟨middle, ran, accepting, held, offset⟩ := one writer accepting
  obtain ⟨after, ran', accepting, held', offset'⟩ := two middle accepting
  refine ⟨after, ?_, accepting, ?_, ?_⟩
  · simp only [Bind.bind, EStateM.bind, ran, ran']
  · rw [held', held, List.append_assoc]
  · rw [offset', offset, List.length_append, Nat.add_assoc]

theorem Appends.pure : Appends (Pure.pure () : EStateM ε (Writer Sink) Unit) [] :=
  fun writer accepting => ⟨writer, rfl, accepting, (List.append_nil _).symm, rfl⟩

theorem Appends.get {go : Writer Sink → EStateM ε (Writer Sink) Unit} {bytes : List UInt8}
    (each : ∀ writer, Appends (go writer) bytes) : Appends (MonadState.get >>= go) bytes :=
  fun writer accepting => each writer writer accepting

theorem Appends.forM {α : Type} {step : α → EStateM ε (Writer Sink) Unit} {bytes : α → List UInt8}
    (items : List α) (each : ∀ item ∈ items, Appends (step item) (bytes item)) :
    Appends (items.forM step) (items.flatMap bytes) := by
  induction items with
  | nil => exact Appends.pure
  | cons item items ih =>
    rw [List.flatMap_cons]
    exact (each item (List.mem_cons_self ..)).bind (ih fun other member => each other (List.mem_cons_of_mem _ member))

theorem Appends.unique {step : EStateM ε (Writer Sink) Unit} {left right : List UInt8} (one : Appends step left)
    (two : Appends step right) : left = right := by
  obtain ⟨after, ran, -, held, -⟩ := one { output := {} } Sink.accepting_empty
  obtain ⟨after', ran', -, held', -⟩ := two { output := {} } Sink.accepting_empty
  rw [ran] at ran'
  cases ran'
  exact List.append_cancel_left (held.symm.trans held')

theorem appends_report (event : Event) : Appends (ε := ε) (report event) [] :=
  fun _ accepting => ⟨_, rfl, accepting, (List.append_nil _).symm, rfl⟩

theorem Offers.appends {step : EStateM TapeError (Writer Sink) Unit} {buffers : List (List UInt8)}
    (offers : Offers step buffers) : Appends step buffers.flatten := by
  intro writer accepting
  obtain ⟨sink, stop, taken, accepting⟩ := Sink.offer_accepting buffers accepting writer.offset
  have left := offers writer
  rw [taken] at left
  cases ran : step writer with
  | error error after =>
    rw [ran] at left
    cases left
  | ok _ after =>
    rw [ran] at left
    cases left
    exact ⟨after, rfl, accepting, Sink.held_offer taken, Output.offset_offer taken⟩

theorem appends_flush : Appends flush [] := by
  intro writer accepting
  refine ⟨writer, ?_, accepting, (List.append_nil _).symm, rfl⟩
  simp only [flush, Output.flush, Sink.flush, accepting.flushing]

end Writer

open Writer

theorem Block.appends_encode (block : Block) : Appends block.encode block.bytes := by
  rw [← block.flatten_buffers]
  exact block.offers_encode.appends

theorem ObjectFile.appends_write (file : ObjectFile) : Appends file.write file.bytes := by
  rw [← file.flatten_buffers]
  exact file.offers_write.appends

namespace Library

theorem appends_blaming (name : String) {step : EStateM TapeError (Writer Sink) Unit} {bytes : List UInt8}
    (appends : Appends step bytes) : Appends (blaming name step) bytes := by
  intro writer accepting
  obtain ⟨after, ran, rest⟩ := appends writer accepting
  exact ⟨after, by simp only [blaming, ran], rest⟩

theorem appends_write (library : Library) : Appends library.write library.bytes := by
  have closing := (appends_blaming "<output>" appends_flush).bind <|
    Appends.get fun writer => appends_report (.assembledLibrary library.files.length writer.offset)
  have whole := (Appends.forM library.files fun file _ => appends_blaming file.name file.appends_write).bind closing
  rw [List.append_nil, List.append_nil] at whole
  exact whole

end Library

end PaperTape
