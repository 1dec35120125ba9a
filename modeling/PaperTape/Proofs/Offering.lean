import PaperTape.Object.File

namespace PaperTape

namespace Output

variable {σ : Type} [Output σ]

def offer : List (List UInt8) → σ × Nat → EStateM.Result TapeError (σ × Nat) Unit
  | [], state => .ok () state
  | buffer :: rest, (output, offset) =>
    match writeAll buffer output with
    | .ok _ output => offer rest (output, offset + buffer.length)
    | .error cause output => .error (.couldNotWrite offset cause) (output, offset)

theorem flatten_flatMap {α : Type} (items : List α) {buffers : α → List (List UInt8)} {bytes : α → List UInt8}
    (each : ∀ item, (buffers item).flatten = bytes item) : (items.flatMap buffers).flatten = items.flatMap bytes := by
  rw [List.flatMap_def, List.flatten_flatten, List.map_map, List.flatMap_def]
  exact congrArg List.flatten (List.map_congr_left fun item _ => each item)

theorem offer_append (left right : List (List UInt8)) (state : σ × Nat) :
    offer (left ++ right) state =
      match offer left state with
      | .ok _ middle => offer right middle
      | .error error after => .error error after := by
  induction left generalizing state with
  | nil => rfl
  | cons buffer left ih =>
    obtain ⟨output, offset⟩ := state
    rw [List.cons_append, offer, offer]
    cases writeAll buffer output with
    | ok _ output => exact ih (output, offset + buffer.length)
    | error cause output => rfl

theorem offer_append_ok {left right : List (List UInt8)} {state middle : σ × Nat}
    (taken : offer left state = .ok () middle) : offer (left ++ right) state = offer right middle := by
  rw [offer_append, taken]

theorem offer_cons_ok {buffer : List UInt8} {rest : List (List UInt8)} {output : σ} {offset : Nat} {state : σ × Nat} :
    offer (buffer :: rest) (output, offset) = .ok () state ↔
      ∃ middle, writeAll buffer output = .ok () middle ∧ offer rest (middle, offset + buffer.length) = .ok () state := by
  rw [offer]
  cases writeAll buffer output with
  | ok _ middle => simp
  | error cause after => simp

theorem offset_offer {buffers : List (List UInt8)} {output after : σ} {offset stop : Nat}
    (taken : offer buffers (output, offset) = .ok () (after, stop)) :
    stop = offset + buffers.flatten.length := by
  induction buffers generalizing output offset with
  | nil =>
    cases taken
    rfl
  | cons buffer buffers ih =>
    obtain ⟨middle, -, taken⟩ := offer_cons_ok.mp taken
    rw [ih taken, List.flatten_cons, List.length_append, Nat.add_assoc]

theorem offer_refused {front back : List (List UInt8)} {buffer : List UInt8} {state : σ × Nat} {middle after : σ}
    {stop : Nat} {cause : String} (taken : offer front state = .ok () (middle, stop))
    (refused : writeAll buffer middle = .error cause after) :
    offer (front ++ buffer :: back) state = .error (.couldNotWrite stop cause) (after, stop) := by
  rw [offer_append_ok taken, offer, refused]

/-- Offering fails at one buffer. Those in front of it were taken, and nothing is offered behind it. -/
theorem offer_error {buffers : List (List UInt8)} {output after : σ} {offset stop : Nat} {error : TapeError}
    (failed : offer buffers (output, offset) = .error error (after, stop)) :
    ∃ front buffer back middle cause, buffers = front ++ buffer :: back ∧
      offer front (output, offset) = .ok () (middle, stop) ∧ writeAll buffer middle = .error cause after ∧
      error = .couldNotWrite stop cause := by
  induction buffers generalizing output offset with
  | nil => cases failed
  | cons buffer buffers ih =>
    rw [offer] at failed
    cases wrote : writeAll buffer output with
    | ok _ middle =>
      rw [wrote] at failed
      obtain ⟨front, next, back, last, cause, rfl, taken, refused, same⟩ := ih failed
      exact ⟨buffer :: front, next, back, last, cause, rfl, offer_cons_ok.mpr ⟨_, wrote, taken⟩, refused, same⟩
    | error cause middle =>
      rw [wrote] at failed
      cases failed
      exact ⟨[], buffer, buffers, output, cause, rfl, rfl, wrote, rfl⟩

end Output

open Output

namespace Writer

def blankBuffers (count : Nat) : List (List UInt8) :=
  List.replicate (count / blankChunk) (List.replicate blankChunk Frame.blank) ++
    if count % blankChunk = 0 then [] else [List.replicate (count % blankChunk) Frame.blank]

theorem blankBuffers_cons {count : Nat} (positive : count ≠ 0) :
    blankBuffers count = List.replicate (min count blankChunk) Frame.blank :: blankBuffers (count - blankChunk) := by
  unfold blankBuffers
  by_cases full : blankChunk ≤ count
  · have chunks : count / blankChunk = (count - blankChunk) / blankChunk + 1 :=
      Nat.div_eq_sub_div (by decide) full
    rw [chunks, Nat.mod_eq_sub_mod full, Nat.min_eq_right full, List.replicate_succ, List.cons_append]
  · have short : count < blankChunk := Nat.lt_of_not_le full
    have none : count - blankChunk = 0 := Nat.sub_eq_zero_of_le (Nat.le_of_lt short)
    rw [Nat.div_eq_of_lt short, Nat.mod_eq_of_lt short, none, if_neg positive, Nat.min_eq_left (Nat.le_of_lt short)]
    rfl

theorem flatten_blankBuffers (count : Nat) : (blankBuffers count).flatten = List.replicate count Frame.blank := by
  have rest : (if count % blankChunk = 0 then [] else [List.replicate (count % blankChunk) Frame.blank]).flatten =
      List.replicate (count % blankChunk) Frame.blank := by
    split
    · rename_i none
      rw [none]
      rfl
    · exact List.flatten_singleton
  rw [blankBuffers, List.flatten_append, List.flatten_replicate_replicate, rest, List.replicate_append_replicate,
    Nat.div_add_mod']

variable {σ : Type}

def bare {ε α : Type} : EStateM.Result ε (Writer σ) α → EStateM.Result ε (σ × Nat) α
  | .ok value writer => .ok value (writer.output, writer.offset)
  | .error error writer => .error error (writer.output, writer.offset)

variable [Output σ]

/-- A step that does nothing to the output but offer the given buffers. -/
def Offers (step : EStateM TapeError (Writer σ) Unit) (buffers : List (List UInt8)) : Prop :=
  ∀ writer, bare (step writer) = offer buffers (writer.output, writer.offset)

theorem Offers.bind {first second : EStateM TapeError (Writer σ) Unit} {left right : List (List UInt8)}
    (one : Offers first left) (two : Offers second right) :
    Offers (first >>= fun _ => second) (left ++ right) := by
  intro writer
  have ran := one writer
  rw [offer_append, ← ran]
  simp only [Bind.bind, EStateM.bind]
  cases first writer with
  | ok _ middle => exact two middle
  | error error after => rfl

theorem Offers.pure : Offers (Pure.pure () : EStateM TapeError (Writer σ) Unit) [] := fun _ => rfl

theorem Offers.get {go : Writer σ → EStateM TapeError (Writer σ) Unit} {buffers : List (List UInt8)}
    (each : ∀ writer, Offers (go writer) buffers) : Offers (MonadState.get >>= go) buffers :=
  fun writer => each writer writer

theorem Offers.forM {α : Type} {step : α → EStateM TapeError (Writer σ) Unit} {buffers : α → List (List UInt8)}
    (items : List α) (each : ∀ item, Offers (step item) (buffers item)) :
    Offers (items.forM step) (items.flatMap buffers) := by
  induction items with
  | nil => exact Offers.pure
  | cons item items ih => exact (each item).bind ih

theorem offers_report (event : Event) : Offers (σ := σ) (report event) [] := fun _ => rfl

theorem offers_writeBytes (bytes : List UInt8) : Offers (σ := σ) (writeBytes bytes) [bytes] := by
  intro writer
  simp only [writeBytes, offer]
  cases writeAll bytes writer.output <;> rfl

theorem offers_writeBlank (count : Nat) : Offers (σ := σ) (writeBlank count) (blankBuffers count) := by
  fun_induction writeBlank (σ := σ) count with
  | case1 => exact Offers.pure
  | case2 count positive ih =>
    rw [blankBuffers_cons positive]
    exact (offers_writeBytes _).bind ih

end Writer

open Writer

def Block.buffers (block : Block) : List (List UInt8) := blankBuffers block.leader ++ [block.body]

theorem Block.flatten_buffers (block : Block) : block.buffers.flatten = block.bytes := by
  rw [buffers, List.flatten_append, flatten_blankBuffers, List.flatten_singleton, bytes]

theorem Block.offers_encode {σ : Type} [Output σ] (block : Block) : Offers (σ := σ) block.encode block.buffers := by
  refine (offers_writeBlank block.leader).bind ?_
  apply Offers.get
  intro writer
  exact (offers_report _).bind (offers_writeBytes block.body)

namespace ObjectFile

def buffers (file : ObjectFile) : List (List UInt8) :=
  file.blocks.flatMap (·.block.buffers) ++ blankBuffers file.trailing

theorem flatten_buffers (file : ObjectFile) : file.buffers.flatten = file.bytes := by
  have blocks := flatten_flatMap file.blocks fun object => object.block.flatten_buffers
  rw [buffers, List.flatten_append, blocks, flatten_blankBuffers, bytes]

theorem offers_write {σ : Type} [Output σ] (file : ObjectFile) : Offers (σ := σ) file.write file.buffers := by
  refine (Offers.forM file.blocks fun object => object.block.offers_encode).bind ?_
  have trailer := (offers_writeBlank (σ := σ) file.trailing).bind
    (offers_report (.wroteFile file.name file.blocks.length file.trailing))
  rwa [List.append_nil] at trailer

end ObjectFile

end PaperTape
