import PaperTape.FileSystem
import PaperTape.Proofs.Failing

namespace PaperTape

namespace Output

variable {σ : Type} [Output σ]

inductive Receives : σ → List UInt8 → σ → Prop
  | nil (output : σ) : Receives output [] output
  | write {output middle after : σ} {piece rest : List UInt8} : writeAll piece output = .ok () middle →
      Receives middle rest after → Receives output (piece ++ rest) after

/-- The output takes some bytes and is flushed behind them. -/
def Takes (output : σ) (bytes : List UInt8) (after : σ) : Prop :=
  ∃ written, Receives output bytes written ∧ flush written = .ok () after

theorem receives_piece {output after : σ} {piece : List UInt8} (wrote : writeAll piece output = .ok () after) :
    Receives output piece after := by
  have received := Receives.write wrote (.nil after)
  rwa [List.append_nil] at received

theorem Receives.append {output middle after : σ} {left right : List UInt8} (first : Receives output left middle)
    (second : Receives middle right after) : Receives output (left ++ right) after := by
  induction first with
  | nil => exact second
  | write wrote _ ih =>
    rw [List.append_assoc]
    exact .write wrote (ih second)

theorem receives_offer {buffers : List (List UInt8)} {output after : σ} {offset stop : Nat}
    (taken : offer buffers (output, offset) = .ok () (after, stop)) : Receives output buffers.flatten after := by
  induction buffers generalizing output offset with
  | nil =>
    cases taken
    exact .nil _
  | cons buffer buffers ih =>
    obtain ⟨middle, wrote, taken⟩ := offer_cons_ok.mp taken
    exact .write wrote (ih taken)

/-- Outputs that take so many bytes more, in whatever pieces these come, and can be flushed behind them. -/
structure Willing (able : Nat → σ → Prop) : Prop where
  writes : ∀ output bytes rest, able (bytes.length + rest) output →
    ∃ after, writeAll bytes output = .ok () after ∧ able rest after
  flushes : ∀ output, able 0 output → ∃ after, flush output = .ok () after

theorem Willing.receives {able : Nat → σ → Prop} (willing : Willing able) {output after : σ} {bytes : List UInt8}
    {rest : Nat} (received : Receives output bytes after) (ready : able (bytes.length + rest) output) :
    able rest after := by
  induction received with
  | nil =>
    rw [List.length_nil, Nat.zero_add] at ready
    exact ready
  | @write output middle after piece others wrote _ ih =>
    rw [List.length_append, Nat.add_assoc] at ready
    obtain ⟨next, taken, ready⟩ := willing.writes output piece _ ready
    rw [wrote] at taken
    cases taken
    exact ih ready

end Output

open Output

namespace Buffered

variable {σ : Type} [Output σ]

def Relays (buffer : Buffered σ) (bytes : List UInt8) (after : Buffered σ) : Prop :=
  ∃ passed, passed ++ after.pending.toList = buffer.pending.toList ++ bytes ∧
    Receives buffer.output passed after.output

theorem Relays.trans {buffer middle after : Buffered σ} {left right : List UInt8} (first : Relays buffer left middle)
    (second : Relays middle right after) : Relays buffer (left ++ right) after := by
  obtain ⟨front, kept, received⟩ := first
  obtain ⟨back, left_over, onward⟩ := second
  refine ⟨front ++ back, ?_, received.append onward⟩
  rw [List.append_assoc, left_over, ← List.append_assoc, kept, List.append_assoc]

theorem relays_drain {buffer after : Buffered σ} (drained : drain buffer = .ok () after) :
    Relays buffer [] after ∧ after.pending = #[] := by
  unfold drain at drained
  split at drained
  · rename_i output wrote
    cases drained
    refine ⟨⟨_, ?_, receives_piece wrote⟩, rfl⟩
    rfl
  · cases drained

theorem relays_append {buffer after : Buffered σ} {bytes : List UInt8} (taken : append bytes buffer = .ok () after)
    (ordered : capacity ≤ bytes.length → buffer.pending = #[]) : Relays buffer bytes after := by
  unfold append at taken
  split at taken
  · cases taken
    exact ⟨[], by simp, .nil _⟩
  · rename_i large
    split at taken
    · rename_i output wrote
      cases taken
      refine ⟨bytes, ?_, receives_piece wrote⟩
      rw [ordered (Nat.le_of_not_lt large)]
      exact List.append_nil _
    · cases taken

theorem relays_writeAll {buffer after : Buffered σ} {bytes : List UInt8} (wrote : writeAll bytes buffer = .ok () after) :
    Relays buffer bytes after := by
  unfold writeAll at wrote
  split at wrote
  -- Bytes that fill the buffer alone find it empty, or they would not fit behind what is pending.
  · rename_i room
    refine relays_append wrote fun large => ?_
    have none : buffer.pending.size = 0 := by omega
    exact Array.eq_empty_of_size_eq_zero none
  · split at wrote
    · rename_i drained emptied
      obtain ⟨relayed, none⟩ := relays_drain emptied
      exact relayed.trans (relays_append wrote fun _ => none)
    · cases wrote

theorem relays {buffer after : Buffered σ} {bytes : List UInt8} (received : Receives buffer bytes after) :
    Relays buffer bytes after := by
  induction received with
  | nil buffer => exact ⟨[], (List.append_nil _).symm, .nil _⟩
  | write wrote _ ih => exact (relays_writeAll wrote).trans ih

theorem takes {buffer after : Buffered σ} {bytes : List UInt8} (taken : Takes buffer bytes after) :
    Takes buffer.output (buffer.pending.toList ++ bytes) after.output := by
  obtain ⟨written, received, flushed⟩ := taken
  change flush written = .ok () after at flushed
  unfold flush at flushed
  split at flushed
  · rename_i drained emptied
    obtain ⟨relayed, none⟩ := relays_drain emptied
    obtain ⟨passed, same, onward⟩ := (relays received).trans relayed
    rw [none, List.append_nil, List.append_nil] at same
    split at flushed
    · rename_i output answered
      cases flushed
      rw [← same]
      exact ⟨drained.output, onward, answered⟩
    · cases flushed
  · cases flushed

section

variable {able : Nat → σ → Prop} {buffer : Buffered σ} {rest : Nat}

theorem drain_willing (willing : Willing able) (ready : able (buffer.pending.size + rest) buffer.output) :
    ∃ output, drain buffer = .ok () ⟨#[], output⟩ ∧ able rest output := by
  rw [← Array.length_toList] at ready
  obtain ⟨output, wrote, ready⟩ := willing.writes buffer.output buffer.pending.toList rest ready
  exact ⟨output, by simp only [drain, wrote], ready⟩

theorem append_willing (willing : Willing able) (bytes : List UInt8)
    (ready : able (buffer.pending.size + (bytes.length + rest)) buffer.output) :
    ∃ after, append bytes buffer = .ok () after ∧ able (after.pending.size + rest) after.output := by
  unfold append
  split
  · refine ⟨_, rfl, ?_⟩
    rw [size_appendList, Nat.add_assoc]
    exact ready
  · rw [Nat.add_left_comm] at ready
    obtain ⟨output, wrote, ready⟩ := willing.writes buffer.output bytes _ ready
    exact ⟨⟨buffer.pending, output⟩, by simp only [wrote], ready⟩

end

theorem willing {able : Nat → σ → Prop} (willing : Willing able) :
    Willing fun count (buffer : Buffered σ) => able (buffer.pending.size + count) buffer.output where
  writes buffer bytes rest ready := by
    change ∃ after, writeAll bytes buffer = .ok () after ∧ able (after.pending.size + rest) after.output
    unfold writeAll
    split
    · exact append_willing willing bytes ready
    · obtain ⟨output, drained, ready⟩ := drain_willing willing ready
      rw [drained]
      refine append_willing willing bytes ?_
      rw [show (#[] : Array UInt8).size = 0 from rfl, Nat.zero_add]
      exact ready
  flushes buffer ready := by
    change ∃ after, flush buffer = .ok () after
    obtain ⟨output, drained, ready⟩ := drain_willing willing ready
    obtain ⟨after, flushed⟩ := willing.flushes output ready
    exact ⟨⟨#[], after⟩, by simp only [flush, drained, flushed]⟩

end Buffered

namespace Sink

theorem willing : Willing fun count (sink : Sink) => sink.Fits count where
  writes _ _ _ fits := writeAll_fits fits
  flushes sink fits := ⟨sink, by simp only [Output.flush, flush, fits.flushing]⟩

theorem receives {sink after : Sink} {bytes : List UInt8} (received : Receives sink bytes after) :
    after.held.toList = sink.held.toList ++ bytes ∧
      after = { sink with held := after.held, interruptions := after.interruptions } ∧
      (bytes ≠ [] → sink.largest ≠ some 0 ∧ ∀ limit ∈ sink.limit, after.held.size ≤ limit) := by
  induction received with
  | nil sink => exact ⟨(List.append_nil _).symm, rfl, absurd rfl⟩
  | @write sink middle after piece rest wrote _ ih =>
    obtain ⟨held, kept, room⟩ := ih
    have wrote : writeAll piece sink = .ok () middle := wrote
    have first := held_writeAll piece sink
    have same := writeAll_kept piece sink
    rw [wrote] at first same
    rw [same] at kept room
    refine ⟨by rw [held, first, List.append_assoc], kept, fun filled => ?_⟩
    by_cases last : rest = []
    · rw [last, List.append_nil] at filled held
      obtain ⟨progressing, roomy⟩ := room_of_writeAll wrote filled
      have size : after.held = middle.held := Array.toList_inj.mp held
      rw [size]
      exact ⟨progressing, roomy⟩
    · exact room last

theorem held_takes {sink after : Sink} {bytes : List UInt8} (taken : Takes sink bytes after) :
    after.held.toList = sink.held.toList ++ bytes := by
  obtain ⟨written, received, flushed⟩ := taken
  obtain ⟨rfl, -⟩ := flush_ok flushed
  exact (receives received).1

theorem fits_of_takes {sink after : Sink} {bytes : List UInt8} (filled : bytes ≠ []) (taken : Takes sink bytes after) :
    sink.Fits bytes.length := by
  have holds := held_takes taken
  obtain ⟨written, received, flushed⟩ := taken
  obtain ⟨rfl, flushing⟩ := flush_ok flushed
  obtain ⟨-, kept, room⟩ := receives received
  obtain ⟨progressing, roomy⟩ := room filled
  refine ⟨progressing, fun limit member => ?_, ?_⟩
  · have most := roomy limit member
    rw [← Array.length_toList, holds, List.length_append, Array.length_toList] at most
    exact most
  · rw [kept] at flushing
    exact flushing

/-- Whether a sink takes some bytes and is flushed behind them does not depend on how they are cut. -/
theorem takes_iff_fits {sink : Sink} {bytes : List UInt8} (filled : bytes ≠ []) :
    (∃ after, Takes sink bytes after) ↔ sink.Fits bytes.length := by
  constructor
  · rintro ⟨after, taken⟩
    exact fits_of_takes filled taken
  · intro fits
    obtain ⟨written, wrote, ready⟩ := willing.writes sink bytes 0 fits
    obtain ⟨after, flushed⟩ := willing.flushes written ready
    exact ⟨after, written, receives_piece wrote, flushed⟩

end Sink

/-- An output together with whether it has ever refused to write or to flush. -/
structure Watched (σ : Type) where
  output : σ
  refused : Bool := false

namespace Watched

variable {σ : Type}

def watch (step : EStateM String σ Unit) (watched : Watched σ) : EStateM.Result String (Watched σ) Unit :=
  match step watched.output with
  | .ok _ output => .ok () { watched with output }
  | .error cause output => .error cause ⟨output, true⟩

theorem watch_ok {step : EStateM String σ Unit} {watched after : Watched σ} (done : watch step watched = .ok () after) :
    after.refused = watched.refused := by
  unfold watch at done
  split at done
  · cases done
    rfl
  · cases done

variable [Output σ]

instance : Output (Watched σ) := ⟨fun bytes => watch (Output.writeAll bytes), watch Output.flush⟩

theorem refused_takes {watched after : Watched σ} {bytes : List UInt8} (taken : Takes watched bytes after) :
    after.refused = watched.refused := by
  obtain ⟨written, received, flushed⟩ := taken
  rw [watch_ok flushed]
  clear flushed
  induction received with
  | nil => rfl
  | write wrote _ ih => exact ih.trans (watch_ok wrote)

end Watched

namespace Library

variable {σ : Type} [Output σ]

theorem Assembles.filled {library : Library} {tape : List UInt8} (assembles : library.Assembles tape) :
    library.files ≠ [] := by
  intro none
  have done := (assembles {} Sink.accepting_empty).1
  rw [assemble_empty none] at done
  cases done

theorem Assembles.nonempty {library : Library} {tape : List UInt8} (assembles : library.Assembles tape) :
    tape ≠ [] := by
  obtain ⟨front, joined⟩ := library.joined_concat assembles.filled
  rw [assembles.unique (library.assembles_tape assembles.filled), Library.tape, joined]
  simp [ObjectBlock.endMark, Block.bytes, Block.body, Block.endMark]

/-- An assembly that succeeds behind a buffer has brought the whole tape to the output. -/
theorem takes_assemble {library : Library} {tape : List UInt8} (assembles : library.Assembles tape) {output : σ}
    (done : (library.assemble (Buffered.mk #[] output)).result = .ok ()) :
    Takes output tape (library.assemble (Buffered.mk #[] output)).writer.output.output := by
  have ends := library.assemble_ends (Buffered.mk #[] output)
  rw [done] at ends
  cases ends with
  | complete taken flushed =>
    have whole := Buffered.takes ⟨_, receives_offer taken, flushed⟩
    rw [flatten_buffers] at whole
    have same := assembles.unique (library.assembles_bytes assembles.filled (Buffered.mk #[] output))
    rw [same]
    exact whole

theorem files_assemble_ne_nil {library : Library} (filled : library.files ≠ []) (output : σ) :
    (library.assemble output).library.files ≠ [] := by
  have same := isEmpty_congr library.unframed_perform_prepare
  rw [← library.library_assemble output] at same
  rw [← List.isEmpty_eq_false_iff, same]
  exact List.isEmpty_eq_false_iff.mpr filled

theorem assemble_willing {able : Nat → σ → Prop} (willing : Willing able) {library : Library} {tape : List UInt8}
    (assembles : library.Assembles tape) {output : σ} (ready : able tape.length output) :
    (library.assemble output).result = .ok () := by
  have ends := library.assemble_ends output
  have same : tape = (library.assemble output).library.bytes :=
    assembles.unique (library.assembles_bytes assembles.filled output)
  rw [same, Library.bytes] at ready
  have filled := files_assemble_ne_nil assembles.filled output
  generalize (library.assemble output).library.files = files at ends ready filled
  generalize (library.assemble output).result = result at ends
  generalize (library.assemble output).writer.output = last at ends
  cases ends with
  | empty none => exact absurd none filled
  | complete => rfl
  | @unflushed written _ _ _ taken unflushed =>
    rw [← flatten_buffers] at ready
    obtain ⟨after, flushed⟩ := willing.flushes written (willing.receives (receives_offer taken) ready)
    rw [unflushed] at flushed
    cases flushed
  | @refused front back file before behind buffer middle _ _ _ split cut taken refused =>
    rw [← flatten_buffers, buffers_split split cut, List.flatten_append, List.flatten_cons, List.length_append,
      List.length_append] at ready
    obtain ⟨after, wrote, -⟩ := willing.writes middle buffer _ (willing.receives (receives_offer taken) ready)
    rw [refused] at wrote
    cases wrote

end Library

end PaperTape
