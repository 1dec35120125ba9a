import PaperTape.Proofs.Writing

namespace PaperTape

open Output

structure Counted (σ : Type) where
  output : σ
  writes : Nat

namespace Counted

variable {σ : Type}

def keep (writes : Nat) : EStateM.Result String σ Unit → EStateM.Result String (Counted σ) Unit
  | .ok _ output => .ok () ⟨output, writes⟩
  | .error cause output => .error cause ⟨output, writes⟩

instance [Output σ] : Output (Counted σ) where
  writeAll bytes := fun ⟨output, writes⟩ => keep (writes + 1) (Output.writeAll bytes output)
  flush := fun ⟨output, writes⟩ => keep writes (Output.flush output)

end Counted

namespace Writer

section

variable {σ : Type}

def counted (writes : Nat) (writer : Writer σ) : Writer (Counted σ) :=
  ⟨⟨writer.output, writes⟩, writer.offset, writer.journal⟩

variable [Output σ]

theorem writeBytes_counted (bytes : List UInt8) (writer : Writer σ) (writes : Nat) :
    match writeBytes bytes writer with
    | .ok _ after =>
      after.offset = writer.offset + bytes.length ∧
        writeBytes bytes (writer.counted writes) = .ok () (after.counted (writes + 1))
    | .error error after =>
      after.offset = writer.offset ∧ error.offset = writer.offset ∧
        writeBytes bytes (writer.counted writes) = .error error (after.counted (writes + 1)) := by
  simp only [writeBytes, counted, Output.writeAll]
  cases Output.writeAll bytes writer.output with
  | ok _ after => exact ⟨rfl, rfl⟩
  | error cause after => exact ⟨rfl, rfl, rfl⟩

theorem writeBlank_zero (writer : Writer σ) : writeBlank 0 writer = .ok () writer := by
  rw [writeBlank, if_pos rfl]
  rfl

theorem writeBlank_next {count : Nat} (positive : count ≠ 0) (writer : Writer σ) :
    writeBlank count writer =
      match writeBytes (List.replicate (min count blankChunk) Frame.blank) writer with
      | .ok _ middle => writeBlank (count - blankChunk) middle
      | .error error after => .error error after := by
  rw [writeBlank, if_neg positive]
  simp only [Bind.bind, EStateM.bind]
  cases writeBytes (List.replicate (min count blankChunk) Frame.blank) writer <;> rfl

theorem writeBlank_counted (count : Nat) (writer : Writer σ) (writes : Nat) :
    match writeBlank count writer with
    | .ok _ after =>
      after.offset = writer.offset + count ∧
        writeBlank count (writer.counted writes) = .ok () (after.counted (writes + (count + 511) / 512))
    | .error error after =>
      ∃ chunks, 512 * chunks < count ∧ after.offset = writer.offset + 512 * chunks ∧ error.offset = after.offset ∧
        writeBlank count (writer.counted writes) = .error error (after.counted (writes + (chunks + 1))) := by
  induction count using Nat.strongRecOn generalizing writer writes with
  | _ count ih =>
    by_cases zero : count = 0
    · subst zero
      rw [writeBlank_zero, writeBlank_zero]
      exact ⟨rfl, rfl⟩
    · have chunk := writeBytes_counted (List.replicate (min count blankChunk) Frame.blank) writer writes
      rw [writeBlank_next zero, writeBlank_next zero]
      cases wrote : writeBytes (List.replicate (min count blankChunk) Frame.blank) writer with
      | error error after =>
        rw [wrote] at chunk
        obtain ⟨offset, place, same⟩ := chunk
        exact ⟨0, Nat.pos_of_ne_zero zero, offset, place.trans offset.symm, by rw [same]⟩
      | ok _ middle =>
        rw [wrote] at chunk
        obtain ⟨offset, same⟩ := chunk
        have rest := ih (count - blankChunk) (by simp only [blankChunk]; omega) middle (writes + 1)
        rw [same]
        simp only [List.length_replicate, blankChunk] at offset rest ⊢
        -- A later call can only fail if there was more than one chunk, so this one was full.
        cases ended : writeBlank (count - 512) middle with
        | ok _ after =>
          rw [ended] at rest
          obtain ⟨stop, ran⟩ := rest
          have calls : writes + 1 + (count - 512 + 511) / 512 = writes + (count + 511) / 512 := by omega
          exact ⟨by omega, by rw [← calls, ← ran]⟩
        | error error after =>
          rw [ended] at rest
          obtain ⟨chunks, within, stop, place, ran⟩ := rest
          have calls : writes + 1 + (chunks + 1) = writes + (chunks + 1 + 1) := by omega
          exact ⟨chunks + 1, by omega, by omega, place, by rw [← calls, ← ran]⟩

end

theorem length_le_of_mem_blankBuffers {count : Nat} {buffer : List UInt8} (member : buffer ∈ blankBuffers count) :
    buffer.length ≤ 512 := by
  rcases List.mem_append.mp member with full | rest
  · rw [List.eq_of_mem_replicate full, List.length_replicate]
    exact Nat.le_refl 512
  · split at rest
    · cases rest
    · rw [List.mem_singleton.mp rest, List.length_replicate]
      exact Nat.le_of_lt (Nat.mod_lt count (by decide))

theorem held_writeBlank (count : Nat) (writer : Writer Sink) :
    match writeBlank count writer with
    | .ok _ after =>
      after.output.held.toList = writer.output.held.toList ++ List.replicate count Frame.blank
    | .error _ after =>
      ∃ received, after.output.held.toList = writer.output.held.toList ++ List.replicate received Frame.blank ∧
        after.offset ≤ writer.offset + received ∧ writer.offset + received < after.offset + 512 ∧ received < count := by
  have offers := offers_writeBlank count writer
  cases wrote : writeBlank count writer with
  | ok _ after =>
    rw [wrote] at offers
    have held := Sink.held_offer offers.symm
    rwa [flatten_blankBuffers] at held
  | error error after =>
    rw [wrote] at offers
    obtain ⟨front, buffer, back, middle, cause, split, taken, refused, -⟩ := offer_error offers.symm
    obtain ⟨piece, ⟨missing, begins⟩, shorter, holds⟩ := Sink.held_refused taken refused
    have offset := offset_offer taken
    -- What the sink got is the front of the blank frames, so it is known by its length.
    have frames : (front.flatten ++ piece) ++ (missing ++ back.flatten) = List.replicate count Frame.blank := by
      rw [← flatten_blankBuffers, split, List.flatten_append, List.flatten_cons, ← begins]
      simp only [List.append_assoc]
    obtain ⟨total, blank, -⟩ := List.append_eq_replicate_iff.mp frames
    have chunk : buffer.length ≤ 512 := length_le_of_mem_blankBuffers (by rw [split]; simp)
    have size := congrArg List.length begins
    simp only [List.length_append] at total size
    refine ⟨(front.flatten ++ piece).length, ?_, ?_⟩
    · rw [holds, ← blank]
    · rw [List.length_append]
      omega

/-- Blank frames are all written after one call for each chunk of 512, or a call fails. Then the offset, and with it the
    failure, is behind the full chunks in front of that call, and the sink holds these and not all of the next one. -/
theorem writeBlank_exact (count : Nat) (writer : Writer Sink) :
    match writeBlank count writer with
    | .ok _ after =>
      after.output.held.toList = writer.output.held.toList ++ List.replicate count 0 ∧
        after.offset = writer.offset + count ∧
        writeBlank count (writer.counted 0) = .ok () (after.counted ((count + 511) / 512))
    | .error error after =>
      ∃ whole received, 512 ∣ whole ∧ whole < count ∧ whole ≤ received ∧ received < min (whole + 512) count ∧
        after.output.held.toList = writer.output.held.toList ++ List.replicate received 0 ∧
        after.offset = writer.offset + whole ∧ error.offset = after.offset ∧
        whole / 512 + 1 ≤ (count + 511) / 512 ∧
        writeBlank count (writer.counted 0) = .error error (after.counted (whole / 512 + 1)) := by
  have loop := writeBlank_counted count writer 0
  have held := held_writeBlank count writer
  cases wrote : writeBlank count writer with
  | ok _ after =>
    rw [wrote] at loop held
    obtain ⟨offset, ran⟩ := loop
    rw [Nat.zero_add] at ran
    exact ⟨held, offset, ran⟩
  | error error after =>
    rw [wrote] at loop held
    obtain ⟨chunks, within, offset, place, ran⟩ := loop
    obtain ⟨received, holds, least, most, short⟩ := held
    have calls : 512 * chunks / 512 + 1 = 0 + (chunks + 1) := by omega
    refine ⟨512 * chunks, received, Nat.dvd_mul_right 512 chunks, within, by omega, by omega, holds, offset, place,
      by omega, ?_⟩
    rw [calls]
    exact ran

/-- A chunk that does not fit leaves what there is room for, and does not count. -/
example :
    writeBlank 3 ({ output := { limit := some 2, overflow := .short } } : Writer Sink) =
      .error (.couldNotWrite 0 "tape full")
        { output := { held := #[0, 0], limit := some 2, overflow := .short } } := by
  cbv

end Writer

end PaperTape
