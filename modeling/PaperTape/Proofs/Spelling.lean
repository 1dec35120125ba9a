import PaperTape.Proofs.Decoding

namespace PaperTape

/-- The punched forms of a block. An end-of-tape mark may be led by the terminator, and a block without words
    may lack its checksum word. -/
inductive Block.Spelling (block : Block) : List UInt8 → Prop
  | punched : block.WellFormed → block.Spelling block.bytes
  | alternate : block.endOfTape = true → block.words = [] →
      block.Spelling
        (List.replicate block.leader Frame.blank ++ [Frame.terminator, Frame.midBlockMarker, Frame.terminator])
  | bare : block.endOfTape = false → block.words = [] →
      block.Spelling
        (List.replicate block.leader Frame.blank ++ [Frame.startMarker, Frame.midBlockMarker, Frame.terminator])

theorem Block.Spelling.wellFormed {block : Block} {bytes : List UInt8} (spelled : block.Spelling bytes) :
    block.WellFormed := by
  cases spelled with
  | punched wellFormed => exact wellFormed
  | alternate marked empty => exact fun _ => empty
  | bare unmarked empty => exact fun _ => empty

namespace Scan

def Taken (scan : Scan) (frames : List UInt8) : Prop :=
  let words := Frame.startMarker :: scan.reversed.reverse.flatMap Word.frames
  match scan.stage with
  | .leader => frames = [] ∧ scan.reversed = []
  | .endOfTapeMiddle => frames = [Frame.endOfTapeMarker] ∨ frames = [Frame.terminator]
  | .endOfTapeClose =>
    frames = [Frame.endOfTapeMarker, Frame.midBlockMarker] ∨ frames = [Frame.terminator, Frame.midBlockMarker]
  | .wordBoundary => frames = words
  | .secondFrame high => high < 16 ∧ frames = words ++ [Frame.punch high]
  | .thirdFrame high middle =>
    high < 16 ∧ middle < 64 ∧ frames = words ++ [Frame.punch high, Frame.punch middle]
  | .close => frames = words ++ [Frame.midBlockMarker]

structure After (start : Nat) (taken : List UInt8) (scan : Scan) : Prop where
  frames : ∃ frames, scan.Taken frames ∧ taken = List.replicate scan.leader Frame.blank ++ frames
  position : scan.stage = .leader ∨ scan.position = start + scan.leader

def Outcome (start : Nat) (taken : List UInt8) : Progress Scan Block → Prop
  | .more next => After start taken next
  | .done (.ok block) => block.Spelling taken ∧ block.position = start + block.leader
  | .done (.error error) => error.isCleanEnd = false

theorem Outcome.expect {start offset : Nat} {taken : List UInt8} {found expected : UInt8}
    {kind : TapeError.Kind} {go : Progress Scan Block} (faulty : (kind == .cleanEnd) = false)
    (same : found = expected → Outcome start taken go) :
    Outcome start taken (Scan.expect found expected kind offset go) := by
  unfold Scan.expect
  split
  · rename_i equal
    exact same (eq_of_beq equal)
  · exact faulty

theorem Outcome.frame {start offset : Nat} {taken : List UInt8} {channels byte : UInt8}
    {go : UInt8 → Progress Scan Block}
    (held : ∀ value ∈ Frame.value? channels byte, Outcome start taken (go value)) :
    Outcome start taken (Scan.frame channels byte offset go) := by
  unfold Scan.frame
  split
  · rename_i value same
    exact held value same
  · rfl

theorem After.start (start : Nat) : After start [] {} := ⟨⟨[], ⟨rfl, rfl⟩, rfl⟩, .inl rfl⟩

variable {start : Nat} {taken frames : List UInt8} {leader position : Nat} {reversed : List UInt16}

theorem After.step_leader (byte : UInt8) (after : After start taken ⟨.leader, leader, position, reversed⟩) :
    Outcome start (taken ++ [byte]) (step ⟨.leader, leader, position, reversed⟩ (start + taken.length) byte) := by
  obtain ⟨⟨frames, ⟨rfl, fresh⟩, rfl⟩, -⟩ := after
  obtain rfl : reversed = [] := fresh
  simp only [step, List.append_nil, List.length_replicate]
  split
  · rename_i blank
    rw [eq_of_beq blank]
    exact ⟨⟨[], ⟨rfl, rfl⟩, by simp [List.replicate_succ']⟩, .inl rfl⟩
  · split
    · rename_i marker
      rw [eq_of_beq marker]
      exact ⟨⟨_, rfl, rfl⟩, .inr rfl⟩
    · split
      · rename_i marker
        rw [Bool.or_eq_true, beq_iff_eq, beq_iff_eq] at marker
        rcases marker with rfl | rfl
        · exact ⟨⟨_, .inl rfl, rfl⟩, .inr rfl⟩
        · exact ⟨⟨_, .inr rfl, rfl⟩, .inr rfl⟩
      · rfl

theorem After.step_endOfTape (stage : Stage) (byte : UInt8)
    (mark : stage = .endOfTapeMiddle ∨ stage = .endOfTapeClose)
    (after : After start taken ⟨stage, leader, position, reversed⟩) :
    Outcome start (taken ++ [byte]) (step ⟨stage, leader, position, reversed⟩ (start + taken.length) byte) := by
  obtain ⟨⟨frames, read, rfl⟩, placed⟩ := after
  rcases mark with rfl | rfl
  · apply Outcome.expect rfl
    rintro rfl
    refine ⟨⟨_, ?_, List.append_assoc _ _ _⟩, .inr (placed.resolve_left (by simp))⟩
    rcases read with rfl | rfl
    · exact .inl rfl
    · exact .inr rfl
  · apply Outcome.expect rfl
    rintro rfl
    refine ⟨?_, placed.resolve_left (by simp)⟩
    rw [List.append_assoc]
    rcases read with rfl | rfl
    · exact .punched fun _ => rfl
    · exact .alternate rfl rfl

theorem After.step_wordBoundary (byte : UInt8)
    (after : After start taken ⟨.wordBoundary, leader, position, reversed⟩) :
    Outcome start (taken ++ [byte])
      (step ⟨.wordBoundary, leader, position, reversed⟩ (start + taken.length) byte) := by
  obtain ⟨⟨frames, rfl, rfl⟩, placed⟩ := after
  simp only [step]
  split
  · rename_i marker
    rw [eq_of_beq marker]
    exact ⟨⟨_, rfl, List.append_assoc _ _ _⟩, .inr (placed.resolve_left (by simp))⟩
  · apply Outcome.frame
    intro high held
    obtain ⟨small, punched⟩ := Frame.faithful_leading _ _ held
    rw [← punched]
    exact ⟨⟨_, ⟨small, rfl⟩, List.append_assoc _ _ _⟩, .inr (placed.resolve_left (by simp))⟩

theorem After.step_secondFrame (high byte : UInt8)
    (after : After start taken ⟨.secondFrame high, leader, position, reversed⟩) :
    Outcome start (taken ++ [byte])
      (step ⟨.secondFrame high, leader, position, reversed⟩ (start + taken.length) byte) := by
  obtain ⟨⟨frames, ⟨small, rfl⟩, rfl⟩, placed⟩ := after
  simp only [step]
  split
  · rfl
  · apply Outcome.frame
    intro middle held
    obtain ⟨small', punched⟩ := Frame.faithful_following _ _ held
    rw [← punched]
    refine ⟨⟨_, ⟨small, small', rfl⟩, ?_⟩, .inr (placed.resolve_left (by simp))⟩
    simp

theorem After.step_thirdFrame (high middle byte : UInt8)
    (after : After start taken ⟨.thirdFrame high middle, leader, position, reversed⟩) :
    Outcome start (taken ++ [byte])
      (step ⟨.thirdFrame high middle, leader, position, reversed⟩ (start + taken.length) byte) := by
  obtain ⟨⟨frames, ⟨small, small', rfl⟩, rfl⟩, placed⟩ := after
  simp only [step]
  split
  · rfl
  · apply Outcome.frame
    intro low held
    obtain ⟨small'', punched⟩ := Frame.faithful_following _ _ held
    refine ⟨⟨_, rfl, ?_⟩, .inr (placed.resolve_left (by simp))⟩
    simp [Word.frames_join _ _ _ small small' small'', punched]

theorem Outcome.finished (scan : Scan) (placed : scan.position = start + scan.leader) :
    Outcome start
      (List.replicate scan.leader Frame.blank ++
        (Frame.startMarker :: scan.reversed.reverse.flatMap Word.frames ++
          [Frame.midBlockMarker, Frame.terminator]))
      (.done scan.finished) := by
  obtain ⟨stage, leader, position, reversed⟩ := scan
  simp only [Scan.finished]
  -- Without any words there is no checksum word to drop, and nothing to be checked.
  split
  · rename_i zero
    refine ⟨?_, placed⟩
    cases reversed with
    | nil => exact .bare rfl rfl
    | cons last front =>
      rw [List.reverse_cons] at zero
      obtain rfl : last = Word.checksum front.reverse := Word.eq_checksum _ _ (eq_of_beq zero)
      rw [List.reverse_cons]
      exact .punched fun mark => absurd mark Bool.false_ne_true
  · rfl

theorem After.step_close (byte : UInt8) (after : After start taken ⟨.close, leader, position, reversed⟩) :
    Outcome start (taken ++ [byte])
      (step ⟨.close, leader, position, reversed⟩ (start + taken.length) byte) := by
  obtain ⟨⟨frames, rfl, rfl⟩, placed⟩ := after
  apply Outcome.expect rfl
  rintro rfl
  have ends := Outcome.finished ⟨.close, leader, position, reversed⟩ (placed.resolve_left (by simp))
  simpa using ends

theorem After.step {scan : Scan} (after : After start taken scan) (byte : UInt8) :
    Outcome start (taken ++ [byte]) (scan.step (start + taken.length) byte) := by
  obtain ⟨stage, leader, position, reversed⟩ := scan
  cases stage with
  | leader => exact after.step_leader byte
  | endOfTapeMiddle => exact after.step_endOfTape _ byte (.inl rfl)
  | endOfTapeClose => exact after.step_endOfTape _ byte (.inr rfl)
  | wordBoundary => exact after.step_wordBoundary byte
  | secondFrame high => exact after.step_secondFrame high byte
  | thirdFrame high middle => exact after.step_thirdFrame high middle byte
  | close => exact after.step_close byte

end Scan

def Signal.values (signals : List Signal) : List UInt8 :=
  signals.filterMap fun signal =>
    match signal with
    | .byte value => some value
    | _ => none

theorem Signal.values_bytes (bytes : List UInt8) : values (bytes.map .byte) = bytes := by
  rw [values, List.filterMap_map]
  exact List.filterMap_some

namespace Block

open Reader Scan

def Run (start : Nat) (taken : List UInt8) (signals : List Signal) : EStateM.Result TapeError Reader Block → Prop
  | .ok block left =>
    ∃ read, signals = read ++ left.signals ∧ block.Spelling (taken ++ Signal.values read) ∧
      block.position = start + block.leader ∧ left.offset = start + (taken ++ Signal.values read).length
  | .error error _ =>
    error.isCleanEnd = true → ∃ count, taken ++ Signal.values signals = List.replicate count Frame.blank

theorem Run.byte {start : Nat} {taken : List UInt8} {value : UInt8} {signals : List Signal}
    {result : EStateM.Result TapeError Reader Block} (run : Run start (taken ++ [value]) signals result) :
    Run start taken (.byte value :: signals) result := by
  cases result with
  | ok block left =>
    obtain ⟨read, rfl, spelled⟩ := run
    rw [List.append_assoc] at spelled
    exact ⟨.byte value :: read, rfl, spelled⟩
  | error error left =>
    intro clean
    obtain ⟨count, blanks⟩ := run clean
    rw [List.append_assoc] at blanks
    exact ⟨count, blanks⟩

theorem Run.interrupted {start : Nat} {taken : List UInt8} {signals : List Signal}
    {result : EStateM.Result TapeError Reader Block} (run : Run start taken signals result) :
    Run start taken (.interrupted :: signals) result := by
  cases result with
  | ok block left =>
    obtain ⟨read, rfl, spelled⟩ := run
    exact ⟨.interrupted :: read, rfl, spelled⟩
  | error error left => exact run

theorem Run.atEnd {start : Nat} {taken : List UInt8} {scan : Scan} (after : After start taken scan)
    (offset : Nat) (left : Reader) : Run start taken [] (.error (scan.atEnd offset) left) := by
  intro clean
  obtain ⟨⟨frames, read, rfl⟩, -⟩ := after
  obtain ⟨stage, leader, position, reversed⟩ := scan
  cases stage with
  | leader => exact ⟨leader, by simp [read.1, Signal.values]⟩
  | _ => cases clean

theorem Run.answer {start : Nat} {taken : List UInt8} {result : Except TapeError Block}
    (outcome : Outcome start taken (.done result)) (signals : List Signal) :
    Run start taken signals (Reader.answer result ⟨signals, start + taken.length⟩) := by
  cases result with
  | ok block => exact ⟨[], rfl, by simpa [Signal.values] using outcome.1, outcome.2, by simp [Signal.values]⟩
  | error error => exact fun clean => absurd clean (Bool.eq_false_iff.mp outcome)

theorem feed_run (signals : List Signal) {scan : Scan} {start : Nat} {taken : List UInt8}
    (after : After start taken scan) :
    Run start taken signals (feed machine scan signals (start + taken.length)) := by
  induction signals generalizing scan taken with
  | nil => exact Run.atEnd after _ _
  | cons signal signals ih =>
    cases signal with
    | interrupted => exact (ih after).interrupted
    | failure cause => exact fun clean => nomatch clean
    | byte value =>
      apply Run.byte
      have outcome := after.step value
      have further : start + taken.length + 1 = start + (taken ++ [value]).length := by
        rw [List.length_append, List.length_singleton, Nat.add_assoc]
      cases next : scan.step (start + taken.length) value with
      | more next' =>
        rw [next] at outcome
        rw [feed_more next, further]
        exact ih outcome
      | done result =>
        rw [next] at outcome
        rw [feed_done next, further]
        exact Run.answer outcome signals

theorem decode_run (reader : Reader) : Run reader.offset [] reader.signals (decode reader) :=
  feed_run reader.signals (After.start reader.offset)

/-- A block is decoded from one of its punched forms only. -/
theorem decode_spelling {reader left : Reader} {block : Block} (decoded : decode reader = .ok block left) :
    ∃ read, reader.signals = read ++ left.signals ∧ block.Spelling (Signal.values read) ∧
      block.position = reader.offset + block.leader ∧ left.offset = reader.offset + (Signal.values read).length := by
  have run := decode_run reader
  rwa [decoded] at run

theorem decode_spelling_bytes {tape : List UInt8} {start : Nat} {left : Reader} {block : Block}
    (decoded : decode ⟨tape.map .byte, start⟩ = .ok block left) :
    ∃ bytes rest, tape = bytes ++ rest ∧ left = ⟨rest.map .byte, start + bytes.length⟩ ∧ block.Spelling bytes ∧
      block.position = start + block.leader := by
  obtain ⟨read, same, spelled, position, offset⟩ := decode_spelling decoded
  obtain ⟨bytes, rest, rfl, rfl, behind⟩ := List.map_eq_append_iff.mp same
  rw [Signal.values_bytes] at spelled offset
  refine ⟨bytes, rest, rfl, ?_, spelled, position⟩
  rw [behind, ← offset]

theorem decode_spelled {block : Block} {bytes : List UInt8} (spelled : block.Spelling bytes) (rest : List Signal)
    {start : Nat} (position : block.position = start + block.leader) :
    decode ⟨bytes.map .byte ++ rest, start⟩ = .ok block ⟨rest, start + bytes.length⟩ := by
  obtain ⟨leader, words, endOfTape, _⟩ := block
  obtain rfl : _ = start + leader := position
  cases spelled with
  | punched wellFormed => exact decode_bytes _ wellFormed rest start
  | alternate marked empty =>
    obtain ⟨rfl, rfl⟩ : endOfTape = true ∧ words = [] := ⟨marked, empty⟩
    rw [decode_leader, List.length_append, List.length_replicate]
    rfl
  | bare unmarked empty =>
    obtain ⟨rfl, rfl⟩ : endOfTape = false ∧ words = [] := ⟨unmarked, empty⟩
    rw [decode_leader, List.length_append, List.length_replicate]
    rfl

theorem decode_cleanEnd {reader left : Reader} {error : TapeError} (decoded : decode reader = .error error left)
    (clean : error.isCleanEnd = true) :
    ∃ count, Signal.values reader.signals = List.replicate count Frame.blank := by
  have run := decode_run reader
  rw [decoded] at run
  exact run clean

end Block

end PaperTape
