import PaperTape.Proofs.Offering
import PaperTape.Proofs.Nesting
import PaperTape.Proofs.Preparing

namespace PaperTape

open Output

theorem TapeError.couldNotWrite_ne_couldNotFlush (offset stop : Nat) (cause text : String) :
    couldNotWrite offset cause ≠ couldNotFlush stop text := by
  intro same
  have letter := congrArg (fun error : TapeError => error.message.toList[10]?) same
  simp [couldNotWrite, couldNotFlush, String.toList_append] at letter

theorem TapeError.couldNotWrite_inj {offset stop : Nat} {cause text : String}
    (same : couldNotWrite offset cause = couldNotWrite stop text) : offset = stop ∧ cause = text := by
  obtain ⟨-, place, message⟩ := TapeError.mk.inj same
  exact ⟨place, (String.append_right_inj _).mp message⟩

namespace Sink

theorem writeAll_flushFailure (failure : Option String) (bytes : List UInt8) (sink : Sink) :
    writeAll bytes { sink with flushFailure := failure } =
      match writeAll bytes sink with
      | .ok _ after => .ok () { after with flushFailure := failure }
      | .error cause after => .error cause { after with flushFailure := failure } := by
  fun_induction writeAll bytes sink with
  | case1 sink => rw [writeAll]
  | case2 sink byte rest again ih =>
    have same : interrupted { sink with flushFailure := failure } = true := again
    rw [writeAll, if_pos same]
    exact ih
  | case3 sink byte rest quiet cause refused =>
    have same : ¬ interrupted { sink with flushFailure := failure } = true := quiet
    have answer : accepts { sink with flushFailure := failure } (rest.length + 1) = .error cause := refused
    rw [writeAll, if_neg same, answer]
    rfl
  | case4 sink byte rest quiet none =>
    have same : ¬ interrupted { sink with flushFailure := failure } = true := quiet
    have answer : accepts { sink with flushFailure := failure } (rest.length + 1) = .ok 0 := none
    rw [writeAll, if_neg same, answer]
    rfl
  | case5 sink byte rest quiet count taken ih =>
    have same : ¬ interrupted { sink with flushFailure := failure } = true := quiet
    have answer : accepts { sink with flushFailure := failure } (rest.length + 1) = .ok (count + 1) := taken
    rw [writeAll, if_neg same, answer]
    exact ih

theorem offer_flushFailure (failure : Option String) {buffers : List (List UInt8)} {sink after : Sink}
    {offset stop : Nat} (taken : offer buffers (sink, offset) = .ok () (after, stop)) :
    offer buffers ({ sink with flushFailure := failure }, offset) =
      .ok () ({ after with flushFailure := failure }, stop) := by
  induction buffers generalizing sink offset with
  | nil =>
    cases taken
    rfl
  | cons buffer buffers ih =>
    obtain ⟨middle, wrote, taken⟩ := offer_cons_ok.mp taken
    have other : Output.writeAll buffer { sink with flushFailure := failure } = _ :=
      writeAll_flushFailure failure buffer sink
    rw [show writeAll buffer sink = .ok () middle from wrote] at other
    exact offer_cons_ok.mpr ⟨_, other, ih taken⟩

theorem flushFailure_offer {buffers : List (List UInt8)} {sink after : Sink} {offset stop : Nat}
    (taken : offer buffers (sink, offset) = .ok () (after, stop)) : after.flushFailure = sink.flushFailure := by
  have same : offer buffers (sink, offset) = _ := offer_flushFailure sink.flushFailure taken
  rw [taken] at same
  obtain ⟨-, unchanged⟩ := EStateM.Result.ok.inj same
  rw [(Prod.mk.inj unchanged).1]

theorem flush_ok {sink after : Sink} (flushed : flush sink = .ok () after) :
    after = sink ∧ sink.flushFailure = none := by
  unfold flush at flushed
  split at flushed
  · cases flushed
  · rename_i none
    cases flushed
    exact ⟨rfl, none⟩

theorem flush_error {sink after : Sink} {cause : String} (failed : flush sink = .error cause after) :
    after = sink ∧ sink.flushFailure = some cause := by
  unfold flush at failed
  split at failed
  · rename_i answered
    cases failed
    exact ⟨rfl, answered⟩
  · cases failed

/-- The sink took some buffers, failed at the one behind them, and is as that write left it. -/
def FailsAt (sink : Sink) (front : List (List UInt8)) (buffer : List UInt8) (cause : String) (after : Sink) : Prop :=
  ∃ middle stop, offer front (sink, 0) = .ok () (middle, stop) ∧ writeAll buffer middle = .error cause after

theorem FailsAt.held {sink after : Sink} {front : List (List UInt8)} {buffer : List UInt8} {cause : String}
    (fails : sink.FailsAt front buffer cause after) :
    ∃ taken, taken <+: buffer ∧ taken.length < buffer.length ∧
      after.held.toList = sink.held.toList ++ (front.flatten ++ taken) := by
  obtain ⟨middle, stop, offered, refused⟩ := fails
  exact held_refused offered refused

end Sink

namespace Library

section

variable {σ : Type} [Output σ]

theorem forM_cons_blaming (file : ObjectFile) (files : List ObjectFile) (writer : Writer σ) :
    ((file :: files).forM fun file => blaming file.name file.write) writer =
      match file.write writer with
      | .ok _ middle => (files.forM fun file => blaming file.name file.write) middle
      | .error cause after => .error (.tape file.name cause) after := by
  change (blaming file.name file.write >>= fun _ => files.forM fun file => blaming file.name file.write) writer = _
  simp only [Bind.bind, EStateM.bind, blaming]
  cases file.write writer <;> rfl

/-- Writing some files takes all of their buffers, or it fails at one buffer and blames the file of that. -/
theorem forM_blaming (files : List ObjectFile) (writer : Writer σ) :
    match (files.forM fun file => blaming file.name file.write) writer with
    | .ok _ after =>
      offer (files.flatMap ObjectFile.buffers) (writer.output, writer.offset) = .ok () (after.output, after.offset)
    | .error error after =>
      ∃ front file back middle cause, files = front ++ file :: back ∧
        offer (front.flatMap ObjectFile.buffers) (writer.output, writer.offset) = .ok () middle ∧
        offer file.buffers middle = .error cause (after.output, after.offset) ∧ error = .tape file.name cause := by
  induction files generalizing writer with
  | nil => rfl
  | cons file files ih =>
    have first := file.offers_write writer
    rw [forM_cons_blaming]
    cases wrote : file.write writer with
    | error cause after =>
      rw [wrote] at first
      exact ⟨[], file, files, _, cause, rfl, rfl, first.symm, rfl⟩
    | ok _ middle =>
      rw [wrote] at first
      have rest := ih middle
      simp only [List.flatMap_cons]
      revert rest
      cases (files.forM fun file => blaming file.name file.write) middle with
      | ok _ after =>
        intro rest
        exact (offer_append_ok first.symm).trans rest
      | error error after =>
        rintro ⟨front, blamed, back, last, cause, rfl, taken, failed, same⟩
        refine ⟨file :: front, blamed, back, last, cause, rfl, ?_, failed, same⟩
        exact (offer_append_ok first.symm).trans taken

/-- How assembling some prepared files onto an output ends: there are none, or all of their buffers are taken and
    flushed, or flushing them fails, or one buffer of one file fails and nothing else is written. -/
inductive Ends (files : List ObjectFile) (output : σ) : Except LibraryError Unit → σ → Prop
  | empty : files = [] → Ends files output (.error .noInput) output
  | complete {written after : σ} {length : Nat} :
      offer (files.flatMap ObjectFile.buffers) (output, 0) = .ok () (written, length) →
      flush written = .ok () after → Ends files output (.ok ()) after
  | unflushed {written after : σ} {length : Nat} {cause : String} :
      offer (files.flatMap ObjectFile.buffers) (output, 0) = .ok () (written, length) →
      flush written = .error cause after →
      Ends files output (.error (.tape "<output>" (.couldNotFlush length cause))) after
  | refused {front back : List ObjectFile} {file : ObjectFile} {before behind : List (List UInt8)}
      {buffer : List UInt8} {middle after : σ} {offset : Nat} {cause : String} :
      files = front ++ file :: back → file.buffers = before ++ buffer :: behind →
      offer (front.flatMap ObjectFile.buffers ++ before) (output, 0) = .ok () (middle, offset) →
      writeAll buffer middle = .error cause after →
      Ends files output (.error (.tape file.name (.couldNotWrite offset cause))) after

theorem write_ends (library : Library) (output : σ) :
    match library.write { output } with
    | .ok _ after => Ends library.files output (.ok ()) after.output
    | .error error after => Ends library.files output (.error error) after.output := by
  have files := forM_blaming library.files { output }
  simp only [write, Bind.bind, EStateM.bind]
  revert files
  cases (library.files.forM fun file => blaming file.name file.write) { output } with
  | ok _ written =>
    intro taken
    simp only [blaming, Writer.flush]
    cases flushed : flush written.output with
    | ok _ after => exact .complete taken flushed
    | error cause after =>
      exact .unflushed taken flushed
  | error error after =>
    rintro ⟨front, file, back, ⟨middle, offset⟩, cause, same, taken, failed, rfl⟩
    obtain ⟨before, buffer, behind, last, text, cut, offered, refused, rfl⟩ := offer_error failed
    exact .refused same cut ((offer_append_ok taken).trans offered) refused

theorem assemble_empty {library : Library} (none : library.files = []) (output : σ) :
    library.assemble output = ⟨library, { output }, .error .noInput⟩ := by
  simp only [assemble, prepare, none, List.isEmpty_nil, if_pos]

theorem assemble_ends (library : Library) (output : σ) :
    Ends (library.assemble output).library.files output (library.assemble output).result
      (library.assemble output).writer.output := by
  by_cases none : library.files = []
  · rw [assemble_empty none]
    exact .empty none
  · have prepared : library.prepare =
        .ok { library with files := prepareFiles library.policy library.policy.long library.files } := by
      rw [prepare, List.isEmpty_eq_false_iff.mpr none]
      rfl
    have ends := write_ends { library with files := prepareFiles library.policy library.policy.long library.files } output
    simp only [assemble, prepared]
    cases wrote : write { library with files := prepareFiles library.policy library.policy.long library.files }
        { output } with
    | ok _ after =>
      rw [wrote] at ends
      exact ends
    | error error after =>
      rw [wrote] at ends
      exact ends

end

theorem flatten_buffers (files : List ObjectFile) :
    (files.flatMap ObjectFile.buffers).flatten = files.flatMap ObjectFile.bytes :=
  flatten_flatMap files ObjectFile.flatten_buffers

theorem buffers_split {files front back : List ObjectFile} {file : ObjectFile} {before behind : List (List UInt8)}
    {buffer : List UInt8} (split : files = front ++ file :: back) (cut : file.buffers = before ++ buffer :: behind) :
    files.flatMap ObjectFile.buffers =
      (front.flatMap ObjectFile.buffers ++ before) ++ buffer :: (behind ++ back.flatMap ObjectFile.buffers) := by
  simp [split, cut]

theorem Ends.held_ok {files : List ObjectFile} {sink after : Sink} (ends : Ends files sink (.ok ()) after) :
    after.held.toList = sink.held.toList ++ files.flatMap ObjectFile.bytes := by
  cases ends with
  | complete taken flushed =>
    obtain ⟨rfl, -⟩ := Sink.flush_ok flushed
    rw [Sink.held_offer taken, flatten_buffers]

theorem Ends.held {files : List ObjectFile} {sink after : Sink} {result : Except LibraryError Unit}
    (ends : Ends files sink result after) :
    ∃ taken, taken <+: files.flatMap ObjectFile.bytes ∧ after.held.toList = sink.held.toList ++ taken := by
  cases ends with
  | empty => exact ⟨[], List.nil_prefix, (List.append_nil _).symm⟩
  | complete taken flushed => exact ⟨_, List.prefix_refl _, (Ends.complete taken flushed).held_ok⟩
  | unflushed taken unflushed =>
    obtain ⟨rfl, -⟩ := Sink.flush_error unflushed
    refine ⟨_, List.prefix_refl _, ?_⟩
    rw [Sink.held_offer taken, flatten_buffers]
  | refused split cut offered refused =>
    obtain ⟨taken, ⟨left, same⟩, -, held⟩ := Sink.FailsAt.held ⟨_, _, offered, refused⟩
    have tape := congrArg List.flatten (buffers_split split cut)
    rw [flatten_buffers, List.flatten_append, List.flatten_cons, ← same] at tape
    refine ⟨_, ?_, held⟩
    rw [tape, List.append_assoc taken, ← List.append_assoc]
    exact List.prefix_append _ _

theorem Ends.failsAt {files : List ObjectFile} {sink after : Sink} {name text : String} {offset : Nat}
    (ends : Ends files sink (.error (.tape name (.couldNotWrite offset text))) after) :
    ∃ front file back before buffer behind, files = front ++ file :: back ∧ file.name = name ∧
      file.buffers = before ++ buffer :: behind ∧
      offset = (front.flatMap ObjectFile.bytes).length + before.flatten.length ∧
      sink.FailsAt (front.flatMap ObjectFile.buffers ++ before) buffer text after := by
  generalize same : Except.error (LibraryError.tape name (.couldNotWrite offset text)) = result at ends
  cases ends with
  | empty => cases same
  | complete => cases same
  | unflushed =>
    obtain ⟨-, same⟩ := LibraryError.tape.inj (Except.error.inj same)
    exact absurd same (TapeError.couldNotWrite_ne_couldNotFlush _ _ _ _)
  | @refused front back file before behind buffer middle after stop cause split cut offered refused =>
    obtain ⟨rfl, alike⟩ := LibraryError.tape.inj (Except.error.inj same)
    obtain ⟨rfl, rfl⟩ := TapeError.couldNotWrite_inj alike
    refine ⟨front, file, back, before, buffer, behind, split, rfl, cut, ?_, middle, offset, offered, refused⟩
    rw [offset_offer offered, List.flatten_append, List.length_append, flatten_buffers, Nat.zero_add]

theorem assembles_bytes {σ : Type} [Output σ] (library : Library) (filled : library.files ≠ []) (output : σ) :
    library.Assembles (library.assemble output).library.bytes := by
  have same : (library.assemble output).library.bytes = library.tape := by
    obtain ⟨policy, files⟩ := library
    cases files with
    | nil => exact absurd rfl filled
    | cons first others =>
      rw [library_assemble]
      exact bytes_prepareFiles policy policy.long first others
  rw [same]
  exact library.assembles_tape filled

theorem assemble_unflushed {library : Library} {sink : Sink} {text : String} (failing : sink.flushFailure = some text)
    (otherwise : (library.assemble { sink with flushFailure := none }).result = .ok ()) :
    (library.assemble sink).result =
        .error (.tape "<output>" (.couldNotFlush (library.assemble sink).library.bytes.length text)) ∧
      (library.assemble sink).writer.output.held.toList =
        sink.held.toList ++ (library.assemble sink).library.bytes := by
  have filled : (library.perform .prepare).files.isEmpty = false := by
    rw [isEmpty_congr library.unframed_perform_prepare, List.isEmpty_eq_false_iff]
    intro none
    rw [assemble_empty none] at otherwise
    cases otherwise
  have flushing := library.assemble_ends { sink with flushFailure := none }
  have ended := library.assemble_ends sink
  rw [library_assemble] at flushing ended ⊢
  rw [otherwise] at flushing
  rw [Library.bytes, ← flatten_buffers]
  generalize (library.perform .prepare).files = files at *
  generalize (library.assemble sink).result = result at *
  generalize (library.assemble sink).writer.output = after at *
  cases flushing with
  | complete taken _ =>
    have whole := Sink.offer_flushFailure sink.flushFailure taken
    change offer (files.flatMap ObjectFile.buffers) (sink, 0) = _ at whole
    cases ended with
    | empty none =>
      rw [none] at filled
      cases filled
    | complete again flushed =>
      rw [again] at whole
      cases whole
      have answered := (Sink.flush_ok flushed).2
      rw [failing] at answered
      cases answered
    | unflushed again unflushed =>
      obtain ⟨rfl, answered⟩ := Sink.flush_error unflushed
      rw [Sink.flushFailure_offer again, failing] at answered
      cases answered
      rw [offset_offer again, Nat.zero_add]
      exact ⟨rfl, Sink.held_offer again⟩
    | refused split cut offered refused =>
      rw [buffers_split split cut, offer_refused offered refused] at whole
      cases whole

/-- A sink holds the tape up to the byte at which it fails: all of it if nothing but flushing fails, and else what
    was there after the write that failed, since nothing is written behind it. The files are prepared all the same. -/
theorem assemble_prefix (library : Library) (sink : Sink) :
    let ended := library.assemble sink
    let tape := ended.library.bytes
    let held := ended.writer.output.held.toList
    ended.library = library.perform .prepare ∧ (library.files ≠ [] → library.Assembles tape) ∧
      (library.files = [] → ended.result = .error .noInput ∧ ended.writer.output = sink) ∧
      (ended.result = .ok () → held = sink.held.toList ++ tape) ∧
      (∀ error, ended.result = .error error → ∃ taken, taken <+: tape ∧ held = sink.held.toList ++ taken) ∧
      (∀ file offset text, ended.result = .error (.tape file (.couldNotWrite offset text)) →
        ∃ front buffer back, ended.library.files.flatMap ObjectFile.buffers = front ++ buffer :: back ∧
          sink.FailsAt front buffer text ended.writer.output) ∧
      ∀ text, sink.flushFailure = some text → (library.assemble { sink with flushFailure := none }).result = .ok () →
        ended.result = .error (.tape "<output>" (.couldNotFlush tape.length text)) ∧
          held = sink.held.toList ++ tape := by
  intro ended tape held
  refine ⟨library.library_assemble sink, fun filled => library.assembles_bytes filled sink,
    fun none => ?_, ?_⟩
  · rw [show ended = _ from assemble_empty none sink]
    exact ⟨rfl, rfl⟩
  have ends : Ends ended.library.files sink ended.result ended.writer.output := library.assemble_ends sink
  refine ⟨fun done => ?_, fun error _ => ends.held, fun file offset text failed => ?_,
    fun text failing otherwise => assemble_unflushed failing otherwise⟩
  · rw [done] at ends
    exact ends.held_ok
  · rw [failed] at ends
    obtain ⟨front, blamed, back, before, buffer, behind, split, -, cut, -, fails⟩ := ends.failsAt
    exact ⟨_, _, _, buffers_split split cut, fails⟩

theorem assemble_prefix_unflushed :
    (parts.assemble { flushFailure := some "disk full" : Sink }).result =
        .error (.tape "<output>" (.couldNotFlush 32 "disk full")) ∧
      (parts.assemble { flushFailure := some "disk full" : Sink }).writer.output.held.toList =
        [] ++ (parts.assemble { flushFailure := some "disk full" : Sink }).library.bytes := by
  have otherwise : (parts.assemble ({} : Sink)).result = .ok () := by cbv
  obtain ⟨-, -, -, -, -, -, alone⟩ := assemble_prefix parts { flushFailure := some "disk full" }
  obtain ⟨failed, held⟩ := alone "disk full" rfl otherwise
  have length : (parts.assemble { flushFailure := some "disk full" : Sink }).library.bytes.length = 32 := by cbv
  rw [length] at failed
  exact ⟨failed, held⟩

theorem map_name_prepareFiles (policy : Policy) (leader : Nat) (files : List ObjectFile) :
    (prepareFiles policy leader files).map ObjectFile.name = files.map ObjectFile.name := by
  induction files generalizing leader with
  | nil => rfl
  | cons file files ih =>
    rw [prepareFiles, List.map_cons, List.map_cons, ih, ObjectFile.prepare_eq]

theorem map_name_assemble (library : Library) (output : Sink) :
    (library.assemble output).library.files.map ObjectFile.name = library.files.map ObjectFile.name := by
  rw [library_assemble, perform]
  split
  · rename_i prepared made
    unfold prepare at made
    split at made
    · cases made
    · cases made
      exact map_name_prepareFiles ..
  · rfl

def start (library : Library) (index : Nat) : Nat := ((library.files.take index).flatMap ObjectFile.bytes).length

theorem start_succ {library : Library} {index : Nat} {file : ObjectFile} (member : library.files[index]? = some file) :
    library.start (index + 1) = library.start index + file.bytes.length := by
  rw [start, start, List.take_add_one, member, List.flatMap_append, List.length_append]
  exact congrArg _ (congrArg List.length (List.flatMap_singleton _ _))

/-- A write that fails is blamed on the file whose bytes it was writing. Its offset is that of the buffer that failed,
    and the sink holds everything in front of the buffer but not all of the buffer. A flush that fails alone is blamed
    on the output, behind the whole tape. -/
theorem assemble_blames (library : Library) (sink : Sink) :
    let ended := library.assemble sink
    let tape := ended.library.bytes
    (library.files ≠ [] → library.Assembles tape) ∧
      (∀ name cause text, ended.result = .error (.tape name cause) → cause = .couldNotWrite cause.offset text →
        cause.kind = .stream ∧
          ∃ index file before buffer behind held,
            (library.files.map ObjectFile.name)[index]? = some name ∧ ended.library.files[index]? = some file ∧
              ended.writer.output.held.size = sink.held.size + held ∧
              ended.library.start index ≤ cause.offset ∧ cause.offset ≤ held ∧
              held < ended.library.start (index + 1) ∧ file.buffers = before ++ buffer :: behind ∧
              cause.offset = ended.library.start index + before.flatten.length ∧
              sink.FailsAt ((ended.library.files.take index).flatMap ObjectFile.buffers ++ before) buffer text
                ended.writer.output) ∧
      ∀ text, sink.flushFailure = some text → (library.assemble { sink with flushFailure := none }).result = .ok () →
        ended.result = .error (.tape "<output>" (.couldNotFlush tape.length text)) := by
  intro ended tape
  refine ⟨fun filled => library.assembles_bytes filled sink, fun name cause text failed written => ?_,
    fun text failing otherwise => (assemble_unflushed failing otherwise).1⟩
  have ends : Ends ended.library.files sink ended.result ended.writer.output := library.assemble_ends sink
  rw [written] at failed
  rw [failed] at ends
  obtain ⟨front, file, back, before, buffer, behind, split, named, cut, placed, fails⟩ := ends.failsAt
  obtain ⟨taken, -, shorter, holds⟩ := fails.held
  have earlier : ended.library.files.take front.length = front := by rw [split, List.take_left]
  have member : ended.library.files[front.length]? = some file := by simp [split]
  have begins : ended.library.start front.length = (front.flatMap ObjectFile.bytes).length := by rw [start, earlier]
  have size : file.bytes.length = before.flatten.length + (buffer.length + behind.flatten.length) := by
    rw [← file.flatten_buffers, cut, List.flatten_append, List.flatten_cons, List.length_append, List.length_append]
  have count : ended.writer.output.held.size = sink.held.size + (cause.offset + taken.length) := by
    rw [← Array.length_toList, ← Array.length_toList, holds, placed, List.flatten_append, flatten_buffers]
    simp only [List.length_append]
  refine ⟨congrArg TapeError.kind written, front.length, file, before, buffer, behind, cause.offset + taken.length,
    ?_, member, count, by omega, by omega, ?_, cut, by omega, ?_⟩
  · rw [← map_name_assemble library sink, List.getElem?_map, member, ← named]
    rfl
  · rw [start_succ member]
    omega
  · rwa [earlier]

def cramped : Sink := { limit := some 20, overflow := .short, largest := some 5, interruptions := (2 : Nat) }

theorem assemble_blames_cramped :
    (parts.assemble cramped).result = .error (.tape "cos.obj" (.couldNotWrite 18 "tape full")) ∧
      ∃ index file before buffer behind held,
        (parts.files.map ObjectFile.name)[index]? = some "cos.obj" ∧
          (parts.assemble cramped).library.files[index]? = some file ∧
          (parts.assemble cramped).writer.output.held.size = 0 + held ∧
          (parts.assemble cramped).library.start index ≤ 18 ∧ 18 ≤ held ∧
          held < (parts.assemble cramped).library.start (index + 1) ∧ file.buffers = before ++ buffer :: behind ∧
          18 = (parts.assemble cramped).library.start index + before.flatten.length ∧
          cramped.FailsAt (((parts.assemble cramped).library.files.take index).flatMap ObjectFile.buffers ++ before)
            buffer "tape full" (parts.assemble cramped).writer.output := by
  have failed : (parts.assemble cramped).result = .error (.tape "cos.obj" (.couldNotWrite 18 "tape full")) := by cbv
  exact ⟨failed, ((assemble_blames parts cramped).2.1 _ _ _ failed rfl).2⟩

end Library

end PaperTape
