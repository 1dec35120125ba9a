import PaperTape.Proofs.Buffering
import PaperTape.Proofs.Gathering
import PaperTape.Proofs.Places

namespace PaperTape

theorem Verbosity.filter_lines (verbosity : Verbosity) (events : List Event) :
    (verbosity.lines events).filter (fun line => "error: ".toList <+: line.toList) = [] := by
  rw [List.filter_eq_nil_iff]
  intro line member
  obtain ⟨event, -, rfl⟩ := List.mem_map.mp member
  rw [decide_eq_true_iff]
  rintro ⟨rest, same⟩
  -- The names of levels are in capitals, and messages of failures are not.
  have text : event.line.toList = event.level.text.toList ++ (" " ++ event.text).toList := by
    rw [← String.toList_append, ← String.append_assoc]
    rfl
  rw [text] at same
  have first := congrArg List.head? same
  cases level : event.level <;> rw [level] at first <;> cases first

namespace Assembly

section

variable {σ : Type} [Output σ] {library : Library} {output : σ} {settle : Buffered σ → List UInt8 × FileSystem}
  {log : List Event → List String} {events : List Event}

theorem finish_fails (fails : (library.assemble (Buffered.mk #[] output)).result ≠ .ok ()) :
    (finish library output settle log events).exit = 1 := by
  unfold finish
  cases ended : (library.assemble (Buffered.mk #[] output)).result with
  | ok _ => exact absurd ended fails
  | error error => simp only [ended]

theorem finish_untaken {tape : List UInt8} (assembles : library.Assembles tape)
    (refuses : ∀ after, ¬ Output.Takes output tape after) : (finish library output settle log events).exit = 1 := by
  refine finish_fails fun done => ?_
  have taken := Library.takes_assemble assembles done
  exact refuses _ taken

theorem finish_watched {settle : Buffered (Watched σ) → List UInt8 × FileSystem} {tape : List UInt8}
    (assembles : library.Assembles tape)
    (refused : (library.assemble (Buffered.mk #[] (Watched.mk output false))).writer.output.output.refused = true) :
    (finish library (Watched.mk output false) settle log events).exit = 1 := by
  refine finish_fails fun done => ?_
  have willing := Watched.refused_takes (Library.takes_assemble assembles done)
  rw [refused] at willing
  cases willing

variable (settle log events) in
theorem finish_succeeds (done : (library.assemble (Buffered.mk #[] output)).result = .ok ()) :
    let left := (library.assemble (Buffered.mk #[] output)).writer.output
    (finish library output settle log events).exit = 0 ∧
      (finish library output settle log events).output = (settle left).1 ∧
      (finish library output settle log events).files = (settle left).2 := by
  have finished : finish library output settle log events =
      ⟨0, (settle (library.assemble (Buffered.mk #[] output)).writer.output).1,
        log (events ++ (library.assemble (Buffered.mk #[] output)).writer.journal.toList),
        (settle (library.assemble (Buffered.mk #[] output)).writer.output).2⟩ := by
    simp only [finish, done]
  rw [finished]
  exact ⟨rfl, rfl, rfl⟩

end

theorem assemble_ends (files : FileSystem) (arguments : Arguments) (verbosity : Verbosity) (sink : Sink) :
    (∃ library target events, Gathered files arguments sink library target ∧
      assemble files arguments verbosity sink =
        finish library target.sink (target.settle files) verbosity.lines events) ∨
    ∃ events failure, Stops files arguments failure ∧
      assemble files arguments verbosity sink = ⟨1, [], verbosity.lines events ++ failure, files⟩ := by
  have gathered := gather_ends files arguments sink #[]
  simp only [assemble, EStateM.run]
  revert gathered
  cases gather files arguments sink #[] with
  | ok found events =>
    intro gathered
    exact .inl ⟨found.1, found.2, events.toList, gathered, rfl⟩
  | error failure events =>
    intro stops
    exact .inr ⟨events.toList, failure, stops, rfl⟩

theorem run_assemble (files : FileSystem) (level : Option String) (sink : Sink) {words : List String}
    {arguments : Arguments} (understood : Request.ofArguments {} words = .assemble arguments) :
    ∃ verbosity, run files level words sink = assemble files arguments verbosity sink := by
  simp only [run, understood]
  exact ⟨_, rfl⟩

/-- The output that a run opens does not take the tape of its inputs, in whatever pieces it comes. -/
def Refuses (files : FileSystem) (sink : Sink) (arguments : Arguments) : Prop :=
  ∃ target policy objects tape, Opens files sink arguments.output target ∧ Configured files arguments.config policy ∧
    Hold files arguments.files objects ∧ Library.Assembles ⟨policy, objects⟩ tape ∧
      ∀ after, ¬ Output.Takes target.sink tape after

/-- Where the tape goes: to the standard output without any file, or to the file that is named. -/
def Brings (files : FileSystem) (tape : List UInt8) : Option String → Outcome → Prop
  | none, outcome => outcome.output = tape ∧ outcome.files = files
  | some path, outcome => outcome.output = [] ∧ files.Written path tape outcome.files

theorem Opens.held {files : FileSystem} {sink : Sink} {output : Option String} {target : Target}
    (opened : Opens files sink output target) : target.sink.held = #[] := by
  cases opened with
  | printed => rfl
  | created _ =>
    simp only [FileSystem.sinkAt]
    split <;> rfl

theorem Opens.brings {files : FileSystem} {sink : Sink} {output : Option String} {target : Target} {tape : List UInt8}
    {left : Buffered Sink} {outcome : Outcome} (opened : Opens files sink output target) (filled : tape ≠ [])
    (taken : Output.Takes target.sink tape left.output)
    (settled : outcome.output = (target.settle files left).1 ∧ outcome.files = (target.settle files left).2) :
    Brings files tape output outcome := by
  have holds : left.output.held.toList = tape := by
    rw [Sink.held_takes taken, opened.held]
    rfl
  have fits := Sink.fits_of_takes filled taken
  obtain ⟨printed, kept⟩ := settled
  cases opened with
  | printed => exact ⟨printed.trans holds, kept⟩
  | @created path place created =>
    -- No tape fits on an entry that has no room.
    have roomy : files.find? place ≠ some .full := by
      intro full
      have none := fits.roomy
      simp only [FileSystem.sinkAt, full] at none
      have short := none 0 rfl
      exact filled (List.eq_nil_of_length_eq_zero (by omega))
    have written := FileSystem.written_store created roomy left.output
    rw [holds] at written
    refine ⟨printed, ?_⟩
    rw [kept]
    exact written

section

variable {files : FileSystem} {arguments : Arguments} {sink : Sink} {library : Library} {target : Target}
  {log : List Event → List String} {events : List Event}

theorem Gathered.assembles (gathered : Gathered files arguments sink library target) :
    library.Assembles library.tape :=
  library.assembles_tape (gathered.held.filled gathered.filled)

theorem Gathered.refuses_iff (gathered : Gathered files arguments sink library target) :
    Refuses files sink arguments ↔ ∀ after, ¬ Output.Takes target.sink library.tape after := by
  constructor
  · rintro ⟨other, policy, objects, tape, opened, configured, held, assembles, refused⟩
    obtain rfl := gathered.opened.unique opened
    obtain rfl := gathered.configured.unique configured
    obtain rfl := gathered.held.unique held
    rwa [gathered.assembles.unique assembles]
  · intro refused
    exact ⟨target, library.policy, library.files, library.tape, gathered.opened, gathered.configured, gathered.held,
      gathered.assembles, refused⟩

theorem Gathered.succeeds (gathered : Gathered files arguments sink library target)
    (fits : target.sink.Fits library.tape.length) :
    (finish library target.sink (target.settle files) log events).exit = 0 ∧
      Brings files library.tape arguments.output
        (finish library target.sink (target.settle files) log events) := by
  have assembles := gathered.assembles
  have ready : target.sink.Fits ((#[] : Array UInt8).size + library.tape.length) := by
    rw [show (#[] : Array UInt8).size = 0 from rfl, Nat.zero_add]
    exact fits
  have done : (library.assemble (Buffered.mk #[] target.sink)).result = .ok () :=
    Library.assemble_willing (Buffered.willing Sink.willing) assembles ready
  obtain ⟨exit, settled⟩ := finish_succeeds (target.settle files) log events done
  have taken := Library.takes_assemble assembles done
  exact ⟨exit, gathered.opened.brings assembles.nonempty taken settled⟩

end

/-- How a run ends, by what it finds: it fails before its output is opened, or the output refuses the tape of its inputs,
    or the tape is brought to the output. -/
theorem run_ends (files : FileSystem) (level : Option String) (sink : Sink) {words : List String}
    {arguments : Arguments} (understood : Request.ofArguments {} words = .assemble arguments) :
    (FailsEarly files arguments ∧ ∃ verbosity : Verbosity, ∃ events failure, Stops files arguments failure ∧
      run files level words sink = ⟨1, [], verbosity.lines events ++ failure, files⟩) ∨
    ¬ FailsEarly files arguments ∧ ∃ policy objects, Configured files arguments.config policy ∧
      Hold files arguments.files objects ∧ Library.Assembles ⟨policy, objects⟩ (Library.tape ⟨policy, objects⟩) ∧
        (Refuses files sink arguments ∧ (run files level words sink).exit = 1 ∨
          ¬ Refuses files sink arguments ∧ (run files level words sink).exit = 0 ∧
            Brings files (Library.tape ⟨policy, objects⟩) arguments.output (run files level words sink)) := by
  obtain ⟨verbosity, same⟩ := run_assemble files level sink understood
  have ends := assemble_ends files arguments verbosity sink
  rw [same]
  rcases ends with
    ⟨library, target, events, gathered, ended⟩ | ⟨events, failure, stops, ended⟩
  · refine .inr ⟨gathered.not_failsEarly, library.policy, library.files, gathered.configured, gathered.held,
      gathered.assembles, ?_⟩
    rw [ended]
    by_cases refused : Refuses files sink arguments
    · exact .inl ⟨refused, finish_untaken gathered.assembles (gathered.refuses_iff.mp refused)⟩
    · have takes : ∃ after, Output.Takes target.sink library.tape after := by
        rw [gathered.refuses_iff, not_forall_not] at refused
        exact refused
      have fits := (Sink.takes_iff_fits gathered.assembles.nonempty).mp takes
      exact .inr ⟨refused, gathered.succeeds fits⟩
  · exact .inl ⟨stops.failsEarly, verbosity, events, failure, stops, ended⟩

def settings : String := "[library]\nlong_leader = 2\nshort_leader = 1\n"

def shelf : FileSystem where
  working := ["tmp"]
  entries :=
    [(["tmp", "sin.tap"], .file [0x00, 0x81, 0x81, 0x80, 0x84, 0x81, 0x80, 0x84, 0x93, 0xFF]),
      (["tmp", "lib.toml"], .file settings.toUTF8.data.toList), (["dev"], .directory), (["dev", "full"], .full)]

def twice : List UInt8 :=
  [0x00, 0x00, 0x81, 0x81, 0x80, 0x84, 0x81, 0x80, 0x84, 0x93, 0xFF, 0x00, 0x81, 0x81, 0x80, 0x84, 0x81, 0x80, 0x84,
    0x93, 0xFF, 0x83, 0x93, 0xFF, 0x00, 0x00]

def overInput : List String := ["-c", "lib.toml", "-osin.tap", "sin.tap", "sin.tap"]

end Assembly

end PaperTape
