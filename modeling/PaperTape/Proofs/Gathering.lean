import PaperTape.Assembly.Command
import Mathlib.Data.List.Forall2

namespace PaperTape

theorem ObjectFile.readPath_closed {files : FileSystem} {path : String} {cause : SystemError}
    (closed : files.openEntry path = .error cause) : (readPath files path).1 = .error (.couldNotOpen cause.text) := by
  simp only [readPath, closed]

theorem ObjectFile.readPath_faulty {files : FileSystem} {path : String} {entry : FileSystem.Entry} {error : TapeError}
    {kept : ObjectFile} (opened : files.openEntry path = .ok entry)
    (faulty : read entry.reader (named path) = .error error kept) : (readPath files path).1 = .error error := by
  simp only [read] at faulty
  simp only [readPath, opened]
  split at faulty
  · cases faulty
  · rename_i failure
    cases faulty
    simp only [failure]

theorem ObjectFile.readPath_error {files : FileSystem} {path : String} {error : TapeError}
    (failed : (readPath files path).1 = .error error) :
    (∃ cause, files.openEntry path = .error cause) ∨
      ∃ entry kept, files.openEntry path = .ok entry ∧ read entry.reader (named path) = .error error kept := by
  cases opened : files.openEntry path with
  | error cause => exact .inl ⟨cause, rfl⟩
  | ok entry =>
    simp only [readPath, opened] at failed
    cases failure : (Reading.ofReader entry.reader).failure with
    | none =>
      rw [failure] at failed
      cases failed
    | some found =>
      rw [failure] at failed
      cases failed
      have stopped : read entry.reader (named path) =
          .error error { named path with blocks := [] ++ (Reading.ofReader entry.reader).blocks } := by
        simp only [read, failure]
        rfl
      exact .inr ⟨entry, _, rfl, stopped⟩

namespace Assembly

inductive Configured (files : FileSystem) : Option String → Policy → Prop
  | default : Configured files none {}
  | parsed {path text : String} {policy : Policy} : readText files path = .ok text → Policy.parse text = .ok policy →
      Configured files (some path) policy

theorem loadPolicy_ok {files : FileSystem} {config : Option String} {policy : Policy} :
    loadPolicy files config = .ok policy ↔ Configured files config policy := by
  constructor
  · intro loaded
    cases config with
    | none =>
      cases loaded
      exact .default
    | some path =>
      simp only [loadPolicy] at loaded
      split at loaded
      · cases loaded
      · rename_i text held
        split at loaded
        · rename_i chosen accepted
          cases loaded
          exact .parsed held accepted
        · cases loaded
  · intro configured
    cases configured with
    | default => rfl
    | parsed held accepted => simp only [loadPolicy, held, accepted]

theorem Configured.unique {files : FileSystem} {config : Option String} {policy other : Policy}
    (one : Configured files config policy) (two : Configured files config other) : policy = other :=
  Except.ok.inj ((loadPolicy_ok.mpr one).symm.trans (loadPolicy_ok.mpr two))

theorem loadPolicy_error {files : FileSystem} {config : Option String} {failure : Failure}
    (refused : loadPolicy files config = .error failure) :
    ∃ path, config = some path ∧
      ((∃ cause, readText files path = .error cause) ∨
        ∃ text problem, readText files path = .ok text ∧ Policy.parse text = .error problem) := by
  cases config with
  | none => cases refused
  | some path =>
    refine ⟨path, rfl, ?_⟩
    simp only [loadPolicy] at refused
    split at refused
    · rename_i cause unreadable
      exact .inl ⟨cause, unreadable⟩
    · rename_i text held
      split at refused
      · cases refused
      · rename_i problem rejected
        exact .inr ⟨text, problem, held, rejected⟩

def Hold (files : FileSystem) : List String → List ObjectFile → Prop :=
  List.Forall₂ fun path object => (ObjectFile.readPath files path).1 = .ok object

theorem Hold.filled {files : FileSystem} {paths : List String} {objects : List ObjectFile}
    (held : Hold files paths objects) (filled : paths ≠ []) : objects ≠ [] := by
  cases held with
  | nil => exact absurd rfl filled
  | cons _ _ => exact List.cons_ne_nil _ _

theorem Hold.unique {files : FileSystem} {paths : List String} {objects others : List ObjectFile}
    (one : Hold files paths objects) (two : Hold files paths others) : objects = others := by
  refine List.right_unique_forall₂' (fun path object other first second => ?_) one two
  exact Except.ok.inj (first.symm.trans second)

theorem Hold.read {files : FileSystem} {paths : List String} {objects : List ObjectFile}
    (held : Hold files paths objects) {path : String} (member : path ∈ paths) :
    ∃ object, (ObjectFile.readPath files path).1 = .ok object := by
  induction held with
  | nil => cases member
  | cons found _ ih =>
    cases member with
    | head => exact ⟨_, found⟩
    | tail _ member => exact ih member

def FirstFault (files : FileSystem) (paths : List String) (path : String) (error : TapeError) : Prop :=
  ∃ front back, paths = front ++ path :: back ∧
    (∀ earlier ∈ front, ∃ object, (ObjectFile.readPath files earlier).1 = .ok object) ∧
      (ObjectFile.readPath files path).1 = .error error

theorem report_eq (events : List Event) (log : Array Event) :
    Run.report events log = .ok () (log ++ events.toArray) := rfl

theorem ofExcept_ok {α : Type} (value : α) (log : Array Event) :
    (MonadExcept.ofExcept (.ok value : Except Failure α) : Run α) log = .ok value log := rfl

theorem readFiles_ends (files : FileSystem) (paths : List String) (log : Array Event) :
    match readFiles files paths log with
    | .ok objects _ => Hold files paths objects
    | .error failure _ =>
      ∃ path error, FirstFault files paths path error ∧ failure = [s!"error: {path}: {error.text}"] := by
  induction paths generalizing log with
  | nil => exact .nil
  | cons path paths ih =>
    cases found : (ObjectFile.readPath files path).1 with
    | error error =>
      simp only [readFiles, found, Run.report]
      exact ⟨path, error, ⟨[], paths, rfl, nofun, found⟩, rfl⟩
    | ok object =>
      have rest := ih (log ++ (ObjectFile.readPath files path).2.toArray)
      simp only [readFiles, found, Bind.bind, EStateM.bind, report_eq]
      revert rest
      cases readFiles files paths (log ++ (ObjectFile.readPath files path).2.toArray) with
      | ok objects _ =>
        intro rest
        exact .cons found rest
      | error failure _ =>
        rintro ⟨faulty, error, ⟨front, back, rfl, earlier, failed⟩, rfl⟩
        refine ⟨faulty, error, ⟨path :: front, back, rfl, ?_, failed⟩, rfl⟩
        exact List.forall_mem_cons.mpr ⟨⟨object, found⟩, earlier⟩

inductive Opens (files : FileSystem) (sink : Sink) : Option String → Target → Prop
  | printed : Opens files sink none ⟨none, sink.emptied⟩
  | created {path : String} {place : FileSystem.Place} : files.create path = .ok place →
      Opens files sink (some path) ⟨some place, files.sinkAt place sink⟩

theorem Opens.unique {files : FileSystem} {sink : Sink} {output : Option String} {target other : Target}
    (one : Opens files sink output target) (two : Opens files sink output other) : target = other := by
  cases one with
  | printed =>
    cases two with
    | printed => rfl
  | created first =>
    cases two with
    | created second =>
      rw [first] at second
      cases second
      rfl

theorem openTarget_ends (files : FileSystem) (sink : Sink) (output : Option String) (log : Array Event) :
    match openTarget files sink output log with
    | .ok target _ => Opens files sink output target
    | .error _ _ => ∃ path cause, output = some path ∧ files.create path = .error cause := by
  cases output with
  | none => exact .printed
  | some path =>
    cases made : files.create path with
    | ok opened =>
      simp only [openTarget, made]
      exact .created made
    | error cause =>
      simp only [openTarget, made]
      exact ⟨path, cause, rfl, made⟩

structure Gathered (files : FileSystem) (arguments : Arguments) (sink : Sink) (library : Library) (target : Target) :
    Prop where
  filled : arguments.files ≠ []
  configured : Configured files arguments.config library.policy
  held : Hold files arguments.files library.files
  opened : Opens files sink arguments.output target

inductive Stops (files : FileSystem) (arguments : Arguments) : Failure → Prop
  | noInput {failure : Failure} : arguments.files = [] → Stops files arguments failure
  | config {failure : Failure} : loadPolicy files arguments.config = .error failure → Stops files arguments failure
  | input {path : String} {error : TapeError} : FirstFault files arguments.files path error →
      Stops files arguments [s!"error: {path}: {error.text}"]
  | output {objects : List ObjectFile} {path : String} {cause : SystemError} {failure : Failure} :
      Hold files arguments.files objects → arguments.output = some path → files.create path = .error cause →
      Stops files arguments failure

theorem gather_ends (files : FileSystem) (arguments : Arguments) (sink : Sink) (log : Array Event) :
    match gather files arguments sink log with
    | .ok (library, target) _ => Gathered files arguments sink library target
    | .error failure _ => Stops files arguments failure := by
  unfold gather
  by_cases filled : arguments.files = []
  · simp only [filled, List.isEmpty_nil, if_true, Bind.bind, EStateM.bind]
    exact .noInput filled
  · have nonempty : arguments.files.isEmpty = false := List.isEmpty_eq_false_iff.mpr filled
    simp only [nonempty, Bool.false_eq_true, if_false, Bind.bind, EStateM.bind]
    cases loaded : loadPolicy files arguments.config with
    | error failure => exact .config loaded
    | ok policy =>
      have configured := loadPolicy_ok.mp loaded
      simp only [ofExcept_ok, report_eq]
      -- What has been logged makes no difference to the steps that follow.
      generalize log ++ #[Event.policyChosen policy.long policy.short] = log
      have read := readFiles_ends files arguments.files log
      revert read
      cases readFiles files arguments.files log with
      | error failure _ =>
        rintro ⟨path, error, first, rfl⟩
        exact .input first
      | ok objects log =>
        intro held
        simp only
        generalize log ++ #[Event.assemblingLibrary (arguments.output.getD "<stdout>") objects.length] = log
        have opened := openTarget_ends files sink arguments.output log
        revert opened
        cases openTarget files sink arguments.output log with
        | error failure _ =>
          rintro ⟨path, cause, named, refused⟩
          exact .output held named refused
        | ok target _ =>
          intro opened
          exact ⟨filled, configured, held, opened⟩

theorem Stops.input_faulty {files : FileSystem} {arguments : Arguments} {failure : Failure} {policy : Policy}
    {faulty : String} {error : TapeError} (stops : Stops files arguments failure)
    (configured : Configured files arguments.config policy) (member : faulty ∈ arguments.files)
    (failed : (ObjectFile.readPath files faulty).1 = .error error) :
    ∃ path error, FirstFault files arguments.files path error ∧ failure = [s!"error: {path}: {error.text}"] := by
  cases stops with
  | noInput none =>
    rw [none] at member
    cases member
  | config refused =>
    rw [loadPolicy_ok.mpr configured] at refused
    cases refused
  | input first => exact ⟨_, _, first, rfl⟩
  | output held =>
    obtain ⟨object, read⟩ := held.read member
    rw [failed] at read
    cases read

/-- A reason to fail before the output is opened. -/
inductive FailsEarly (files : FileSystem) (arguments : Arguments) : Prop
  | noInput : arguments.files = [] → FailsEarly files arguments
  | unreadableConfig {path cause : String} : arguments.config = some path → readText files path = .error cause →
      FailsEarly files arguments
  | rejectedConfig {path text : String} {problem : Policy.Problem} : arguments.config = some path →
      readText files path = .ok text → Policy.parse text = .error problem → FailsEarly files arguments
  | closedInput {path : String} {cause : SystemError} : path ∈ arguments.files →
      files.openEntry path = .error cause → FailsEarly files arguments
  | faultyInput {path : String} {entry : FileSystem.Entry} {error : TapeError} {kept : ObjectFile} :
      path ∈ arguments.files → files.openEntry path = .ok entry →
      ObjectFile.read entry.reader (.named path) = .error error kept → FailsEarly files arguments
  | closedOutput {path : String} {cause : SystemError} : arguments.output = some path →
      files.create path = .error cause → FailsEarly files arguments

theorem Gathered.not_failsEarly {files : FileSystem} {arguments : Arguments} {sink : Sink} {library : Library}
    {target : Target} (gathered : Gathered files arguments sink library target) : ¬ FailsEarly files arguments := by
  intro fails
  have configured := gathered.configured
  have opened := gathered.opened
  cases fails with
  | noInput none => exact gathered.filled none
  | unreadableConfig named unreadable =>
    rw [named] at configured
    cases configured with
    | parsed held _ =>
      rw [unreadable] at held
      cases held
  | rejectedConfig named held rejected =>
    rw [named] at configured
    cases configured with
    | parsed again accepted =>
      rw [held] at again
      cases again
      rw [rejected] at accepted
      cases accepted
  | closedInput member closed =>
    obtain ⟨object, read⟩ := gathered.held.read member
    rw [ObjectFile.readPath_closed closed] at read
    cases read
  | faultyInput member opened faulty =>
    obtain ⟨object, read⟩ := gathered.held.read member
    rw [ObjectFile.readPath_faulty opened faulty] at read
    cases read
  | closedOutput named closed =>
    rw [named] at opened
    cases opened with
    | created created =>
      rw [closed] at created
      cases created

theorem Stops.failsEarly {files : FileSystem} {arguments : Arguments} {failure : Failure}
    (stops : Stops files arguments failure) : FailsEarly files arguments := by
  cases stops with
  | noInput none => exact .noInput none
  | config refused =>
    obtain ⟨path, named, ⟨cause, unreadable⟩ | ⟨text, problem, held, rejected⟩⟩ := loadPolicy_error refused
    · exact .unreadableConfig named unreadable
    · exact .rejectedConfig named held rejected
  | @input path error first =>
    obtain ⟨front, back, same, -, failed⟩ := first
    have member : path ∈ arguments.files := by simp [same]
    rcases ObjectFile.readPath_error failed with ⟨cause, closed⟩ | ⟨entry, kept, opened, faulty⟩
    · exact .closedInput member closed
    · exact .faultyInput member opened faulty
  | output _ named refused => exact .closedOutput named refused

end Assembly

end PaperTape
