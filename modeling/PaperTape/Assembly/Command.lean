import PaperTape.Assembly.Arguments
import PaperTape.Library
import PaperTape.Object.Path

namespace PaperTape.Assembly

structure Outcome where
  exit : Nat
  output : List UInt8
  errors : List String
  files : FileSystem

def version : String := "mklib 0.1.0\n"

def help : String := String.join [
  "Assembles multiple object tapes into a single library tape\n",
  "\n",
  "Usage: mklib [OPTIONS] [FILES]...\n",
  "\n",
  "Arguments:\n",
  "  [FILES]...  Object tapes to be put in the library, in the given order\n",
  "\n",
  "Options:\n",
  "  -o, --out <OUT>        Place the output into the given <OUT> file. ",
  "The standard output is used when this argument is not given\n",
  "  -c, --config <CONFIG>  TOML file with the leader lengths to be used. ",
  "See the documentation for more information on this format\n",
  "  -v, --verbose...       Be more verbose. Pass it twice to trace every block\n",
  "  -h, --help             Print help\n",
  "  -V, --version          Print version\n"]

abbrev Failure := List String

def failure (message : String) : Failure := ["Error: " ++ message]

def failureWithCause (message cause : String) : Failure :=
  ["Error: " ++ message, "", "Caused by:", "    " ++ cause]

def readText (files : FileSystem) (path : String) : Except String String :=
  match files.openEntry path with
  | .error cause => .error cause.text
  | .ok entry =>
    match entry.bytes with
    | .error cause => .error cause.text
    | .ok bytes =>
      match String.fromUTF8? (ByteArray.mk bytes.toArray) with
      | some text => .ok text
      | none => .error "stream did not contain valid UTF-8"

def loadPolicy (files : FileSystem) : Option String → Except Failure Policy
  | none => .ok {}
  | some path =>
    match readText files path with
    | .error cause => .error (failureWithCause s!"could not read configuration file '{path}'" cause)
    | .ok text =>
      match Policy.parse text with
      | .ok policy => .ok policy
      | .error problem => .error (failure s!"{path}: {problem.text}")

abbrev Run := EStateM Failure (Array Event)

def Run.report (events : List Event) : Run Unit := modify fun log => log ++ events.toArray

def readFiles (files : FileSystem) : List String → Run (List ObjectFile)
  | [] => pure []
  | path :: rest => do
    let (result, events) := ObjectFile.readPath files path
    Run.report events
    match result with
    | .ok file => return file :: (← readFiles files rest)
    | .error error =>
      Run.report [.unreadableFile path]
      throw [s!"error: {path}: {error.text}"]

structure Target where
  place : Option FileSystem.Place
  sink : Sink

def openTarget (files : FileSystem) (sink : Sink) : Option String → Run Target
  | none => pure ⟨none, sink.emptied⟩
  | some path =>
    match files.create path with
    | .ok place => pure ⟨some place, files.sinkAt place sink⟩
    | .error cause => throw (failureWithCause s!"could not create '{path}'" cause.text)

def gather (files : FileSystem) (arguments : Arguments) (sink : Sink) : Run (Library × Target) := do
  if arguments.files.isEmpty then
    throw (failure "you need to specify at least one object file")
  let policy ← MonadExcept.ofExcept (loadPolicy files arguments.config)
  Run.report [.policyChosen policy.long policy.short]
  let library : Library := ⟨policy, ← readFiles files arguments.files⟩
  Run.report [.assemblingLibrary (arguments.output.getD "<stdout>") library.files.length]
  return (library, ← openTarget files sink arguments.output)

def finish {σ : Type} [Output σ] (library : Library) (output : σ) (settle : Buffered σ → List UInt8 × FileSystem)
    (log : List Event → List String) (events : List Event) : Outcome :=
  let assembly := library.assemble (Buffered.mk #[] output)
  let (printed, files) := settle assembly.writer.output
  let written := events ++ assembly.writer.journal.toList
  match assembly.result with
  | .ok _ => ⟨0, printed, log written, files⟩
  | .error error => ⟨1, printed, log (written ++ [.assemblyFailed]) ++ ["error: " ++ error.text], files⟩

/-- Leaves the tape where it belongs. Bytes that a failure leaves pending are lost: a sink that has refused some
    refuses them again. -/
def Target.settle (target : Target) (files : FileSystem) (buffer : Buffered Sink) : List UInt8 × FileSystem :=
  match target.place with
  | none => (buffer.output.held.toList, files)
  | some place => ([], files.store place buffer.output)

def assemble (files : FileSystem) (arguments : Arguments) (verbosity : Verbosity) (sink : Sink) : Outcome :=
  match (gather files arguments sink).run #[] with
  | .ok (library, target) events =>
    finish library target.sink (target.settle files) verbosity.lines events.toList
  | .error failure events => ⟨1, [], verbosity.lines events.toList ++ failure, files⟩

/-- Runs the command. The name of a level, if it is given, decides over the arguments what is logged. The output of the
    tape, a file or the standard output, takes bytes and fails as the given sink does. -/
def run (files : FileSystem) (level : Option String) (arguments : List String) (sink : Sink := {}) : Outcome :=
  match Request.ofArguments {} arguments with
  | .help => ⟨0, help.toUTF8.toList, [], files⟩
  | .version => ⟨0, version.toUTF8.toList, [], files⟩
  | .misuse => ⟨2, [], ["error: the arguments cannot be understood"], files⟩
  | .assemble arguments =>
    let verbosity :=
      match level with
      | some name => Verbosity.ofName name
      | none => Verbosity.ofCount arguments.verbosity
    assemble files arguments verbosity sink

end PaperTape.Assembly
