import PaperTape.Text.Numeral
import PaperTape.Text.Quoted

namespace PaperTape

namespace Event

inductive Level where
  | error
  | warn
  | info
  | debug
  | trace
  deriving DecidableEq, Repr

namespace Level

def text : Level → String
  | .error => "ERROR"
  | .warn => "WARN"
  | .info => "INFO"
  | .debug => "DEBUG"
  | .trace => "TRACE"

def rank : Level → Nat
  | .error => 1
  | .warn => 2
  | .info => 3
  | .debug => 4
  | .trace => 5

end Level

end Event

inductive Event where
  | decodedBlock (position leader words : Nat)
  | decodedEndOfTape (position leader : Nat)
  | noBlocks (file : String)
  | readFile (file : String) (blocks : Nat)
  | encodingBlock (position words : Nat)
  | encodingEndOfTape (position : Nat)
  | wroteFile (file : String) (blocks trailer : Nat)
  | assembledLibrary (files bytes : Nat)
  | policyChosen (long short : Nat)
  | unreadableFile (file : String)
  | assemblingLibrary (output : String) (files : Nat)
  | assemblyFailed
  deriving DecidableEq, Repr

namespace Event

open Text

def level : Event → Level
  | .decodedBlock .. | .decodedEndOfTape .. | .encodingBlock .. | .encodingEndOfTape .. => .debug
  | .noBlocks .. => .warn
  | .readFile .. | .wroteFile .. | .assembledLibrary .. | .policyChosen .. | .assemblingLibrary .. => .info
  | .unreadableFile .. | .assemblyFailed => .error

def text : Event → String
  | .decodedBlock position leader words =>
    s!"decoded block position={decimal position} leader={decimal leader} words={decimal words}"
  | .decodedEndOfTape position leader =>
    s!"decoded end-of-tape block position={decimal position} leader={decimal leader}"
  | .noBlocks file => s!"no blocks found on tape file={file}"
  | .readFile file blocks => s!"read object file file={file} blocks={decimal blocks}"
  | .encodingBlock position words => s!"encoding block position={decimal position} words={decimal words}"
  | .encodingEndOfTape position => s!"encoding end-of-tape block position={decimal position}"
  | .wroteFile file blocks trailer =>
    s!"wrote object file file={file} blocks={decimal blocks} trailer={decimal trailer}"
  | .assembledLibrary files bytes => s!"assembled library files={decimal files} bytes={decimal bytes}"
  | .policyChosen long short => s!"library policy long_leader={decimal long} short_leader={decimal short}"
  | .unreadableFile file => s!"could not read object file file={quoted file}"
  | .assemblingLibrary output files => s!"assembling library output={quoted output} files={decimal files}"
  | .assemblyFailed => "library assembly failed"

def line (event : Event) : String := s!"{event.level.text} {event.text}"

end Event

abbrev Verbosity := Option Event.Level

namespace Verbosity

def logs (verbosity : Verbosity) (event : Event) : Bool :=
  verbosity.any fun finest => event.level.rank ≤ finest.rank

def ofCount : Nat → Verbosity
  | 0 => some .warn
  | 1 => some .info
  | _ => some .debug

def ofName (name : String) : Verbosity :=
  match name.toLower with
  | "error" | "1" => some .error
  | "warn" | "2" => some .warn
  | "info" | "3" => some .info
  | "debug" | "4" => some .debug
  | "trace" | "5" => some .trace
  | _ => none

def lines (verbosity : Verbosity) (events : List Event) : List String :=
  (events.filter verbosity.logs).map Event.line

end Verbosity

end PaperTape
