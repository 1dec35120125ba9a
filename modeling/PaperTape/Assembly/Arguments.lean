namespace PaperTape.Assembly

structure Arguments where
  files : List String := []
  output : Option String := none
  config : Option String := none
  verbosity : Nat := 0
  deriving DecidableEq, Repr

inductive Request where
  | help
  | version
  | assemble (arguments : Arguments)
  | misuse
  deriving DecidableEq, Repr

inductive Slot where
  | output
  | config
  deriving DecidableEq, Repr

inductive Step where
  | go (arguments : Arguments)
  | awaiting (slot : Slot) (arguments : Arguments)
  | stop (request : Request)
  deriving DecidableEq, Repr

namespace Arguments

def give (slot : Slot) (value : String) (arguments : Arguments) : Step :=
  match slot, arguments.output, arguments.config with
  | .output, none, _ => .go { arguments with output := value }
  | .config, _, none => .go { arguments with config := value }
  | _, _, _ => .stop .misuse

def attached (slot : Slot) (arguments : Arguments) : List Char → Step
  | [] => .awaiting slot arguments
  | '=' :: value => arguments.give slot (String.ofList value)
  | value => arguments.give slot (String.ofList value)

def shortOptions (arguments : Arguments) : List Char → Step
  | [] => .go arguments
  | 'v' :: rest => shortOptions { arguments with verbosity := arguments.verbosity + 1 } rest
  | 'h' :: _ => .stop .help
  | 'V' :: _ => .stop .version
  | 'o' :: rest => arguments.attached .output rest
  | 'c' :: rest => arguments.attached .config rest
  | _ => .stop .misuse

def longOption (arguments : Arguments) (name : String) (value : Option String) : Step :=
  let valued (slot : Slot) : Step :=
    match value with
    | some value => arguments.give slot value
    | none => .awaiting slot arguments
  match name, value with
  | "out", _ => valued .output
  | "config", _ => valued .config
  | "verbose", none => .go { arguments with verbosity := arguments.verbosity + 1 }
  | "help", none => .stop .help
  | "version", none => .stop .version
  | _, _ => .stop .misuse

def step (arguments : Arguments) (argument : String) : Step :=
  match argument.toList with
  | '-' :: '-' :: text =>
    let name := String.ofList (text.takeWhile (· != '='))
    match text.dropWhile (· != '=') with
    | [] => arguments.longOption name none
    | _ :: value => arguments.longOption name (String.ofList value)
  | '-' :: first :: rest => arguments.shortOptions (first :: rest)
  | _ => .go { arguments with files := arguments.files ++ [argument] }

end Arguments

def isOption (argument : String) : Bool := argument.startsWith "-" && argument != "-"

/-- Takes the arguments in order. After two dashes, all of them are files. -/
def Request.ofArguments (taken : Arguments) : List String → Request
  | [] => .assemble taken
  | argument :: rest =>
    if argument == "--" then .assemble { taken with files := taken.files ++ rest }
    else
      match taken.step argument, rest with
      | .go taken, rest => ofArguments taken rest
      | .stop request, _ => request
      | .awaiting _ _, [] => .misuse
      | .awaiting slot taken, value :: rest =>
        if isOption value then .misuse
        else
          match taken.give slot value with
          | .go taken => ofArguments taken rest
          | _ => .misuse

end PaperTape.Assembly
