import PaperTape.FileSystem
import PaperTape.Listing

namespace PaperTape.Listing

def help : List String := [
  "Display the blocks of an object paper tape.",
  "",
  "usage: readtape [OPTIONS] <FILE>",
  "",
  "Options:",
  "  -h, --help\t\tPrint this message and quit.",
  "  -k, --keep-going\tReport blocks with a bad checksum and move on.",
  "  -w, --words\t\tDump the words of each block in octal.",
  "  -v, --version\t\tPrint version information."]

def version : List String := ["readtape 1.0.0"]

inductive Request where
  | help
  | version
  | list (options : Options) (file : String)
  | refuse (message : String)
  deriving DecidableEq, Repr

/-- Takes the arguments in order; the first one that ends the command does so at once. No file has an empty
    name, so that stands for a file not given yet. -/
def Request.ofArguments (options : Options) (file : String) : List String → Request
  | [] => if file.isEmpty then .refuse "you need to specify the file to be read" else .list options file
  | argument :: rest =>
    if argument == "-h" || argument == "--help" then .help
    else if argument == "-k" || argument == "--keep-going" then
      ofArguments { options with keepGoing := true } file rest
    else if argument == "-w" || argument == "--words" then ofArguments { options with words := true } file rest
    else if argument == "-v" || argument == "--version" then .version
    else if argument.startsWith "-" then .refuse s!"don't know how to handle the '{argument}' flag"
    else if !file.isEmpty then .refuse "cannot have multiple tape files"
    else ofArguments options argument rest

def run (files : FileSystem) (arguments : List String) : Listing :=
  match Request.ofArguments {} "" arguments with
  | .help => ⟨help, [], 0⟩
  | .version => ⟨version, [], 0⟩
  | .refuse message => refusal message
  | .list options file =>
    match files.openEntry file with
    | .ok entry => ofReader options entry.reader
    | .error _ => refusal s!"failed to open the given file '{file}'"

end PaperTape.Listing
