import PaperTape.Output
import PaperTape.Reader

namespace PaperTape

inductive SystemError where
  | noEntry
  | notDirectory
  | isDirectory
  | noSpace
  | nameTooLong
  | nulInName
  deriving DecidableEq, Repr

def SystemError.text : SystemError → String
  | .noEntry => "No such file or directory (os error 2)"
  | .notDirectory => "Not a directory (os error 20)"
  | .isDirectory => "Is a directory (os error 21)"
  | .noSpace => "No space left on device (os error 28)"
  | .nameTooLong => "File name too long (os error 36)"
  | .nulInName => "file name contained an unexpected NUL byte"

namespace FileSystem

inductive Entry where
  | file (bytes : List UInt8)
  | directory
  /-- Holds nothing and drops what it is given. -/
  | null
  /-- Holds nothing and has no room for more. -/
  | full
  deriving DecidableEq, Repr

abbrev Place := List String

end FileSystem

structure FileSystem where
  working : FileSystem.Place := []
  entries : List (FileSystem.Place × FileSystem.Entry) := []
  deriving DecidableEq, Repr

namespace FileSystem

def systemDirectories : List String :=
  ["bin", "dev", "etc", "home", "lib", "mnt", "opt", "proc", "root", "run", "sbin", "srv", "sys", "tmp", "usr",
    "var"]

def standard (working : Place) : FileSystem where
  working := working
  entries :=
    [(["dev", "full"], .full), (["dev", "null"], .null)] ++
      systemDirectories.map fun name => ([name], .directory)

/-- The entry at a place. The working directory and all above it, as the root, are directories. -/
def find? (files : FileSystem) (place : Place) : Option Entry :=
  if place.isPrefixOf files.working then some .directory else files.entries.lookup place

def put (place : Place) (entry : Entry) (files : FileSystem) : FileSystem :=
  { files with entries := (place, entry) :: files.entries.filter fun other => other.1 != place }

def enter (files : FileSystem) (place : Place) (name : String) : Except SystemError Place :=
  match files.find? place with
  | none => .error .noEntry
  | some .directory =>
    if name == "." then .ok place
    else if name == ".." then .ok place.dropLast
    else if 255 < name.utf8ByteSize then .error .nameTooLong
    else .ok (place ++ [name])
  | some _ => .error .notDirectory

def names : List Char → List String
  | [] => []
  | text => ((text.splitOnP (· == '/')).filter (!·.isEmpty)).map String.ofList

def start (files : FileSystem) (path : String) : Place :=
  if path.toList.head? == some '/' then [] else files.working

/-- Puts an entry where a path without dots leads, and makes the directories on the way. -/
def provide (path : String) (entry : Entry) (files : FileSystem) : FileSystem :=
  let place := files.start path ++ names path.toList
  let above := ((List.range place.length).map place.take).filter fun place => (files.find? place).isNone
  (above.foldl (fun files place => files.put place .directory) files).put place entry

def walk (files : FileSystem) (path : String) (names : List String) : Except SystemError Place :=
  if path.toList.contains '\x00' then .error .nulInName
  else if path.isEmpty then .error .noEntry
  else if 4096 ≤ path.utf8ByteSize then .error .nameTooLong
  else names.foldlM files.enter (files.start path)

def resolve (files : FileSystem) (path : String) : Except SystemError Place :=
  files.walk path (names path.toList)

def endsInSlash (path : String) : Bool := path.toList.getLast? == some '/'

def openEntry (files : FileSystem) (path : String) : Except SystemError Entry := do
  let place ← files.resolve path
  let place ← if endsInSlash path then files.enter place "." else pure place
  match files.find? place with
  | some entry => .ok entry
  | none => .error .noEntry

/-- Opens a path for writing. A path that ends in a slash is refused; the name before the slash is not looked at, only
    the way to it. -/
def create (files : FileSystem) (path : String) : Except SystemError Place := do
  if endsInSlash path then
    let above ← files.walk path (names path.toList).dropLast
    let _ ← files.enter above "."
    .error .isDirectory
  else
    let place ← files.resolve path
    match files.find? place with
    | some .directory => .error .isDirectory
    | _ => .ok place

/-- What takes the bytes that are written to a place. A file takes them as the given sink does, and what it held before
    is dropped. -/
def sinkAt (files : FileSystem) (place : Place) (sink : Sink) : Sink :=
  match files.find? place with
  | some .null => {}
  | some .full => { limit := some 0, failure := SystemError.noSpace.text }
  | _ => sink.emptied

def store (files : FileSystem) (place : Place) (sink : Sink) : FileSystem :=
  match files.find? place with
  | none | some (.file _) => files.put place (.file sink.held.toList)
  | some _ => files

def contents? (files : FileSystem) (path : String) : Option (List UInt8) :=
  match files.openEntry path with
  | .ok (.file bytes) => some bytes
  | .ok .null => some []
  | _ => none

namespace Entry

def reader : Entry → Reader
  | .file bytes => .ofBytes bytes
  | .directory => .ofSignals [.failure SystemError.isDirectory.text]
  | .null | .full => .ofBytes []

def bytes : Entry → Except SystemError (List UInt8)
  | .file bytes => .ok bytes
  | .directory => .error .isDirectory
  | .null | .full => .ok []

end Entry

end FileSystem

end PaperTape
