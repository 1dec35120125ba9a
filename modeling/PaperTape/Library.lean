import PaperTape.Object.File
import PaperTape.Policy

namespace PaperTape

structure Library where
  policy : Policy
  files : List ObjectFile := []
  deriving DecidableEq, Repr

namespace ObjectFile

/-- Gives a file its place on a library tape. The leader is set before the end mark is appended, so a file
    without other blocks gets none. -/
def prepare (leader trailer : Nat) (last : Bool) (file : ObjectFile) : ObjectFile :=
  let stripped := file.stripEndMarkers.setLeading leader
  if last then stripped.appendEndMark.setTrailing trailer else stripped.setTrailing 0

end ObjectFile

namespace Library

def push (file : ObjectFile) (library : Library) : Library :=
  { library with files := library.files ++ [file] }

def prepareFiles (policy : Policy) : Nat → List ObjectFile → List ObjectFile
  | _, [] => []
  | leader, file :: rest =>
    file.prepare leader policy.long rest.isEmpty :: prepareFiles policy policy.short rest

def prepare (library : Library) : Except LibraryError Library :=
  if library.files.isEmpty then .error .noInput
  else .ok { library with files := prepareFiles library.policy library.policy.long library.files }

variable {σ : Type} [Output σ]

def blaming (name : String) (step : EStateM TapeError (Writer σ) Unit) :
    EStateM LibraryError (Writer σ) Unit :=
  fun writer =>
    match step writer with
    | .ok _ writer => .ok () writer
    | .error cause writer => .error (.tape name cause) writer

def write (library : Library) : EStateM LibraryError (Writer σ) Unit := do
  library.files.forM fun file => blaming file.name file.write
  blaming "<output>" Writer.flush
  Writer.report (.assembledLibrary library.files.length (← get).offset)

def bytes (library : Library) : List UInt8 := library.files.flatMap ObjectFile.bytes

structure Assembly (σ : Type) where
  library : Library
  writer : Writer σ
  result : Except LibraryError Unit

def assemble (library : Library) (output : σ) : Assembly σ :=
  let writer : Writer σ := { output }
  match library.prepare with
  | .error error => ⟨library, writer, .error error⟩
  | .ok prepared =>
    match prepared.write writer with
    | .ok _ writer => ⟨prepared, writer, .ok ()⟩
    | .error error writer => ⟨prepared, writer, .error error⟩

end Library

end PaperTape
