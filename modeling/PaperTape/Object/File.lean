import PaperTape.Object.Reading
import PaperTape.Writer

namespace PaperTape

structure ObjectFile where
  name : String
  trailing : Nat := 0
  blocks : List ObjectBlock := []
  deriving DecidableEq, Repr

namespace ObjectFile

def named (name : String) : ObjectFile := { name }

/-- Appends the blocks of a tape. The blocks before the first failure are kept. -/
def read (reader : Reader) : EStateM TapeError ObjectFile Unit := fun file =>
  let reading := Reading.ofReader reader
  let file := { file with blocks := file.blocks ++ reading.blocks }
  match reading.failure with
  | none => .ok () file
  | some error => .error error file

def readJournal (name : String) (reading : Reading) : List Event :=
  let count := reading.blocks.length
  reading.journal ++
    match reading.failure with
    | some _ => []
    | none => (if count = 0 then [.noBlocks name] else []) ++ [.readFile name count]

def write {σ : Type} [Output σ] (file : ObjectFile) : EStateM TapeError (Writer σ) Unit := do
  file.blocks.forM fun object => object.block.encode
  Writer.writeBlank file.trailing
  Writer.report (.wroteFile file.name file.blocks.length file.trailing)

def bytes (file : ObjectFile) : List UInt8 :=
  file.blocks.flatMap (·.block.bytes) ++ List.replicate file.trailing Frame.blank

def stripEndMarkers (file : ObjectFile) : ObjectFile :=
  { file with trailing := 0, blocks := (file.blocks.reverse.dropWhile ObjectBlock.isEndMarker).reverse }

def push (object : ObjectBlock) (file : ObjectFile) : ObjectFile :=
  { file with blocks := file.blocks ++ [object] }

def appendEndMark (file : ObjectFile) : ObjectFile := file.push .endMark

def setLeading (count : Nat) (file : ObjectFile) : ObjectFile :=
  match file.blocks with
  | [] => file
  | first :: rest =>
    { file with blocks := { first with block := { first.block with leader := count } } :: rest }

def setTrailing (count : Nat) (file : ObjectFile) : ObjectFile :=
  if file.blocks.isEmpty then file else { file with trailing := count }

end ObjectFile

end PaperTape
