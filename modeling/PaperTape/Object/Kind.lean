import PaperTape.Block
import PaperTape.TapeError

namespace PaperTape

inductive Kind where
  | endOfProgram
  | setLoadAddress
  | setBaseSector
  | endOfJob
  | desectorizingMode
  | sectorizedMode
  | reserveCommon
  | absoluteWords
  | relocatableWords
  | subprogramName
  | subprogramEntry
  | subprogramCall
  | externalReference
  | externalReferenceOffset
  | chainLinkage
  | literalPool
  | symbolDefinitions
  | commonDefinition
  | debugLineNumbers
  | debugLocalSymbols
  | comment
  | endOfTape
  deriving DecidableEq, Repr

namespace Kind

def text : Kind → String
  | .endOfProgram => "special action: end of program"
  | .setLoadAddress => "special action: set load address"
  | .setBaseSector => "special action: set base sector"
  | .endOfJob => "special action: end of job"
  | .desectorizingMode => "special action: desectorizing load mode"
  | .sectorizedMode => "special action: sectorized load mode"
  | .reserveCommon => "special action: reserve common"
  | .absoluteWords => "absolute program words"
  | .relocatableWords => "relocatable program words"
  | .subprogramName => "subprogram name"
  | .subprogramEntry => "subprogram entry point"
  | .subprogramCall => "subprogram call"
  | .externalReference => "external reference"
  | .externalReferenceOffset => "external reference with offset"
  | .chainLinkage => "chain linkage words"
  | .literalPool => "literal pool words"
  | .symbolDefinitions => "symbol definitions"
  | .commonDefinition => "common block definition"
  | .debugLineNumbers => "debug: line numbers"
  | .debugLocalSymbols => "debug: local symbols"
  | .comment => "comment text"
  | .endOfTape => "end of tape"

def isEndMarker : Kind → Bool
  | .endOfTape | .endOfJob => true
  | _ => false

/-- A row of the table. Without a subtype it stands for all of them. -/
structure Entry where
  type : UInt8
  subtype : Option UInt8
  kind : Kind
  deriving DecidableEq, Repr

def Entry.matches (entry : Entry) (type subtype : UInt8) : Bool :=
  entry.type == type && entry.subtype.all (· == subtype)

def table : List Entry := [
  ⟨0, some 0, .endOfProgram⟩,
  ⟨0, some 1, .setLoadAddress⟩,
  ⟨0, some 2, .setBaseSector⟩,
  ⟨0, some 3, .endOfJob⟩,
  ⟨0, some 4, .desectorizingMode⟩,
  ⟨0, some 5, .sectorizedMode⟩,
  ⟨0, some 6, .reserveCommon⟩,
  ⟨1, none, .absoluteWords⟩,
  ⟨2, none, .relocatableWords⟩,
  ⟨3, some 0, .subprogramName⟩,
  ⟨3, some 1, .subprogramEntry⟩,
  ⟨3, some 2, .subprogramCall⟩,
  ⟨4, none, .externalReference⟩,
  ⟨4, some 1, .externalReferenceOffset⟩,
  ⟨5, none, .chainLinkage⟩,
  ⟨6, none, .literalPool⟩,
  ⟨7, none, .symbolDefinitions⟩,
  ⟨8, none, .commonDefinition⟩,
  ⟨9, some 0, .debugLineNumbers⟩,
  ⟨9, some 1, .debugLocalSymbols⟩,
  ⟨0o17, none, .comment⟩]

def find? (type subtype : UInt8) : Option Kind :=
  (table.filter (·.matches type subtype)).getLast?.map Entry.kind

def ofFirstWord? (word : UInt16) : Option Kind := find? (Word.high word) (Word.middle word)

end Kind

structure Classification where
  type : UInt8
  subtype : UInt8
  kind : Kind
  deriving DecidableEq, Repr

namespace Classification

def endOfTape : Classification := ⟨0, 0, .endOfTape⟩

end Classification

def Block.classify (block : Block) : Except TapeError Classification :=
  if block.endOfTape then .ok .endOfTape
  else
    match block.words with
    | [] => .error (.noWords block.position)
    | first :: _ =>
      let type := Word.high first
      let subtype := Word.middle first
      match Kind.find? type subtype with
      | some kind => .ok ⟨type, subtype, kind⟩
      | none => .error (.unknownType block.position type subtype)

structure ObjectBlock where
  block : Block
  classification : Classification
  deriving DecidableEq, Repr

namespace ObjectBlock

def ofBlock (block : Block) : Except TapeError ObjectBlock :=
  block.classify.map fun classification => ⟨block, classification⟩

def endMark : ObjectBlock := ⟨.endMark, .endOfTape⟩

def isEndMarker (object : ObjectBlock) : Bool := object.classification.kind.isEndMarker

end ObjectBlock

end PaperTape
