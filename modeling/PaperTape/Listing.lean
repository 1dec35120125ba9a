import PaperTape.Object.Kind
import PaperTape.Block.Scan

namespace PaperTape

structure Listing where
  lines : List String
  errors : List String
  exit : Nat
  deriving DecidableEq, Repr

namespace Listing

open Text

structure Options where
  words : Bool := false
  keepGoing : Bool := false
  deriving DecidableEq, Repr

def refusal (message : String) : Listing := ⟨[], ["error: " ++ message], 1⟩

def blockLine (block : Block) (classification : Classification) : String :=
  alignRight ' ' 8 (decimal block.position) ++ "  leader " ++ alignRight ' ' 4 (decimal block.leader) ++
    "  type " ++ octal classification.type.toNat ++ "/" ++ octalWide 2 classification.subtype.toNat ++ "  " ++
    alignRight ' ' 3 (decimal block.words.length) ++ " words  " ++ classification.kind.text

def wordsPerLine : Nat := 8

def wordLine (words : List UInt16) : String :=
  "          " ++ String.intercalate " " (words.map fun word => octalWide 6 word.toNat)

def wordLines (words : List UInt16) : List String :=
  match words with
  | [] => []
  | first :: rest =>
    wordLine ((first :: rest).take wordsPerLine) :: wordLines (rest.drop (wordsPerLine - 1))
termination_by words.length

def blockLines (options : Options) (block : Block) (classification : Classification) : List String :=
  blockLine block classification :: if options.words then wordLines block.words else []

def summary (blocks bad : Nat) : Listing :=
  ⟨[s!"{decimal blocks} blocks, {decimal bad} with a bad checksum"], [], if bad = 0 then 0 else 1⟩

def ofAttempts (options : Options) : List Reader.Attempt → Nat → Nat → Listing
  | [], blocks, bad => summary blocks bad
  | attempt :: rest, blocks, bad =>
    match attempt.outcome with
    | .ok block =>
      match block.classify with
      | .ok classification =>
        let tail := ofAttempts options rest (blocks + 1) bad
        { tail with lines := blockLines options block classification ++ tail.lines }
      | .error error => refusal error.text
    | .error error =>
      if error.isCleanEnd then summary blocks bad
      else if options.keepGoing && error.kind == .checksumMismatch then
        let tail := ofAttempts options rest blocks (bad + 1)
        { tail with errors := ("warning: " ++ error.text) :: tail.errors }
      else refusal error.text

def ofReader (options : Options) (reader : Reader) : Listing := ofAttempts options reader.attempts 0 0

def text (listing : Listing) : String := String.join (listing.lines.map (· ++ "\n"))

end Listing

end PaperTape
