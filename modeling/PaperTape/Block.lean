import PaperTape.Word

namespace PaperTape

structure Block where
  leader : Nat := 0
  /-- The words without the checksum word, which is checked and dropped when a block is read. -/
  words : List UInt16 := []
  endOfTape : Bool := false
  /-- Offset of the start marker on the tape that the block was read from. -/
  position : Nat := 0
  deriving DecidableEq, Repr

namespace Block

def ofWords (words : List UInt16) : Block := { words }

def endMark : Block := { endOfTape := true }

def makeEndMark (block : Block) : Block := { block with words := [], endOfTape := true }

def checksum (block : Block) : UInt16 := Word.checksum block.words

/-- A data block or an end-of-tape mark, but not a mark with words. -/
def WellFormed (block : Block) : Prop := block.endOfTape = true → block.words = []

instance (block : Block) : Decidable block.WellFormed := inferInstanceAs (Decidable (_ → _))

def body (block : Block) : List UInt8 :=
  if block.endOfTape then [Frame.endOfTapeMarker, Frame.midBlockMarker, Frame.terminator]
  else
    Frame.startMarker :: (block.words ++ [block.checksum]).flatMap Word.frames ++
      [Frame.midBlockMarker, Frame.terminator]

def bytes (block : Block) : List UInt8 := List.replicate block.leader Frame.blank ++ block.body

end Block

end PaperTape
