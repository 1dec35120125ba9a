import PaperTape.TapeError
import PaperTape.Block
import PaperTape.Journal
import PaperTape.Output

namespace PaperTape

structure Writer (σ : Type) where
  output : σ
  offset : Nat := 0
  journal : Array Event := #[]

namespace Writer

variable {σ : Type}

def report {ε : Type} (event : Event) : EStateM ε (Writer σ) Unit :=
  fun ⟨output, offset, journal⟩ => .ok () ⟨output, offset, journal.push event⟩

variable [Output σ]

def writeBytes (bytes : List UInt8) : EStateM TapeError (Writer σ) Unit :=
  fun ⟨output, offset, journal⟩ =>
    match Output.writeAll bytes output with
    | .ok _ output => .ok () ⟨output, offset + bytes.length, journal⟩
    | .error cause output => .error (.couldNotWrite offset cause) ⟨output, offset, journal⟩

def blankChunk : Nat := 512

def writeBlank (count : Nat) : EStateM TapeError (Writer σ) Unit :=
  if count = 0 then pure ()
  else do
    writeBytes (List.replicate (min count blankChunk) Frame.blank)
    writeBlank (count - blankChunk)
termination_by count
decreasing_by simp only [blankChunk]; omega

def flush : EStateM TapeError (Writer σ) Unit :=
  fun ⟨output, offset, journal⟩ =>
    match Output.flush output with
    | .ok _ output => .ok () ⟨output, offset, journal⟩
    | .error cause output => .error (.couldNotFlush offset cause) ⟨output, offset, journal⟩

end Writer

/-- Writes the leader in chunks, and all the rest of the block at once. -/
def Block.encode {σ : Type} [Output σ] (block : Block) : EStateM TapeError (Writer σ) Unit := do
  Writer.writeBlank block.leader
  let position := (← get).offset
  Writer.report <|
    if block.endOfTape then .encodingEndOfTape position else .encodingBlock position block.words.length
  Writer.writeBytes block.body

end PaperTape
