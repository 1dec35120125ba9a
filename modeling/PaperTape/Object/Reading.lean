import PaperTape.Block.Scan
import PaperTape.Journal
import PaperTape.Object.Kind

namespace PaperTape

structure Reading where
  blocks : List ObjectBlock
  failure : Option TapeError
  journal : List Event

namespace Block

def decoded (block : Block) : Event :=
  if block.endOfTape then .decodedEndOfTape block.position block.leader
  else .decodedBlock block.position block.leader block.words.length

end Block

namespace Reading

def ofAttempts : List Reader.Attempt → Reading
  | [] => ⟨[], none, []⟩
  | attempt :: rest =>
    match attempt.outcome with
    | .error error => ⟨[], if error.isCleanEnd then none else some error, []⟩
    | .ok block =>
      match ObjectBlock.ofBlock block with
      | .error error => ⟨[], some error, [block.decoded]⟩
      | .ok object =>
        let tail := ofAttempts rest
        ⟨object :: tail.blocks, tail.failure, block.decoded :: tail.journal⟩

def ofReader (reader : Reader) : Reading := ofAttempts reader.attempts

end Reading

end PaperTape
