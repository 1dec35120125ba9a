import PaperTape.Word
import PaperTape.Text.Numeral

namespace PaperTape

namespace TapeError

inductive Kind where
  /-- The tape ends within a leader, as every tape does. -/
  | cleanEnd
  | unexpectedEnd
  | stream
  | missingStartMarker
  | invalidChannel
  | unexpectedMidBlockMarker
  | missingTerminator
  | checksumMismatch
  | unknownBlockType
  | emptyBlock
  deriving DecidableEq, Repr

def Kind.text : Kind → String
  | .cleanEnd => "end of input"
  | .unexpectedEnd => "unexpected end of input"
  | .stream => "stream failure"
  | .missingStartMarker => "missing start marker"
  | .invalidChannel => "invalid channel bit"
  | .unexpectedMidBlockMarker => "unexpected mid-block marker"
  | .missingTerminator => "missing block terminator"
  | .checksumMismatch => "checksum mismatch"
  | .unknownBlockType => "unknown block type"
  | .emptyBlock => "empty block"

end TapeError

structure TapeError where
  kind : TapeError.Kind
  offset : Nat
  message : String
  deriving DecidableEq, Repr

namespace TapeError

open Text

def text (error : TapeError) : String :=
  s!"{error.kind.text}: {error.message} (offset {decimal error.offset})"

def isCleanEnd (error : TapeError) : Bool := error.kind == .cleanEnd

def endOfTape (offset : Nat) : TapeError := ⟨.cleanEnd, offset, "end of tape"⟩

def cutShort (offset : Nat) : TapeError := ⟨.unexpectedEnd, offset, "tape ended in the middle of a block"⟩

def couldNotRead (offset : Nat) (cause : String) : TapeError :=
  ⟨.stream, offset, "could not read from tape: " ++ cause⟩

def couldNotOpen (cause : String) : TapeError := ⟨.stream, 0, "could not open file: " ++ cause⟩

def couldNotWrite (offset : Nat) (cause : String) : TapeError :=
  ⟨.stream, offset, "could not write to tape: " ++ cause⟩

def couldNotFlush (offset : Nat) (cause : String) : TapeError :=
  ⟨.stream, offset, "could not flush tape: " ++ cause⟩

def strayAfterLeader (offset : Nat) (found : UInt8) : TapeError :=
  ⟨.missingStartMarker, offset, s!"found {hexByte found} after the leader"⟩

def wrongMarker (kind : Kind) (offset : Nat) (expected found : UInt8) : TapeError :=
  ⟨kind, offset, s!"expected {hexByte expected} but found {hexByte found}"⟩

def badFrame (offset : Nat) (frame : UInt8) : TapeError :=
  ⟨.invalidChannel, offset, s!"frame {hexByte frame}"⟩

def markerInsideWord (offset : Nat) : TapeError :=
  ⟨.unexpectedMidBlockMarker, offset, "found inside of a word"⟩

def badChecksum (offset : Nat) (residue : UInt16) : TapeError :=
  ⟨.checksumMismatch, offset, s!"residue 0o{octalWide 6 residue.toNat}"⟩

def unknownType (offset : Nat) (type subtype : UInt8) : TapeError :=
  ⟨.unknownBlockType, offset, s!"type {octal type.toNat} with subtype {octalWide 2 subtype.toNat}"⟩

def noWords (offset : Nat) : TapeError := ⟨.emptyBlock, offset, "block does not carry any words"⟩

end TapeError

inductive LibraryError where
  | noInput
  | tape (file : String) (cause : TapeError)
  deriving DecidableEq, Repr

def LibraryError.text : LibraryError → String
  | .noInput => "no object files were given"
  | .tape file cause => s!"{file}: {cause.text}"

end PaperTape
