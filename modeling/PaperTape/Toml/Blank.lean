import PaperTape.Toml.Parser

namespace PaperTape.Toml

open PaperTape.Toml.Parser

def isBlank (c : Char) : Bool := c == ' ' || c == '\t'

def isPrintable (c : Char) : Bool := c == '\t' || ('\x20' ≤ c && c != '\x7f')

def blanks : Parser Unit := do
  let _ ← takeWhile isBlank

def lineEnd : Parser Unit := do
  let _ ← optional (char '\r')
  char '\n'

def comment : Parser Unit := do
  char '#'
  let _ ← takeWhile isPrintable

def lineRest : Parser Unit := do
  blanks
  let _ ← optional comment
  lineEnd <|> atEnd

def gap : Parser Unit := do
  let _ ← many (discard (satisfy isBlank) <|> lineEnd <|> (do comment; lineEnd))

end PaperTape.Toml
