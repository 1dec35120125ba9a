import PaperTape.Toml.Blank

namespace PaperTape.Toml

open PaperTape.Toml.Parser

def doubleQuote : Char := '\x22'

def singleQuote : Char := '\x27'

def digitValue (c : Char) : Nat :=
  if c.isDigit then c.toNat - '0'.toNat else c.toLower.toNat - 'a'.toNat + 10

def isHexDigit (c : Char) : Bool := c.isDigit || ('a' ≤ c && c ≤ 'f') || ('A' ≤ c && c ≤ 'F')

def numberOfDigits (base : Nat) (digits : List Char) : Nat :=
  digits.foldl (fun number digit => number * base + digitValue digit) 0

def scalar (digits : Nat) : Parser Char := do
  let number := numberOfDigits 16 (← repeated digits (satisfy isHexDigit))
  check (number < 0xD800 || (0xE000 ≤ number && number < 0x110000))
  return Char.ofNat number

def escape : Parser Char := do
  match ← satisfy fun _ => true with
  | 'b' => return '\x08'
  | 'f' => return '\x0c'
  | 'n' => return '\n'
  | 'r' => return '\r'
  | 't' => return '\t'
  | 'u' => scalar 4
  | 'U' => scalar 8
  | '\\' => return '\\'
  | c => check (c == doubleQuote); return c

def plain (quote : Char) : Parser Char :=
  satisfy fun c => isPrintable c && c != quote && !(quote == doubleQuote && c == '\\')

def piece (quote : Char) : Parser Char :=
  plain quote <|> (do check (quote == doubleQuote); char '\\'; escape)

def singleLine (quote : Char) : Parser String := do
  char quote
  let body ← many (piece quote)
  char quote
  return String.ofList body

def joinedLines : Parser (List Char) := do
  char '\\'
  blanks
  lineEnd
  let _ ← many (discard (satisfy isBlank) <|> lineEnd)
  return []

def innerQuotes (quote : Char) : Parser (List Char) := do
  let quotes ← takeWhileSome (· == quote)
  check (quotes.length ≤ 2)
  return quotes

def closingQuotes (quote : Char) : Parser (List Char) := do
  let quotes ← takeWhileSome (· == quote)
  check (3 ≤ quotes.length && quotes.length ≤ 5)
  return quotes.drop 3

def multiLine (quote : Char) : Parser String := do
  let _ ← repeated 3 (char quote)
  let _ ← optional lineEnd
  let joined : Parser (List Char) := do
    check (quote == doubleQuote)
    joinedLines
  let body ← many <|
    ((fun c => [c]) <$> piece quote) <|> (do lineEnd; return ['\n']) <|> joined <|> innerQuotes quote
  return String.ofList (body.flatten ++ (← closingQuotes quote))

def string : Parser String :=
  multiLine doubleQuote <|> multiLine singleQuote <|> singleLine doubleQuote <|> singleLine singleQuote

end PaperTape.Toml
