import PaperTape.Toml.Marked
import PaperTape.Toml.Tree

namespace PaperTape.Toml

open PaperTape.Toml.Parser

def deepest : Nat := 79

def isBareKeyCharacter (c : Char) : Bool := c.isAlphanum || c == '-' || c == '_'

def keyPart : Parser String :=
  singleLine doubleQuote <|> singleLine singleQuote <|> (String.ofList <$> takeWhileSome isBareKeyCharacter)

def key : Parser (List String × String) := do
  blanks
  let first ← keyPart
  blanks
  let others ← many do
    char '.'
    blanks
    let part ← keyPart
    blanks
    return part
  let parts := first :: others
  check (parts.length ≤ deepest)
  return (parts.dropLast, parts.getLastD first)

def truth : Parser Bool := (do word "true"; return true) <|> (do word "false"; return false)

def simpleValue : Parser Value :=
  (.text <$> string) <|> (.moment <$> moment) <|> (.real <$> real) <|> (.integer <$> integer) <|> (.truth <$> truth)

def commaSeparated {α : Type} (trailing : Bool) (item : Parser α) : Parser (List α) := do
  match ← optional item with
  | none => return []
  | some first =>
    let others ← many (do char ','; item)
    if trailing then
      let _ ← optional (char ',')
    return first :: others

def array (item : Parser Value) : Parser Value := do
  char '['
  let items ← commaSeparated true do
    gap
    let value ← item
    gap
    return value
  gap
  char ']'
  return .array items

def inlineTable (item : Parser Value) : Parser Value := do
  char '\x7b'
  let pairs ← commaSeparated false do
    let key ← key
    char '='
    blanks
    let value ← item
    blanks
    return (key, value)
  blanks
  char '\x7d'
  let fill : Edit Unit := pairs.forM fun ((path, key), value) => Entries.assign path key value
  let (_, entries) ← fill []
  return .table (entriesToValues entries)

def value : Nat → Parser Value
  | 0 => simpleValue
  | depth + 1 => simpleValue <|> array (value depth) <|> inlineTable (value depth)

def line (outline : Outline) : Parser Outline := do
  let comment : Parser Outline := do
    comment
    lineEnd <|> atEnd
    return outline
  let element : Parser Outline := do
    word "[["
    let (path, key) ← key
    word "]]"
    lineRest
    outline.openElement path key
  let table : Parser Outline := do
    char '['
    let (path, key) ← key
    char ']'
    lineRest
    outline.openTable path key
  let pair : Parser Outline := do
    let (path, key) ← key
    char '='
    blanks
    let value ← value deepest
    lineRest
    outline.assign path key value
  let empty : Parser Outline := do
    lineEnd
    return outline
  blanks
  comment <|> element <|> table <|> pair <|> empty

def lines (outline : Outline) : Parser Outline := fun text =>
  match line outline text with
  | some (next, rest) => if rest.length < text.length then lines next rest else none
  | none => do
    let (_, rest) ← (do blanks; atEnd) text
    return (outline, rest)
termination_by text => text.length

def parse? (text : String) : Option (List (String × Value)) := do
  let document : Parser Outline := do
    let _ ← optional (char '\ufeff')
    lines {}
  let (outline, _) ← document text.toList
  settleEntries (entriesToValues (← outline.close))

end PaperTape.Toml
