namespace PaperTape.Toml

abbrev Parser := StateT (List Char) Option

namespace Parser

def satisfy (allowed : Char → Bool) : Parser Char
  | [] => none
  | c :: rest => if allowed c then some (c, rest) else none

def char (expected : Char) : Parser Unit := do
  let _ ← satisfy (· == expected)

def word (expected : String) : Parser Unit := expected.toList.forM char

def takeWhile (allowed : Char → Bool) : Parser (List Char) :=
  fun text => some (text.takeWhile allowed, text.dropWhile allowed)

def takeWhileSome (allowed : Char → Bool) : Parser (List Char) := do
  let first ← satisfy allowed
  return first :: (← takeWhile allowed)

def many {α : Type} (item : Parser α) : Parser (List α) := fun text =>
  match item text with
  | some (first, rest) =>
    if rest.length < text.length then (many item rest).map fun (others, rest) => (first :: others, rest)
    else some ([], text)
  | none => some ([], text)
termination_by text => text.length

def repeated {α : Type} (count : Nat) (item : Parser α) : Parser (List α) :=
  match count with
  | 0 => pure []
  | count + 1 => do return (← item) :: (← repeated count item)

def spelling {α : Type} (item : Parser α) : Parser String := fun text =>
  (item text).map fun (_, rest) => (String.ofList (text.take (text.length - rest.length)), rest)

def check (holds : Bool) : Parser Unit := if holds then pure () else failure

def atEnd : Parser Unit
  | [] => some ((), [])
  | _ => none

end Parser

end PaperTape.Toml
