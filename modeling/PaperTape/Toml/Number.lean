import PaperTape.Toml.Text

namespace PaperTape.Toml

open PaperTape.Toml.Parser

def digitRun (isDigit : Char → Bool) : Parser (List Char) := do
  let first ← satisfy isDigit
  let others ← many (do let _ ← optional (char '_'); satisfy isDigit)
  return first :: others

def sign : Parser Bool := do
  match ← optional (satisfy fun c => c == '+' || c == '-') with
  | some c => return c == '-'
  | none => return false

def decimal : Parser (Bool × List Char) := do
  let negative ← sign
  let zero : Parser (List Char) := do
    char '0'
    return ['0']
  return (negative, ← zero <|> digitRun Char.isDigit)

def based (mark : String) (base : Nat) (isDigit : Char → Bool) : Parser Int := do
  word mark
  return numberOfDigits base (← digitRun isDigit)

def integer : Parser Int := do
  let signed : Parser Int := do
    let (negative, digits) ← decimal
    let magnitude : Int := numberOfDigits 10 digits
    return if negative then -magnitude else magnitude
  let number ←
    based "0x" 16 isHexDigit <|> based "0o" 8 (fun c => '0' ≤ c && c ≤ '7') <|>
      based "0b" 2 (fun c => c == '0' || c == '1') <|> signed
  let bound : Int := Nat.pow 2 63
  check (-bound ≤ number && number < bound)
  return number

/-- Whether digits times a power of ten are rounded to infinity: they reach the middle between the largest
    double and 2 to the power of 1024. -/
def exceedsDoubles (digits : List Char) (exponent : Int) : Bool :=
  let significant := digits.dropWhile (· == '0')
  let point := significant.length + exponent
  if significant.isEmpty || point < 309 then false
  else if 309 < point then true
  else
    let number := numberOfDigits 10 significant
    let bound := Nat.pow 2 1024 - Nat.pow 2 970
    if 0 ≤ exponent then bound ≤ number * Nat.pow 10 exponent.toNat
    else bound * Nat.pow 10 (-exponent).toNat ≤ number

def exponent : Parser Int := do
  let _ ← satisfy fun c => c == 'e' || c == 'E'
  let negative ← sign
  let magnitude : Int := numberOfDigits 10 (← digitRun Char.isDigit)
  return if negative then -magnitude else magnitude

def fractional : Parser Unit := do
  let (negative, whole) ← decimal
  let fraction ← optional (do char '.'; digitRun Char.isDigit)
  let scale ← if fraction.isSome then optional exponent else some <$> exponent
  let decimals := fraction.getD []
  check (negative || !exceedsDoubles (whole ++ decimals) (scale.getD 0 - decimals.length))

def special : Parser Unit := do
  let _ ← sign
  word "inf" <|> word "nan"

def real : Parser String := spelling (fractional <|> special)

end PaperTape.Toml
