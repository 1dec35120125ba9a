import PaperTape.Toml.Number

namespace PaperTape.Toml

open PaperTape.Toml.Parser

def field (digits least most : Nat) : Parser Nat := do
  let number := numberOfDigits 10 (← repeated digits (satisfy Char.isDigit))
  check (least ≤ number && number ≤ most)
  return number

def isLeapYear (year : Nat) : Bool := year % 4 == 0 && (year % 100 != 0 || year % 400 == 0)

def daysOfMonth (year month : Nat) : Nat :=
  if month == 2 then if isLeapYear year then 29 else 28
  else if month == 4 || month == 6 || month == 9 || month == 11 then 30
  else 31

def date : Parser Unit := do
  let year ← field 4 0 9999
  char '-'
  let month ← field 2 1 12
  char '-'
  let _ ← field 2 1 (daysOfMonth year month)

def time : Parser Unit := do
  let _ ← field 2 0 23
  char ':'
  let _ ← field 2 0 59
  char ':'
  let _ ← field 2 0 60
  let _ ← optional (do char '.'; takeWhileSome Char.isDigit)

def zone : Parser Unit :=
  discard (satisfy fun c => c == 'Z' || c == 'z') <|> do
    let _ ← satisfy fun c => c == '+' || c == '-'
    let _ ← field 2 0 23
    char ':'
    let _ ← field 2 0 59

def dateTime : Parser Unit := do
  date
  let _ ← optional do
    let _ ← satisfy fun c => c == 'T' || c == 't' || c == ' '
    time
    let _ ← optional zone

def moment : Parser String := spelling (dateTime <|> time)

end PaperTape.Toml
