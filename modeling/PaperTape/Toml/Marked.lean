import PaperTape.Toml.Moment
import PaperTape.Toml.Value

namespace PaperTape.Toml

open PaperTape.Toml.Parser

def momentMark : String := "$__toml_private_datetime"

def wholeMoment : Parser String := do
  let spelling ← moment
  atEnd
  return spelling

def momentUnder : Value → Option Value
  | .text text => (wholeMoment text.toList).map fun (spelling, _) => .moment spelling
  | _ => none

mutual

def Value.settle : Value → Option Value
  | .array items => do return .array (← settleItems items)
  | .table ((key, value) :: rest) =>
    if key == momentMark then momentUnder value
    else do return .table ((key, ← value.settle) :: (← settleEntries rest))
  | value => some value

def settleItems : List Value → Option (List Value)
  | [] => some []
  | value :: rest => do return (← value.settle) :: (← settleItems rest)

def settleEntries : List (String × Value) → Option (List (String × Value))
  | [] => some []
  | (key, value) :: rest => do return (key, ← value.settle) :: (← settleEntries rest)

end

end PaperTape.Toml
