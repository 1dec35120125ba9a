import PaperTape.Toml.Document
import PaperTape.Text.Numeral

namespace PaperTape

structure Policy where
  /-- Blank frames before the first file and after the last one. -/
  long : Nat := 150
  /-- Blank frames before each other file. -/
  short : Nat := 30
  deriving DecidableEq, Repr

namespace Policy

inductive Problem where
  | notToml
  | unknownSection (name : String)
  | notATable
  | unknownKey (key : String)
  | negative (key : String)
  | notAnInteger (key : String)
  deriving DecidableEq, Repr

def Problem.text : Problem → String
  | .notToml => "TOML parse error"
  | .unknownSection name => s!"unknown section '{name}'"
  | .notATable => "'library' must be a table"
  | .unknownKey key => s!"unknown key '{key}' in section 'library'"
  | .negative key => s!"'{key}' cannot be negative"
  | .notAnInteger key => s!"'{key}' must be an integer"

def frameCount (key : String) : Toml.Value → Except Problem Nat
  | .integer number => if number < 0 then .error (.negative key) else .ok number.toNat
  | _ => .error (.notAnInteger key)

def setKey (policy : Policy) (key : String) (value : Toml.Value) : Except Problem Policy :=
  if key = "long_leader" then do return { policy with long := ← frameCount key value }
  else if key = "short_leader" then do return { policy with short := ← frameCount key value }
  else .error (.unknownKey key)

def setSection (policy : Policy) (name : String) (value : Toml.Value) : Except Problem Policy :=
  if name = "library" then
    match value with
    | .table entries => entries.foldlM (fun policy entry => policy.setKey entry.1 entry.2) policy
    | _ => .error .notATable
  else .error (.unknownSection name)

def ofEntries (entries : List (String × Toml.Value)) : Except Problem Policy :=
  entries.foldlM (fun policy entry => policy.setSection entry.1 entry.2) {}

def parse (text : String) : Except Problem Policy :=
  match Toml.parse? text with
  | some entries => ofEntries entries
  | none => .error .notToml

end Policy

end PaperTape
