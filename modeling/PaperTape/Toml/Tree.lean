import PaperTape.Toml.Value

namespace PaperTape.Toml

/-- How a table came to be: by its own header or braces, as a part of a longer header, or as a part of a
    dotted key. -/
inductive Origin where
  | declared
  | implied
  | dotted
  deriving DecidableEq, Repr

inductive Node where
  | value (value : Value)
  | table (origin : Origin) (entries : List (String × Node))
  /-- The tables declared by headers in double brackets. -/
  | tables (elements : List (List (String × Node)))

abbrev Entries := List (String × Node)

mutual

def Node.toValue : Node → Value
  | .value value => value
  | .table _ entries => .table (entriesToValues entries)
  | .tables elements => .array (elementsToValues elements)

def entriesToValues : List (String × Node) → List (String × Value)
  | [] => []
  | (key, node) :: rest => (key, node.toValue) :: entriesToValues rest

def elementsToValues : List (List (String × Node)) → List Value
  | [] => []
  | entries :: rest => .table (entriesToValues entries) :: elementsToValues rest

end

abbrev Edit := StateT Entries Option

namespace Entries

def replace (key : String) (node : Node) (entries : Entries) : Entries :=
  entries.map fun entry => if entry.1 == key then (key, node) else entry

def insert (key : String) (node : Node) : Edit Unit := fun entries =>
  if (entries.lookup key).isSome then none else some ((), entries ++ [(key, node)])

def reclaim (key : String) : Edit Entries := fun entries =>
  match entries.lookup key with
  | none => some ([], entries)
  | some (.table .implied inner) => some (inner, entries.filter fun entry => entry.1 != key)
  | some _ => none

def openArray (key : String) : Edit Unit := fun entries =>
  match entries.lookup key with
  | none => some ((), entries ++ [(key, .tables [])])
  | some (.tables _) => some ((), entries)
  | some _ => none

def addElement (key : String) (element : Entries) : Edit Unit := fun entries =>
  match entries.lookup key with
  | some (.tables elements) => some ((), entries.replace key (.tables (elements ++ [element])))
  | _ => none

/-- Edits the table at the end of a path. Tables missing on the way are made; of an array of tables the last
    one is meant. A dotted key does not pass through tables that were declared. -/
def within {α : Type} (dotted : Bool) (edit : Origin → Edit α) : List String → Origin → Edit α
  | [], origin => edit origin
  | key :: path, _ => fun entries =>
    match entries.lookup key with
    | none => do
      let origin := if dotted then .dotted else .implied
      let (result, inner) ← within dotted edit path origin []
      return (result, entries ++ [(key, .table origin inner)])
    | some (.table origin inner) =>
      if dotted && origin == .declared then none
      else do
        let (result, inner) ← within dotted edit path origin inner
        return (result, entries.replace key (.table origin inner))
    | some (.tables elements) => do
      let (result, inner) ← within dotted edit path .declared (← elements.getLast?)
      return (result, entries.replace key (.tables (elements.dropLast ++ [inner])))
    | some (.value _) => none

def assign (path : List String) (key : String) (value : Value) : Edit Unit :=
  within true
    (fun origin => do
      guard ((origin == .dotted) != path.isEmpty)
      insert key (.value value))
    path .declared

end Entries

/-- A document up to some line. The table of the last header is kept apart, and takes its place among the
    others when it is complete. -/
structure Outline where
  root : Entries := []
  /-- The path of the last header and its last part; `none` before the first header. -/
  header : Option (List String × String) := none
  isElement : Bool := false
  current : Entries := []

namespace Outline

def close (outline : Outline) : Option Entries :=
  match outline.header with
  | none => some outline.current
  | some (path, key) =>
    let add :=
      if outline.isElement then Entries.addElement key outline.current
      else Entries.insert key (.table .declared outline.current)
    (Entries.within false (fun _ => add) path .declared outline.root).map Prod.snd

def openTable (path : List String) (key : String) (outline : Outline) : Option Outline := do
  let (current, root) ← Entries.within false (fun _ => Entries.reclaim key) path .declared (← outline.close)
  return { root, header := some (path, key), current }

def openElement (path : List String) (key : String) (outline : Outline) : Option Outline := do
  let (_, root) ← Entries.within false (fun _ => Entries.openArray key) path .declared (← outline.close)
  return { root, header := some (path, key), isElement := true }

def assign (path : List String) (key : String) (value : Value) (outline : Outline) : Option Outline := do
  let (_, current) ← Entries.assign path key value outline.current
  return { outline with current }

end Outline

end PaperTape.Toml
