import Mathlib
import PaperTape.Toml.Tree

namespace PaperTape.Toml

structure Keyed {α : Type} (Allowed : α → Prop) (entries : List (String × α)) : Prop where
  distinct : (entries.map Prod.fst).Nodup
  allowed : ∀ entry ∈ entries, Allowed entry.2

inductive Value.Regular : Value → Prop where
  | text (text : String) : Regular (.text text)
  | integer {number : Int} (least : -2 ^ 63 ≤ number) (most : number < 2 ^ 63) : Regular (.integer number)
  | real (spelling : String) : Regular (.real spelling)
  | truth (value : Bool) : Regular (.truth value)
  | moment (spelling : String) : Regular (.moment spelling)
  | array {items : List Value} (regular : ∀ item ∈ items, Regular item) : Regular (.array items)
  | table {entries : List (String × Value)} (distinct : (entries.map Prod.fst).Nodup)
    (regular : ∀ entry ∈ entries, Regular entry.2) : Regular (.table entries)

inductive Node.Regular : Node → Prop where
  | value {value : Value} (regular : value.Regular) : Regular (.value value)
  | table {origin : Origin} {entries : List (String × Node)} (distinct : (entries.map Prod.fst).Nodup)
    (regular : ∀ entry ∈ entries, Regular entry.2) : Regular (.table origin entries)
  | tables {elements : List (List (String × Node))}
    (distinct : ∀ element ∈ elements, (element.map Prod.fst).Nodup)
    (regular : ∀ element ∈ elements, ∀ entry ∈ element, Regular entry.2) : Regular (.tables elements)

theorem Value.regular_table {entries : List (String × Value)} :
    (Value.table entries).Regular ↔ Keyed Value.Regular entries :=
  ⟨fun | .table distinct regular => ⟨distinct, regular⟩, fun keyed => .table keyed.distinct keyed.allowed⟩

theorem Node.regular_table {origin : Origin} {entries : Entries} :
    (Node.table origin entries).Regular ↔ Keyed Node.Regular entries :=
  ⟨fun | .table distinct regular => ⟨distinct, regular⟩, fun keyed => .table keyed.distinct keyed.allowed⟩

theorem Node.regular_tables {elements : List Entries} :
    (Node.tables elements).Regular ↔ ∀ element ∈ elements, Keyed Node.Regular element :=
  ⟨fun | .tables distinct regular => fun element member => ⟨distinct element member, regular element member⟩,
    fun keyed => .tables (fun element member => (keyed element member).distinct)
      fun element member => (keyed element member).allowed⟩

namespace Keyed

variable {α : Type} {Allowed : α → Prop} {entries : List (String × α)}

theorem nil : Keyed Allowed ([] : List (String × α)) := ⟨List.nodup_nil, by simp⟩

theorem cons_iff {key : String} {value : α} :
    Keyed Allowed ((key, value) :: entries) ↔
      key ∉ entries.map Prod.fst ∧ Allowed value ∧ Keyed Allowed entries := by
  constructor
  · rintro ⟨distinct, allowed⟩
    obtain ⟨fresh, distinct⟩ := List.nodup_cons.mp distinct
    obtain ⟨first, allowed⟩ := List.forall_mem_cons.mp allowed
    exact ⟨fresh, first, distinct, allowed⟩
  · rintro ⟨fresh, first, distinct, allowed⟩
    exact ⟨List.nodup_cons.mpr ⟨fresh, distinct⟩, List.forall_mem_cons.mpr ⟨first, allowed⟩⟩

theorem concat {key : String} {value : α} (keyed : Keyed Allowed entries) (fresh : entries.lookup key = none)
    (allowed : Allowed value) : Keyed Allowed (entries ++ [(key, value)]) := by
  constructor
  · rw [List.map_append, List.nodup_append]
    refine ⟨keyed.distinct, List.nodup_singleton _, ?_⟩
    intro other inside last same alike
    obtain ⟨entry, member, rfl⟩ := List.mem_map.mp inside
    have differs := List.lookup_eq_none_iff.mp fresh entry member
    rw [alike, List.mem_singleton.mp same] at differs
    simp at differs
  · intro entry member
    rcases List.mem_append.mp member with member | member
    · exact keyed.allowed entry member
    · rw [List.mem_singleton.mp member]
      exact allowed

theorem filter (keyed : Keyed Allowed entries) (chosen : String × α → Bool) : Keyed Allowed (entries.filter chosen) :=
  ⟨keyed.distinct.sublist (List.filter_sublist.map _),
    fun entry member => keyed.allowed entry (List.mem_of_mem_filter member)⟩

theorem of_lookup {key : String} {value : α} (keyed : Keyed Allowed entries) (found : entries.lookup key = some value) :
    Allowed value := by
  obtain ⟨front, back, rfl, -⟩ := List.lookup_eq_some_iff.mp found
  exact keyed.allowed (key, value) (by simp)

theorem unique {key : String} {one two : α} (keyed : Keyed Allowed entries) (first : (key, one) ∈ entries)
    (second : (key, two) ∈ entries) : one = two := by
  have same := List.inj_on_of_nodup_map keyed.distinct first second rfl
  exact congrArg Prod.snd same

theorem replace {key : String} {node : Node} {entries : Entries} (keyed : Keyed Node.Regular entries)
    (regular : node.Regular) : Keyed Node.Regular (entries.replace key node) := by
  have keys : (entries.replace key node).map Prod.fst = entries.map Prod.fst := by
    rw [Entries.replace, List.map_map]
    refine List.map_congr_left fun entry member => ?_
    by_cases same : entry.1 = key <;> simp [same]
  constructor
  · rw [keys]
    exact keyed.distinct
  · intro entry member
    obtain ⟨former, inside, rfl⟩ := List.mem_map.mp member
    by_cases same : former.1 = key
    · simpa [same] using regular
    · simpa [same] using keyed.allowed former inside

end Keyed

theorem map_fst_entriesToValues (entries : Entries) :
    (entriesToValues entries).map Prod.fst = entries.map Prod.fst := by
  induction entries with
  | nil => rfl
  | cons entry rest ih => rw [entriesToValues, List.map_cons, ih, List.map_cons]

mutual

theorem Node.Regular.toValue : ∀ {node : Node}, node.Regular → node.toValue.Regular
  | .value _, .value regular => regular
  | .table _ _, regular => Value.regular_table.mpr (keyed_entriesToValues (Node.regular_table.mp regular))
  | .tables _, regular => .array (regular_elementsToValues (Node.regular_tables.mp regular))

theorem keyed_entriesToValues : ∀ {entries : List (String × Node)}, Keyed Node.Regular entries →
    Keyed Value.Regular (entriesToValues entries)
  | [], _ => Keyed.nil
  | (key, node) :: rest, keyed => by
    obtain ⟨fresh, regular, keyed⟩ := Keyed.cons_iff.mp keyed
    refine Keyed.cons_iff.mpr ⟨?_, regular.toValue, keyed_entriesToValues keyed⟩
    rwa [map_fst_entriesToValues]

theorem regular_elementsToValues : ∀ {elements : List (List (String × Node))},
    (∀ element ∈ elements, Keyed Node.Regular element) → ∀ item ∈ elementsToValues elements, item.Regular
  | [], _ => by simp [elementsToValues]
  | entries :: rest, keyed => by
    obtain ⟨first, others⟩ := List.forall_mem_cons.mp keyed
    exact List.forall_mem_cons.mpr
      ⟨Value.regular_table.mpr (keyed_entriesToValues first), regular_elementsToValues others⟩

end

def Edit.Keeps {α : Type} (edit : Edit α) (Result : α → Prop) : Prop :=
  ∀ ⦃before result after⦄, Keyed Node.Regular before → edit before = some (result, after) →
    Result result ∧ Keyed Node.Regular after

namespace Edit

variable {α β : Type} {Result : α → Prop} {Other : β → Prop}

theorem pure_keeps {result : α} (holds : Result result) : (pure result : Edit α).Keeps Result := by
  intro before _ after keyed edited
  cases edited
  exact ⟨holds, keyed⟩

theorem guard_keeps (allowed : Prop) [Decidable allowed] : (guard allowed : Edit Unit).Keeps fun _ => True := by
  unfold guard
  split
  · exact pure_keeps trivial
  · intro before _ after _ edited
    cases edited

theorem Keeps.bind {edit : Edit α} {next : α → Edit β} (keeps : edit.Keeps Result)
    (others : ∀ result, Result result → (next result).Keeps Other) : (edit >>= next).Keeps Other := by
  intro before _ after keyed edited
  obtain ⟨⟨result, between⟩, first, edited⟩ := Option.bind_eq_some_iff.mp edited
  obtain ⟨holds, keyed⟩ := keeps keyed first
  exact others result holds keyed edited

theorem forM_keeps {item : α → Edit Unit} (items : List α) (each : ∀ one ∈ items, (item one).Keeps fun _ => True) :
    (items.forM item).Keeps fun _ => True := by
  induction items with
  | nil => exact pure_keeps trivial
  | cons one items ih =>
    obtain ⟨first, others⟩ := List.forall_mem_cons.mp each
    exact first.bind fun _ _ => ih others

end Edit

namespace Entries

open Edit

theorem insert_keeps {node : Node} (key : String) (regular : node.Regular) :
    (insert key node).Keeps fun _ => True := by
  intro before result after keyed edited
  unfold insert at edited
  split at edited
  · cases edited
  · rename_i fresh
    cases edited
    rw [Bool.not_eq_true, Option.isSome_eq_false_iff, Option.isNone_iff_eq_none] at fresh
    exact ⟨trivial, keyed.concat fresh regular⟩

theorem reclaim_keeps (key : String) : (reclaim key).Keeps (Keyed Node.Regular) := by
  intro before result after keyed edited
  unfold reclaim at edited
  split at edited
  · cases edited
    exact ⟨Keyed.nil, keyed⟩
  · rename_i inner found
    cases edited
    exact ⟨Node.regular_table.mp (keyed.of_lookup found), keyed.filter _⟩
  · cases edited

theorem openArray_keeps (key : String) : (openArray key).Keeps fun _ => True := by
  intro before result after keyed edited
  unfold openArray at edited
  split at edited
  · rename_i fresh
    cases edited
    exact ⟨trivial, keyed.concat fresh (Node.regular_tables.mpr (by simp))⟩
  · cases edited
    exact ⟨trivial, keyed⟩
  · cases edited

theorem addElement_keeps {element : Entries} (key : String) (regular : Keyed Node.Regular element) :
    (addElement key element).Keeps fun _ => True := by
  intro before result after keyed edited
  unfold addElement at edited
  split at edited
  · rename_i elements found
    have others := Node.regular_tables.mp (keyed.of_lookup found)
    cases edited
    refine ⟨trivial, keyed.replace (Node.regular_tables.mpr ?_)⟩
    exact List.forall_mem_append.mpr ⟨others, by simpa using regular⟩
  · cases edited

/-- Only the table at the end of the path is edited, and the tables on the way keep their keys. -/
theorem within_keeps {α : Type} {dotted : Bool} {edit : Origin → Edit α} {Result : α → Prop}
    (keeps : ∀ origin, (edit origin).Keeps Result) (path : List String) (origin : Origin) :
    (within dotted edit path origin).Keeps Result := by
  -- An edit keeps any regular table, so the table that the rest of the path starts in does not matter.
  induction path generalizing origin with
  | nil => exact keeps origin
  | cons key path ih =>
    intro before result after keyed edited
    simp only [within] at edited
    split at edited
    · rename_i fresh
      obtain ⟨⟨_, inner⟩, below, same⟩ := Option.bind_eq_some_iff.mp edited
      cases same
      obtain ⟨holds, regular⟩ := ih _ Keyed.nil below
      exact ⟨holds, keyed.concat fresh (Node.regular_table.mpr regular)⟩
    · rename_i origin inner found
      split at edited
      · cases edited
      · obtain ⟨⟨_, next⟩, below, same⟩ := Option.bind_eq_some_iff.mp edited
        cases same
        obtain ⟨holds, regular⟩ := ih _ (Node.regular_table.mp (keyed.of_lookup found)) below
        exact ⟨holds, keyed.replace (Node.regular_table.mpr regular)⟩
    · rename_i elements found
      have others := Node.regular_tables.mp (keyed.of_lookup found)
      obtain ⟨last, ends, edited⟩ := Option.bind_eq_some_iff.mp edited
      obtain ⟨⟨_, next⟩, below, same⟩ := Option.bind_eq_some_iff.mp edited
      cases same
      obtain ⟨holds, regular⟩ := ih _ (others last (List.mem_of_getLast? ends)) below
      refine ⟨holds, keyed.replace (Node.regular_tables.mpr ?_)⟩
      refine List.forall_mem_append.mpr ⟨fun element member => ?_, by simpa using regular⟩
      exact others element (List.dropLast_subset _ member)
    · cases edited

theorem assign_keeps {value : Value} (path : List String) (key : String) (regular : value.Regular) :
    (assign path key value).Keeps fun _ => True := by
  refine within_keeps (fun origin => ?_) path .declared
  exact (guard_keeps _).bind fun _ _ => insert_keeps key (.value regular)

end Entries

structure Outline.Regular (outline : Outline) : Prop where
  root : Keyed Node.Regular outline.root
  current : Keyed Node.Regular outline.current

namespace Outline

variable {outline : Outline} {path : List String} {key : String}

theorem Regular.start : Regular {} := ⟨Keyed.nil, Keyed.nil⟩

theorem Regular.close {entries : Entries} (regular : outline.Regular) (closed : outline.close = some entries) :
    Keyed Node.Regular entries := by
  unfold Outline.close at closed
  split at closed
  · cases closed
    exact regular.current
  · rename_i path key _
    obtain ⟨⟨_, root⟩, edited, rfl⟩ := Option.map_eq_some_iff.mp closed
    have keeps : (if outline.isElement then Entries.addElement key outline.current
        else Entries.insert key (.table .declared outline.current)).Keeps fun _ => True := by
      split
      · exact Entries.addElement_keeps key regular.current
      · exact Entries.insert_keeps key (Node.regular_table.mpr regular.current)
    exact (Entries.within_keeps (fun _ => keeps) path .declared regular.root edited).2

theorem Regular.openTable {next : Outline} (regular : outline.Regular)
    (opened : outline.openTable path key = some next) : next.Regular := by
  obtain ⟨root, closed, opened⟩ := Option.bind_eq_some_iff.mp opened
  obtain ⟨⟨current, root⟩, edited, same⟩ := Option.bind_eq_some_iff.mp opened
  cases same
  obtain ⟨current, root⟩ :=
    Entries.within_keeps (fun _ => Entries.reclaim_keeps key) path _ (regular.close closed) edited
  exact ⟨root, current⟩

theorem Regular.openElement {next : Outline} (regular : outline.Regular)
    (opened : outline.openElement path key = some next) : next.Regular := by
  obtain ⟨root, closed, opened⟩ := Option.bind_eq_some_iff.mp opened
  obtain ⟨⟨_, root⟩, edited, same⟩ := Option.bind_eq_some_iff.mp opened
  cases same
  have kept := Entries.within_keeps (fun _ => Entries.openArray_keeps key) path _ (regular.close closed) edited
  exact ⟨kept.2, Keyed.nil⟩

theorem Regular.assign {value : Value} {next : Outline} (regular : outline.Regular) (allowed : value.Regular)
    (assigned : outline.assign path key value = some next) : next.Regular := by
  obtain ⟨⟨_, current⟩, edited, same⟩ := Option.bind_eq_some_iff.mp assigned
  cases same
  exact ⟨regular.root, (Entries.assign_keeps path key allowed regular.current edited).2⟩

end Outline

end PaperTape.Toml
