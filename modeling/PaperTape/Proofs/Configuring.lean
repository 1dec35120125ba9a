import Mathlib
import PaperTape.Policy
import PaperTape.Proofs.Documents

namespace PaperTape.Policy

open PaperTape.Toml

inductive Visit where
  | outer (name : String) (isTable : Bool)
  | inner (key : String) (value : Value)

def keys : List String := ["long_leader", "short_leader"]

namespace Visit

def complaint? : Visit → Option String
  | .outer name isTable =>
    if name ≠ "library" then some s!"unknown section '{name}'"
    else if isTable then none
    else some "'library' must be a table"
  | .inner key value =>
    if key ∉ keys then some s!"unknown key '{key}' in section 'library'"
    else
      match value with
      | .integer number => if number < 0 then some s!"'{key}' cannot be negative" else none
      | _ => some s!"'{key}' must be an integer"

theorem complaint?_unknownSection {name : String} (unknown : name ≠ "library") (isTable : Bool) :
    (outer name isTable).complaint? = some s!"unknown section '{name}'" := if_pos unknown

theorem complaint?_library (isTable : Bool) :
    (outer "library" isTable).complaint? = if isTable then none else some "'library' must be a table" := rfl

theorem complaint?_unknownKey {key : String} (unknown : key ∉ keys) (value : Value) :
    (inner key value).complaint? = some s!"unknown key '{key}' in section 'library'" := if_pos unknown

theorem complaint?_integer {key : String} (known : key ∈ keys) (number : Int) :
    (inner key (.integer number)).complaint? = if number < 0 then some s!"'{key}' cannot be negative" else none :=
  if_neg (not_not.mpr known)

theorem complaint?_notInteger {key : String} {value : Value} (known : key ∈ keys)
    (other : ∀ number, value ≠ .integer number) :
    (inner key value).complaint? = some s!"'{key}' must be an integer" := by
  refine (if_neg (not_not.mpr known)).trans ?_
  cases value with
  | integer number => exact absurd rfl (other number)
  | _ => rfl

theorem complaint?_inner_eq_none {key : String} {value : Value} :
    (inner key value).complaint? = none ↔ key ∈ keys ∧ ∃ count : Nat, value = .integer count := by
  by_cases known : key ∈ keys
  · cases value with
    | integer number =>
      rw [complaint?_integer known]
      constructor
      · intro clean
        have positive : 0 ≤ number := by
          by_contra negative
          simp [not_le.mp negative] at clean
        exact ⟨known, number.toNat, by rw [Int.toNat_of_nonneg positive]⟩
      · rintro ⟨-, count, same⟩
        cases same
        exact if_neg (Int.natCast_nonneg count).not_gt
    | _ =>
      rw [complaint?_notInteger known (by rintro _ ⟨⟩)]
      simp
  · rw [complaint?_unknownKey known]
    simp [known]

def given? (key : String) : Visit → Option Nat
  | .inner other (.integer number) => if other = key then some number.toNat else none
  | _ => none

def of (name : String) : Value → List Visit
  | .table leaves => .outer name true :: leaves.map fun leaf => .inner leaf.1 leaf.2
  | _ => [.outer name false]

theorem exists_of (name : String) (value : Value) :
    ∃ isTable others, Visit.of name value = .outer name isTable :: others := by
  cases value <;> exact ⟨_, _, rfl⟩

theorem complaint?_of_eq_none {name : String} {value : Value} :
    (∀ visit ∈ Visit.of name value, visit.complaint? = none) ↔
      name = "library" ∧ ∃ leaves, value = .table leaves ∧
        ∀ leaf ∈ leaves, leaf.1 ∈ keys ∧ ∃ count : Nat, leaf.2 = .integer count := by
  by_cases known : name = "library"
  · subst known
    cases value with
    | table leaves =>
      rw [Visit.of, List.forall_mem_cons, List.forall_mem_map]
      simp [complaint?_inner_eq_none, complaint?_library]
    | _ => simp [Visit.of, complaint?_library]
  · obtain ⟨isTable, others, same⟩ := exists_of name value
    rw [same, List.forall_mem_cons, complaint?_unknownSection known]
    simp [known]

theorem given?_eq_some {key : String} {visit : Visit} {count : Nat} :
    visit.given? key = some count ↔ ∃ number : Int, visit = .inner key (.integer number) ∧ number.toNat = count := by
  constructor
  · intro gives
    unfold given? at gives
    split at gives
    · rename_i other number
      rw [Option.ite_none_right_eq_some] at gives
      obtain ⟨rfl, same⟩ := gives
      exact ⟨number, rfl, Option.some.inj same⟩
    · cases gives
  · rintro ⟨number, rfl, rfl⟩
    exact if_pos rfl

end Visit

def visits (entries : List (String × Value)) : List Visit := entries.flatMap fun entry => Visit.of entry.1 entry.2

def update (policy : Policy) (visit : Visit) : Policy where
  long := (visit.given? "long_leader").getD policy.long
  short := (visit.given? "short_leader").getD policy.short

def perform (policy : Policy) (visit : Visit) : Except String Policy :=
  match visit.complaint? with
  | some text => .error text
  | none => .ok (policy.update visit)

/-- Nothing but tables of the name `library`, with nothing but frame counts in them. -/
def WellFormed (entries : List (String × Value)) : Prop :=
  ∀ entry ∈ entries, entry.1 = "library" ∧ ∃ leaves, entry.2 = .table leaves ∧
    ∀ leaf ∈ leaves, leaf.1 ∈ keys ∧ ∃ count : Nat, leaf.2 = .integer count

def Given (entries : List (String × Value)) (key : String) (count : Nat) : Prop :=
  ∃ leaves, ("library", .table leaves) ∈ entries ∧ (key, .integer count) ∈ leaves

def Sets (entries : List (String × Value)) (key : String) (default count : Nat) : Prop :=
  Given entries key count ∨ (∀ other, ¬ Given entries key other) ∧ count = default

theorem mapError_foldlM {σ α ε ε' : Type} (convert : ε → ε') (step : σ → α → Except ε σ) (start : σ)
    (items : List α) :
    (items.foldlM step start).mapError convert =
      items.foldlM (fun state item => (step state item).mapError convert) start := by
  induction items generalizing start with
  | nil => rfl
  | cons item items ih =>
    rw [List.foldlM_cons, List.foldlM_cons]
    cases step start item with
    | error fault => rfl
    | ok next => exact ih next

theorem update_long (policy : Policy) (number : Int) :
    policy.update (.inner "long_leader" (.integer number)) = { policy with long := number.toNat } := rfl

theorem update_short (policy : Policy) (number : Int) :
    policy.update (.inner "short_leader" (.integer number)) = { policy with short := number.toNat } := rfl

theorem mapError_frameCount {policy : Policy} {key : String} {value : Value} {next : Nat → Policy}
    (known : key ∈ keys) (updates : ∀ number, policy.update (.inner key (.integer number)) = next number.toNat) :
    (frameCount key value >>= fun count => pure (next count)).mapError Problem.text =
      policy.perform (.inner key value) := by
  unfold perform
  cases value with
  | integer number =>
    rw [Visit.complaint?_integer known, updates]
    by_cases negative : number < 0
    · simp only [frameCount, if_pos negative]
      rfl
    · simp only [frameCount, if_neg negative]
      rfl
  | _ =>
    rw [Visit.complaint?_notInteger known (by rintro _ ⟨⟩)]
    rfl

theorem mapError_setKey (policy : Policy) (key : String) (value : Value) :
    (policy.setKey key value).mapError Problem.text = policy.perform (.inner key value) := by
  unfold setKey
  by_cases long : key = "long_leader"
  · subst long
    exact mapError_frameCount List.mem_cons_self policy.update_long
  rw [if_neg long]
  by_cases short : key = "short_leader"
  · subst short
    exact mapError_frameCount (List.mem_cons_of_mem _ List.mem_cons_self) policy.update_short
  have unknown : key ∉ keys := by
    rw [keys, List.mem_cons, List.mem_singleton]
    exact not_or.mpr ⟨long, short⟩
  rw [if_neg short, perform, Visit.complaint?_unknownKey unknown]
  rfl

theorem mapError_setSection (policy : Policy) (name : String) (value : Value) :
    (policy.setSection name value).mapError Problem.text = (Visit.of name value).foldlM perform policy := by
  obtain ⟨isTable, others, same⟩ := Visit.exists_of name value
  by_cases known : name = "library"
  · subst known
    cases value with
    | table leaves =>
      simp only [setSection, if_true, mapError_foldlM, mapError_setKey]
      exact List.foldlM_map.symm
    | _ => rfl
  · unfold setSection
    rw [if_neg known, same, List.foldlM_cons, perform, Visit.complaint?_unknownSection known]
    rfl

theorem mapError_ofEntries (entries : List (String × Value)) :
    (ofEntries entries).mapError Problem.text = (visits entries).foldlM perform {} := by
  rw [ofEntries, mapError_foldlM]
  simp only [mapError_setSection]
  -- What the entries do does not depend on the policy so far, so the start can be any.
  generalize ({} : Policy) = policy
  induction entries generalizing policy with
  | nil => rfl
  | cons entry entries ih =>
    rw [visits, List.flatMap_cons, List.foldlM_append, List.foldlM_cons]
    simp only [ih, visits]

section

variable {policy : Policy} {front later : List Visit}

theorem foldlM_perform (clean : ∀ visit ∈ front, visit.complaint? = none) :
    front.foldlM perform policy = .ok (front.foldl update policy) := by
  induction front generalizing policy with
  | nil => rfl
  | cons visit front ih =>
    obtain ⟨first, others⟩ := List.forall_mem_cons.mp clean
    rw [List.foldlM_cons, perform, first]
    exact ih others

theorem foldlM_perform_complaint {visit : Visit} {text : String}
    (clean : ∀ earlier ∈ front, earlier.complaint? = none) (complains : visit.complaint? = some text) :
    (front ++ visit :: later).foldlM perform policy = .error text := by
  rw [List.foldlM_append, foldlM_perform clean]
  change List.foldlM perform _ (visit :: later) = _
  rw [List.foldlM_cons, perform, complains]
  rfl

end

theorem wellFormed_iff {entries : List (String × Value)} :
    WellFormed entries ↔ ∀ visit ∈ visits entries, visit.complaint? = none := by
  rw [visits, List.forall_mem_flatMap]
  exact forall₂_congr fun _ _ => Visit.complaint?_of_eq_none.symm

section

variable {entries : List (String × Value)} {key : String} {count default : Nat}

theorem WellFormed.given (wellFormed : WellFormed entries) :
    (∃ visit ∈ visits entries, visit.given? key = some count) ↔ Given entries key count := by
  constructor
  · rintro ⟨visit, member, gives⟩
    obtain ⟨⟨name, value⟩, inside, member⟩ := List.mem_flatMap.mp member
    obtain ⟨rfl, leaves, rfl, counts⟩ := wellFormed _ inside
    obtain ⟨number, rfl, rfl⟩ := Visit.given?_eq_some.mp gives
    rcases List.mem_cons.mp member with same | member
    · cases same
    · obtain ⟨⟨key, value⟩, inner, same⟩ := List.mem_map.mp member
      cases same
      obtain ⟨-, count, same⟩ := counts _ inner
      cases same
      exact ⟨leaves, inside, inner⟩
  · rintro ⟨leaves, inside, member⟩
    refine ⟨.inner key (.integer count), List.mem_flatMap.mpr ⟨_, inside, ?_⟩, if_pos rfl⟩
    exact List.mem_cons_of_mem _ (List.mem_map.mpr ⟨_, member, rfl⟩)

theorem Given.unique {other : Nat} (keyed : Keyed Value.Regular entries) (one : Given entries key count)
    (two : Given entries key other) : count = other := by
  obtain ⟨leaves, inside, member⟩ := one
  obtain ⟨leaves', inside', member'⟩ := two
  cases keyed.unique inside inside'
  have inner := Value.regular_table.mp (keyed.allowed _ inside)
  have same := inner.unique member member'
  simpa using same

def latest (key : String) (default : Nat) (visits : List Visit) : Nat :=
  visits.foldl (fun number visit => (visit.given? key).getD number) default

theorem latest_eq {visits : List Visit}
    (only : ∀ visit ∈ visits, ∀ number, visit.given? key = some number → number = count)
    (settled : (∃ visit ∈ visits, visit.given? key = some count) ∨ default = count) :
    latest key default visits = count := by
  induction visits generalizing default with
  | nil =>
    rcases settled with ⟨visit, member, -⟩ | same
    · cases member
    · exact same
  | cons visit visits ih =>
    obtain ⟨first, others⟩ := List.forall_mem_cons.mp only
    -- The start of the rest is what this visit gives, or the default again.
    refine ih others ?_
    cases gives : visit.given? key with
    | some number => exact .inr (by simpa [gives] using first number gives)
    | none =>
      rcases settled with ⟨other, member, giving⟩ | same
      · rcases List.mem_cons.mp member with rfl | member
        · rw [gives] at giving
          cases giving
        · exact .inl ⟨other, member, giving⟩
      · exact .inr (by simpa [gives] using same)

theorem WellFormed.sets (wellFormed : WellFormed entries) (keyed : Keyed Value.Regular entries) (key : String)
    (default : Nat) : Sets entries key default (latest key default (visits entries)) := by
  by_cases given : ∃ count, Given entries key count
  · obtain ⟨count, given⟩ := given
    have found : latest key default (visits entries) = count := by
      refine latest_eq (fun visit member number gives => ?_) (.inl (wellFormed.given.mpr given))
      exact (wellFormed.given.mp ⟨visit, member, gives⟩).unique keyed given
    rw [found]
    exact .inl given
  · have absent := not_exists.mp given
    refine .inr ⟨absent, latest_eq (fun visit member number gives => ?_) (.inr rfl)⟩
    exact absurd (wellFormed.given.mp ⟨visit, member, gives⟩) (absent number)

theorem foldl_update (policy : Policy) (visits : List Visit) :
    visits.foldl update policy =
      ⟨latest "long_leader" policy.long visits, latest "short_leader" policy.short visits⟩ := by
  induction visits generalizing policy with
  | nil => rfl
  | cons visit visits ih => exact ih (policy.update visit)

end

structure Decides (entries : List (String × Value)) (result : Except String Policy) : Prop where
  accepts : (∃ policy, result = .ok policy) ↔ WellFormed entries
  sets : ∀ policy, result = .ok policy →
    Sets entries "long_leader" 150 policy.long ∧ Sets entries "short_leader" 30 policy.short
  refuses : ¬ WellFormed entries →
    ∃ front visit later text, visits entries = front ++ visit :: later ∧
      (∀ earlier ∈ front, earlier.complaint? = none) ∧ visit.complaint? = some text ∧ result = .error text ∧
      ∀ others rest, visits others = front ++ visit :: rest → (ofEntries others).mapError Problem.text = .error text

theorem ofEntries_decides {entries : List (String × Value)} (keyed : Keyed Value.Regular entries) :
    Decides entries ((ofEntries entries).mapError Problem.text) := by
  by_cases wellFormed : WellFormed entries
  · have accepted : (ofEntries entries).mapError Problem.text = .ok
        ⟨latest "long_leader" 150 (visits entries), latest "short_leader" 30 (visits entries)⟩ := by
      rw [mapError_ofEntries, foldlM_perform (wellFormed_iff.mp wellFormed), foldl_update]
    rw [accepted]
    refine ⟨iff_of_true ⟨_, rfl⟩ wellFormed, ?_, fun unsound => absurd wellFormed unsound⟩
    rintro _ ⟨⟩
    exact ⟨wellFormed.sets keyed _ _, wellFormed.sets keyed _ _⟩
  · obtain ⟨text, found⟩ : ∃ text, (visits entries).findSome? Visit.complaint? = some text := by
      rw [wellFormed_iff, ← List.findSome?_eq_none_iff] at wellFormed
      exact Option.ne_none_iff_exists'.mp wellFormed
    obtain ⟨front, visit, later, same, complains, clean⟩ := List.findSome?_eq_some_iff.mp found
    have refused : ∀ others rest, visits others = front ++ visit :: rest →
        (ofEntries others).mapError Problem.text = .error text := by
      intro others rest begins
      rw [mapError_ofEntries, begins]
      exact foldlM_perform_complaint clean complains
    have result := refused entries later same
    refine ⟨?_, ?_, fun _ => ⟨front, visit, later, text, same, clean, complains, result, refused⟩⟩
    · rw [result]
      exact iff_of_false (by simp) wellFormed
    · rw [result]
      rintro _ ⟨⟩

/-- Whatever reads the text into tables of distinct keys, its entries decide; and documents are read that way. -/
theorem parse_decides :
    (∀ entries, Keyed Value.Regular entries → Decides entries ((ofEntries entries).mapError Problem.text)) ∧
      ∀ text entries, Toml.parse? text = some entries →
        Keyed Value.Regular entries ∧ Decides entries ((parse text).mapError Problem.text) := by
  refine ⟨fun _ => ofEntries_decides, fun text entries parsed => ?_⟩
  have keyed := parse_keyed parsed
  have decided := ofEntries_decides keyed
  rw [parse, parsed]
  exact ⟨keyed, decided⟩

theorem parse_decides_given :
    (∃ entries, Toml.parse? "library.short_leader=20\nlibrary.long_leader=300" = some entries ∧
      Decides entries (.ok ⟨300, 20⟩)) ∧
    ∃ entries, Toml.parse? "library.short_leader=20\nlibrary.long_leader=-1\ntape=true" = some entries ∧
      Decides entries (.error "'long_leader' cannot be negative") := by
  constructor
  · have read : (Toml.parse? "library.short_leader=20\nlibrary.long_leader=300").isSome := by decide +kernel
    obtain ⟨entries, parsed⟩ := Option.isSome_iff_exists.mp read
    have decided := (parse_decides.2 _ entries parsed).2
    have policy : (parse "library.short_leader=20\nlibrary.long_leader=300").mapError Problem.text =
        .ok ⟨300, 20⟩ := by decide +kernel
    rw [policy] at decided
    exact ⟨entries, parsed, decided⟩
  · have read : (Toml.parse? "library.short_leader=20\nlibrary.long_leader=-1\ntape=true").isSome := by decide +kernel
    obtain ⟨entries, parsed⟩ := Option.isSome_iff_exists.mp read
    have keyed := (parse_decides.2 _ entries parsed).1
    have decided := parse_decides.1 entries keyed
    have policy : (parse "library.short_leader=20\nlibrary.long_leader=-1\ntape=true").mapError Problem.text =
        .error "'long_leader' cannot be negative" := by decide +kernel
    rw [parse, parsed] at policy
    rw [policy] at decided
    exact ⟨entries, parsed, decided⟩

end PaperTape.Policy
