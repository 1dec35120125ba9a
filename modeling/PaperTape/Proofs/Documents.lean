import PaperTape.Proofs.Tables
import PaperTape.Toml.Document

namespace PaperTape.Toml

def Parser.Yields {α : Type} (parser : Parser α) (Result : α → Prop) : Prop :=
  ∀ ⦃text result rest⦄, parser text = some (result, rest) → Result result

namespace Parser

variable {α β : Type} {Result : α → Prop} {Other : β → Prop}

theorem yields_true (parser : Parser α) : parser.Yields fun _ => True := fun _ _ _ _ => trivial

theorem pure_yields {result : α} (holds : Result result) : (pure result : Parser α).Yields Result := by
  intro text _ rest parsed
  cases parsed
  exact holds

theorem lift_yields {computed : Option α} (holds : ∀ result, computed = some result → Result result) :
    (liftM computed : Parser α).Yields Result := by
  intro text result rest parsed
  obtain ⟨_, done, same⟩ := Option.bind_eq_some_iff.mp parsed
  cases same
  exact holds _ done

theorem check_yields (holds : Bool) : (check holds).Yields fun _ => holds = true := by
  intro text _ rest parsed
  cases holds
  · cases parsed
  · rfl

theorem Yields.bind {parser : Parser α} {next : α → Parser β} (yields : parser.Yields Result)
    (others : ∀ result, Result result → (next result).Yields Other) : (parser >>= next).Yields Other := by
  intro text _ rest parsed
  obtain ⟨⟨result, left⟩, first, parsed⟩ := Option.bind_eq_some_iff.mp parsed
  exact others result (yields first) parsed

theorem yields_after {parser : Parser α} {next : α → Parser β} (others : ∀ result, (next result).Yields Other) :
    (parser >>= next).Yields Other := parser.yields_true.bind fun result _ => others result

theorem map_yields {parser : Parser α} {convert : α → β} (holds : ∀ result, Other (convert result)) :
    (convert <$> parser).Yields Other := yields_after fun result => pure_yields (holds result)

theorem Yields.orElse {one other : Parser α} (first : one.Yields Result) (second : other.Yields Result) :
    (one <|> other).Yields Result := by
  intro text result rest parsed
  have either : (one <|> other) text = (one text).or (other text) := by
    change (one text <|> other text) = _
    cases one text <;> rfl
  rw [either, Option.or_eq_some_iff] at parsed
  rcases parsed with parsed | ⟨-, parsed⟩
  · exact first parsed
  · exact second parsed

theorem Yields.optional {item : Parser α} (yields : item.Yields Result) :
    (optional item).Yields fun found => ∀ result ∈ found, Result result := by
  refine Yields.orElse ?_ ?_
  · exact yields.bind fun result holds => pure_yields (by simpa using holds)
  · exact pure_yields (by simp)

theorem Yields.many {item : Parser α} (yields : item.Yields Result) :
    (many item).Yields fun results => ∀ result ∈ results, Result result := by
  intro text results rest parsed
  fun_induction Parser.many item text generalizing results rest with
  | case1 text first left found shorter ih =>
    obtain ⟨⟨others, _⟩, more, same⟩ := Option.map_eq_some_iff.mp parsed
    cases same
    exact List.forall_mem_cons.mpr ⟨yields found, ih more⟩
  | case2 => cases parsed; simp
  | case3 => cases parsed; simp

end Parser

open PaperTape.Toml.Parser

theorem integer_yields : integer.Yields fun number => -2 ^ 63 ≤ number ∧ number < 2 ^ 63 := by
  refine yields_after fun number => (check_yields _).bind fun _ bounds => pure_yields ?_
  simpa using bounds

theorem simpleValue_yields : simpleValue.Yields Value.Regular := by
  refine (map_yields .text).orElse <| (map_yields .moment).orElse <| (map_yields .real).orElse <|
    Yields.orElse ?_ (map_yields .truth)
  exact integer_yields.bind fun _ bounds => pure_yields (.integer bounds.1 bounds.2)

theorem commaSeparated_yields {α : Type} {item : Parser α} {Result : α → Prop} (trailing : Bool)
    (yields : item.Yields Result) : (commaSeparated trailing item).Yields fun items => ∀ one ∈ items, Result one := by
  refine yields.optional.bind fun found holds => ?_
  cases found with
  | none => exact pure_yields (by simp)
  | some first =>
    refine Yields.bind (Yields.many (yields_after fun _ => yields)) fun others each => ?_
    have all := List.forall_mem_cons.mpr ⟨holds first rfl, each⟩
    cases trailing
    · exact pure_yields all
    · exact yields_after fun _ => pure_yields all

theorem array_yields {item : Parser Value} (yields : item.Yields Value.Regular) :
    (array item).Yields Value.Regular := by
  have items : (commaSeparated true do
      gap
      let value ← item
      gap
      return value).Yields fun items => ∀ item ∈ items, item.Regular := by
    refine commaSeparated_yields true <| yields_after fun _ => ?_
    exact yields.bind fun value regular => yields_after fun _ => pure_yields regular
  refine yields_after fun _ => items.bind fun items regular => ?_
  exact yields_after fun _ => yields_after fun _ => pure_yields (.array regular)

theorem inlineTable_yields {item : Parser Value} (yields : item.Yields Value.Regular) :
    (inlineTable item).Yields Value.Regular := by
  have pairs : (commaSeparated false do
      let key ← key
      char '='
      blanks
      let value ← item
      blanks
      return (key, value)).Yields fun pairs => ∀ pair ∈ pairs, pair.2.Regular := by
    refine commaSeparated_yields false <| yields_after fun key => yields_after fun _ => yields_after fun _ => ?_
    exact yields.bind fun value regular => yields_after fun _ => pure_yields regular
  refine yields_after fun _ => pairs.bind fun pairs regular => yields_after fun _ => yields_after fun _ => ?_
  have fill := Edit.forM_keeps pairs fun pair member =>
    Entries.assign_keeps pair.1.1 pair.1.2 (regular pair member)
  refine (lift_yields fun _ done => (fill Keyed.nil done).2).bind fun filled keyed => pure_yields ?_
  exact Value.regular_table.mpr (keyed_entriesToValues keyed)

theorem value_yields (depth : Nat) : (value depth).Yields Value.Regular := by
  induction depth with
  | zero => exact simpleValue_yields
  | succ depth ih => exact simpleValue_yields.orElse <| (array_yields ih).orElse (inlineTable_yields ih)

theorem line_yields {outline : Outline} (regular : outline.Regular) : (line outline).Yields Outline.Regular := by
  refine yields_after fun _ => Yields.orElse ?comment <| Yields.orElse ?element <| Yields.orElse ?table <|
    Yields.orElse ?pair ?empty
  case comment => exact yields_after fun _ => yields_after fun _ => pure_yields regular
  case element =>
    refine yields_after fun _ => yields_after fun (path, key) => yields_after fun _ => yields_after fun _ => ?_
    exact lift_yields fun _ opened => regular.openElement opened
  case table =>
    refine yields_after fun _ => yields_after fun (path, key) => yields_after fun _ => yields_after fun _ => ?_
    exact lift_yields fun _ opened => regular.openTable opened
  case pair =>
    refine yields_after fun (path, key) => yields_after fun _ => yields_after fun _ => ?_
    refine (value_yields deepest).bind fun value allowed => yields_after fun _ => ?_
    exact lift_yields fun _ assigned => regular.assign allowed assigned
  case empty => exact yields_after fun _ => pure_yields regular

theorem lines_yields {outline : Outline} (regular : outline.Regular) : (lines outline).Yields Outline.Regular := by
  intro text after rest parsed
  fun_induction lines outline text with
  | case1 outline text next left found shorter ih => exact ih (line_yields regular found) parsed
  | case2 => cases parsed
  | case3 =>
    obtain ⟨_, _, same⟩ := Option.bind_eq_some_iff.mp parsed
    cases same
    exact regular

theorem momentUnder_regular {value settled : Value} (done : momentUnder value = some settled) : settled.Regular := by
  cases value with
  | text text =>
    obtain ⟨⟨spelling, _⟩, -, rfl⟩ := Option.map_eq_some_iff.mp done
    exact .moment spelling
  | _ => cases done

theorem settle_table {key : String} {value : Value} {rest : List (String × Value)} :
    (Value.table ((key, value) :: rest)).settle =
      if key = momentMark then momentUnder value else (settleEntries ((key, value) :: rest)).map .table := by
  rw [Value.settle, settleEntries]
  by_cases marked : key = momentMark
  · simp [marked]
  · cases value.settle <;> cases settleEntries rest <;> simp [marked]

theorem map_fst_settleEntries {entries settled : List (String × Value)} (done : settleEntries entries = some settled) :
    settled.map Prod.fst = entries.map Prod.fst := by
  induction entries generalizing settled with
  | nil => cases done; rfl
  | cons entry rest ih =>
    obtain ⟨value, -, done⟩ := Option.bind_eq_some_iff.mp done
    obtain ⟨others, more, same⟩ := Option.bind_eq_some_iff.mp done
    cases same
    rw [List.map_cons, ih more, List.map_cons]

mutual

theorem Value.Regular.settle : ∀ {value settled : Value}, value.Regular → value.settle = some settled → settled.Regular
  | .array items, settled, regular, done => by
    cases regular with
    | array regular =>
      obtain ⟨items, others, same⟩ := Option.bind_eq_some_iff.mp done
      cases same
      exact .array (regular_settleItems regular others)
  | .table [], _, regular, done => by cases done; exact regular
  | .table ((key, value) :: rest), settled, regular, done => by
    -- Only the first key can be a mark, so the table is a moment or its entries are settled one by one.
    rw [settle_table] at done
    split at done
    · exact momentUnder_regular done
    · obtain ⟨entries, more, rfl⟩ := Option.map_eq_some_iff.mp done
      exact Value.regular_table.mpr (keyed_settleEntries (Value.regular_table.mp regular) more)
  | .text _, _, regular, done | .integer _, _, regular, done | .real _, _, regular, done | .truth _, _, regular, done
  | .moment _, _, regular, done => by cases done; exact regular

theorem regular_settleItems : ∀ {items settled : List Value}, (∀ item ∈ items, item.Regular) →
    settleItems items = some settled → ∀ item ∈ settled, item.Regular
  | [], _, _, done => by cases done; simp
  | value :: rest, _, regular, done => by
    obtain ⟨first, others⟩ := List.forall_mem_cons.mp regular
    obtain ⟨value, one, done⟩ := Option.bind_eq_some_iff.mp done
    obtain ⟨rest, more, same⟩ := Option.bind_eq_some_iff.mp done
    cases same
    exact List.forall_mem_cons.mpr ⟨first.settle one, regular_settleItems others more⟩

theorem keyed_settleEntries : ∀ {entries settled : List (String × Value)}, Keyed Value.Regular entries →
    settleEntries entries = some settled → Keyed Value.Regular settled
  | [], _, _, done => by cases done; exact Keyed.nil
  | (key, value) :: rest, _, keyed, done => by
    obtain ⟨fresh, regular, keyed⟩ := Keyed.cons_iff.mp keyed
    obtain ⟨value, one, done⟩ := Option.bind_eq_some_iff.mp done
    obtain ⟨others, more, same⟩ := Option.bind_eq_some_iff.mp done
    cases same
    rw [← map_fst_settleEntries more] at fresh
    exact Keyed.cons_iff.mpr ⟨fresh, regular.settle one, keyed_settleEntries keyed more⟩

end

/-- The entries of a document have distinct keys, and so have those of every table in them. -/
theorem parse_keyed {text : String} {entries : List (String × Value)} (parsed : parse? text = some entries) :
    Keyed Value.Regular entries := by
  obtain ⟨⟨outline, _⟩, read, parsed⟩ := Option.bind_eq_some_iff.mp parsed
  obtain ⟨root, closed, parsed⟩ := Option.bind_eq_some_iff.mp parsed
  have regular : outline.Regular := yields_after (fun _ => lines_yields Outline.Regular.start) read
  exact keyed_settleEntries (keyed_entriesToValues (regular.close closed)) parsed

end PaperTape.Toml
