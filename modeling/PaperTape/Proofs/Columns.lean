import Mathlib
import PaperTape.Listing

namespace PaperTape

namespace Text

theorem toList_alignRight (fill : Char) (width : Nat) (text : String) :
    (alignRight fill width text).toList = List.replicate (width - text.length) fill ++ text.toList := by
  rw [alignRight, String.toList_append, String.toList_ofList]

theorem toList_decimal (number : Nat) : (decimal number).toList = Nat.toDigits 10 number := String.toList_ofList

theorem toList_octal (number : Nat) : (octal number).toList = Nat.toDigits 8 number := String.toList_ofList

theorem isDigit_of_mem_octalWide {width number : Nat} {c : Char} (member : c ∈ (octalWide width number).toList) :
    c.isDigit = true := by
  rw [octalWide, toList_alignRight, toList_octal] at member
  rcases List.mem_append.mp member with member | member
  · rw [List.eq_of_mem_replicate member]
    decide
  · exact Nat.isDigit_of_mem_toDigits (by decide) (by decide) member

theorem ofDigitChars_octalWide (width number : Nat) :
    Nat.ofDigitChars 8 (octalWide width number).toList 0 = number := by
  rw [octalWide, toList_alignRight, toList_octal, Nat.ofDigitChars_append, Nat.ofDigitChars_replicate_zero,
    Nat.mul_zero, Nat.ofDigitChars_toDigits (by decide) (by decide)]

theorem octalWide_inj {width left right : Nat} (same : octalWide width left = octalWide width right) :
    left = right := by
  rw [← ofDigitChars_octalWide width left, same, ofDigitChars_octalWide]

theorem toDigits_inj {base left right : Nat} (large : 1 < base) (small : base ≤ 10)
    (same : Nat.toDigits base left = Nat.toDigits base right) : left = right := by
  calc
    left = Nat.ofDigitChars base (Nat.toDigits base left) 0 := (Nat.ofDigitChars_toDigits large small).symm
    _ = Nat.ofDigitChars base (Nat.toDigits base right) 0 := by rw [same]
    _ = right := Nat.ofDigitChars_toDigits large small

theorem octal_inj {left right : Nat} (same : octal left = octal right) : left = right := by
  have digits := congrArg String.toList same
  rw [toList_octal, toList_octal] at digits
  exact toDigits_inj (by decide) (by decide) digits

theorem isDigit_of_mem_octal {number : Nat} {c : Char} (member : c ∈ (octal number).toList) : c.isDigit = true := by
  rw [toList_octal] at member
  exact Nat.isDigit_of_mem_toDigits (by decide) (by decide) member

theorem not_mem_of_isDigit {text : List Char} (digits : ∀ c ∈ text, c.isDigit = true) {c : Char}
    (other : c.isDigit = false) : c ∉ text := by
  intro member
  rw [digits c member] at other
  cases other

theorem split_inj {α : Type} {separator : α} {left right rest rest' : List α} (apart : separator ∉ left)
    (apart' : separator ∉ right) (same : left ++ separator :: rest = right ++ separator :: rest') :
    left = right ∧ rest = rest' := by
  induction left generalizing right with
  | nil =>
    cases right with
    | nil => exact ⟨rfl, (List.cons.inj same).2⟩
    | cons c right => exact absurd (List.cons.inj same).1 (List.ne_of_not_mem_cons apart')
  | cons c left ih =>
    cases right with
    | nil => exact absurd (List.cons.inj same).1.symm (List.ne_of_not_mem_cons apart)
    | cons c' right =>
      obtain ⟨rfl, behind⟩ := List.cons.inj same
      obtain ⟨rfl, rests⟩ := ih (List.not_mem_of_not_mem_cons apart) (List.not_mem_of_not_mem_cons apart') behind
      exact ⟨rfl, rests⟩

theorem not_mem_column (width number : Nat) {c : Char} (other : c.isDigit = false) (filled : c ≠ ' ') :
    c ∉ (alignRight ' ' width (decimal number)).toList := by
  rw [toList_alignRight, toList_decimal, List.mem_append, not_or]
  refine ⟨fun member => filled (List.eq_of_mem_replicate member), ?_⟩
  exact not_mem_of_isDigit (fun _ => Nat.isDigit_of_mem_toDigits (by decide) (by decide)) other

theorem dropWhile_column (width number : Nat) (rest : List Char) :
    ((alignRight ' ' width (decimal number)).toList ++ ' ' :: rest).dropWhile (· == ' ') =
      Nat.toDigits 10 number ++ ' ' :: rest := by
  rw [toList_alignRight, toList_decimal, List.append_assoc,
    List.dropWhile_append_of_pos fun c member => beq_iff_eq.mpr (List.eq_of_mem_replicate member)]
  cases digits : Nat.toDigits 10 number with
  | nil => exact absurd digits Nat.toDigits_ne_nil
  | cons first others =>
    have digit : first.isDigit = true :=
      Nat.isDigit_of_mem_toDigits (by decide) (by decide) (digits ▸ List.mem_cons_self ..)
    refine List.dropWhile_cons_of_neg ?_
    rw [beq_iff_eq]
    rintro rfl
    cases digit

/-- A column is read back up to the blank behind it, whatever its width. -/
theorem column_inj {width width' left right : Nat} {rest rest' : List Char}
    (same : (alignRight ' ' width (decimal left)).toList ++ ' ' :: rest =
      (alignRight ' ' width' (decimal right)).toList ++ ' ' :: rest') : left = right ∧ rest = rest' := by
  have apart (number : Nat) : ' ' ∉ Nat.toDigits 10 number :=
    not_mem_of_isDigit (fun _ => Nat.isDigit_of_mem_toDigits (by decide) (by decide)) (by decide)
  have digits := congrArg (List.dropWhile (· == ' ')) same
  rw [dropWhile_column, dropWhile_column] at digits
  obtain ⟨numbers, rests⟩ := split_inj (apart left) (apart right) digits
  exact ⟨toDigits_inj (by decide) (by decide) numbers, rests⟩

theorem toList_ended (lines : List String) :
    (String.join (lines.map (· ++ "\n"))).toList = lines.flatMap (·.toList ++ ['\n']) := by
  rw [String.toList_join, List.flatMap_map]
  simp only [String.toList_append]
  rfl

theorem lines_inj {lines others : List String} (single : ∀ line ∈ lines, '\n' ∉ line.toList)
    (single' : ∀ line ∈ others, '\n' ∉ line.toList)
    (same : String.join (lines.map (· ++ "\n")) = String.join (others.map (· ++ "\n"))) : lines = others := by
  have ended := congrArg String.toList same
  rw [toList_ended, toList_ended] at ended
  clear same
  induction lines generalizing others with
  | nil =>
    cases others with
    | nil => rfl
    | cons other others => simp at ended
  | cons line lines ih =>
    cases others with
    | nil => simp at ended
    | cons other others =>
      obtain ⟨apart, single⟩ := List.forall_mem_cons.mp single
      obtain ⟨apart', single'⟩ := List.forall_mem_cons.mp single'
      rw [List.flatMap_cons, List.flatMap_cons, ← List.append_cons, ← List.append_cons] at ended
      obtain ⟨first, rest⟩ := split_inj apart apart' ended
      rw [String.toList_inj.mp first, ih single single' rest]

theorem eq_or_mem_of_mem_intercalate {α : Type} {separator item : α} {texts : List (List α)}
    (member : item ∈ [separator].intercalate texts) : item = separator ∨ ∃ text ∈ texts, item ∈ text := by
  induction texts with
  | nil => simp at member
  | cons first texts ih =>
    cases texts with
    | nil => exact .inr ⟨first, by simp, by simpa using member⟩
    | cons second texts =>
      rw [List.intercalate_cons_cons, List.mem_append, List.mem_append, List.mem_singleton] at member
      rcases member with (member | same) | member
      · exact .inr ⟨first, by simp, member⟩
      · exact .inl same
      · exact (ih member).imp_right fun ⟨text, within, inside⟩ => ⟨text, List.mem_cons_of_mem _ within, inside⟩

end Text

theorem Kind.find?_text (kind : Kind) :
    (table.map Entry.kind ++ [Kind.endOfTape]).find? (fun other => other.text == kind.text) = some kind := by
  cases kind <;> decide

theorem Kind.text_inj {kind other : Kind} (same : kind.text = other.text) : kind = other := by
  have found := kind.find?_text
  rw [same, other.find?_text] at found
  exact (Option.some.inj found).symm

namespace Listing

open Text

theorem toList_wordLine (words : List UInt16) :
    (wordLine words).toList =
      List.replicate 10 ' ' ++ [' '].intercalate (words.map fun word => (octalWide 6 word.toNat).toList) := by
  rw [wordLine, String.toList_append, String.toList_intercalate, List.map_map]
  rfl

theorem wordLine_inj {words others : List UInt16} (filled : words ≠ []) (filled' : others ≠ [])
    (same : wordLine words = wordLine others) : words = others := by
  have apart (words : List UInt16) : ∀ text ∈ words.map fun word => (octalWide 6 word.toNat).toList, ' ' ∉ text := by
    simp only [List.forall_mem_map]
    exact fun word _ => not_mem_of_isDigit (fun _ => isDigit_of_mem_octalWide) (by decide)
  have texts := congrArg String.toList same
  rw [toList_wordLine, toList_wordLine] at texts
  have split := congrArg (List.splitOn ' ') (List.append_cancel_left texts)
  rw [List.splitOn_intercalate ' ' (apart words) (by simpa using filled),
    List.splitOn_intercalate ' ' (apart others) (by simpa using filled')] at split
  refine List.map_injective_iff.mpr (fun word other alike => ?_) split
  exact UInt16.toNat_inj.mp (octalWide_inj (String.toList_inj.mp alike))

theorem length_wordLines (words : List UInt16) : (wordLines words).length = (words.length + 7) / 8 := by
  fun_induction wordLines words with
  | case1 => rfl
  | case2 first rest ih =>
    rw [List.length_cons, ih, List.length_drop, wordsPerLine, List.length_cons]
    omega

theorem wordLines_inj {words others : List UInt16} (same : wordLines words = wordLines others) : words = others := by
  fun_induction wordLines words generalizing others with
  | case1 =>
    cases others with
    | nil => rfl
    | cons first rest =>
      rw [wordLines] at same
      cases same
  | case2 first rest ih =>
    cases others with
    | nil =>
      rw [wordLines] at same
      cases same
    | cons first' rest' =>
      rw [wordLines] at same
      obtain ⟨line, lines⟩ := List.cons.inj same
      have front : (first :: rest).take wordsPerLine = (first' :: rest').take wordsPerLine :=
        wordLine_inj (List.cons_ne_nil _ _) (List.cons_ne_nil _ _) line
      have back : (first :: rest).drop wordsPerLine = (first' :: rest').drop wordsPerLine := ih lines
      calc
        first :: rest = (first :: rest).take wordsPerLine ++ (first :: rest).drop wordsPerLine :=
          (List.take_append_drop ..).symm
        _ = (first' :: rest').take wordsPerLine ++ (first' :: rest').drop wordsPerLine := by rw [front, back]
        _ = first' :: rest' := List.take_append_drop ..

theorem single_wordLine (words : List UInt16) : '\n' ∉ (wordLine words).toList := by
  rw [toList_wordLine, List.mem_append, not_or]
  refine ⟨fun member => absurd (List.eq_of_mem_replicate member) (by decide), fun member => ?_⟩
  rcases eq_or_mem_of_mem_intercalate member with same | ⟨text, member, inside⟩
  · cases same
  · obtain ⟨word, -, rfl⟩ := List.mem_map.mp member
    cases isDigit_of_mem_octalWide inside

theorem single_wordLines (words : List UInt16) : ∀ line ∈ wordLines words, '\n' ∉ line.toList := by
  fun_induction wordLines words with
  | case1 => exact List.forall_mem_nil _
  | case2 first rest ih => exact List.forall_mem_cons.mpr ⟨single_wordLine _, ih⟩

theorem toList_blockLine (block : Block) (classification : Classification) :
    (blockLine block classification).toList =
      (alignRight ' ' 8 (decimal block.position)).toList ++ ' ' :: (" leader ".toList ++
        ((alignRight ' ' 4 (decimal block.leader)).toList ++ ' ' :: (" type ".toList ++
          ((octal classification.type.toNat).toList ++ '/' ::
            ((octalWide 2 classification.subtype.toNat).toList ++ ' ' :: ' ' ::
              ((alignRight ' ' 3 (decimal block.words.length)).toList ++ ' ' ::
                ("words  ".toList ++ classification.kind.text.toList))))))) := by
  simp [blockLine]

theorem single_blockLine (block : Block) (classification : Classification) :
    '\n' ∉ (blockLine block classification).toList := by
  have columns (width number : Nat) : '\n' ∉ (alignRight ' ' width (decimal number)).toList :=
    not_mem_column width number rfl (by decide)
  have octals (number : Nat) : '\n' ∉ (octal number).toList := not_mem_of_isDigit (fun _ => isDigit_of_mem_octal) rfl
  have wide (number : Nat) : '\n' ∉ (octalWide 2 number).toList :=
    not_mem_of_isDigit (fun _ => isDigit_of_mem_octalWide) rfl
  have kind : '\n' ∉ classification.kind.text.toList := by cases classification.kind <;> decide
  rw [toList_blockLine]
  simp [columns, octals, wide, kind]

/-- The line of a block tells all that stands in its columns. -/
theorem blockLine_inj {block other : Block} {classification classification' : Classification}
    (same : blockLine block classification = blockLine other classification') :
    block.position = other.position ∧ block.leader = other.leader ∧ classification = classification' ∧
      block.words.length = other.words.length := by
  have texts := congrArg String.toList same
  rw [toList_blockLine, toList_blockLine] at texts
  obtain ⟨position, behind⟩ := column_inj texts
  obtain ⟨leader, behind⟩ := column_inj (List.append_cancel_left behind)
  have slash (number : Nat) : '/' ∉ (octal number).toList := not_mem_of_isDigit (fun _ => isDigit_of_mem_octal) rfl
  have blank (number : Nat) : ' ' ∉ (octalWide 2 number).toList :=
    not_mem_of_isDigit (fun _ => isDigit_of_mem_octalWide) rfl
  obtain ⟨type, behind⟩ := split_inj (slash _) (slash _) (List.append_cancel_left behind)
  obtain ⟨subtype, behind⟩ := split_inj (blank _) (blank _) behind
  obtain ⟨count, behind⟩ := column_inj (List.cons.inj behind).2
  have kind := Kind.text_inj (String.toList_inj.mp (List.append_cancel_left behind))
  have type := UInt8.toNat_inj.mp (octal_inj (String.toList_inj.mp type))
  have subtype := UInt8.toNat_inj.mp (octalWide_inj (String.toList_inj.mp subtype))
  obtain ⟨type', subtype', kind'⟩ := classification'
  subst type subtype kind
  exact ⟨position, leader, rfl, count⟩

end Listing

end PaperTape
