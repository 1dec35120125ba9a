import PaperTape.Proofs.Columns
import PaperTape.Proofs.Listings
import PaperTape.Proofs.Reencoding

namespace PaperTape

namespace Tape

def Leads (tape : List UInt8) (place : Nat) : Prop :=
  tape[place]? = some Frame.endOfTapeMarker ∨ tape[place]? = some Frame.terminator

/-- Tapes that differ in nothing but the blank frames at their ends and the leads of some end-of-tape marks. -/
structure Alike (objects : List ObjectBlock) (tape other : List UInt8) : Prop where
  length : (trimmed tape).length = (trimmed other).length
  frames : ∀ place, (trimmed tape)[place]? = (trimmed other)[place]? ∨
    (∃ object ∈ objects, object.block.endOfTape = true ∧ object.block.position = place) ∧
      Leads (trimmed tape) place ∧ Leads (trimmed other) place

theorem length_remarked (objects : List ObjectBlock) (tape : List UInt8) :
    (remarked objects tape).length = tape.length := by
  induction objects generalizing tape with
  | nil => rfl
  | cons object objects ih =>
    rw [remarked, List.foldl_cons, ← remarked, ih]
    split
    · exact List.length_set
    · rfl

theorem getElem?_remarked {objects : List ObjectBlock} {place : Nat} (tape : List UInt8)
    (elsewhere : ¬ ∃ object ∈ objects, object.block.endOfTape = true ∧ object.block.position = place) :
    (remarked objects tape)[place]? = tape[place]? := by
  induction objects generalizing tape with
  | nil => rfl
  | cons object objects ih =>
    have behind : ¬ ∃ other ∈ objects, other.block.endOfTape = true ∧ other.block.position = place := by
      rintro ⟨other, member, rest⟩
      exact elsewhere ⟨other, List.mem_cons_of_mem _ member, rest⟩
    rw [remarked, List.foldl_cons, ← remarked, ih _ behind]
    split
    · rename_i marked
      have away : object.block.position ≠ place := fun same => elsewhere ⟨object, List.mem_cons_self .., marked, same⟩
      exact List.getElem?_set_ne away
    · rfl

theorem leads_spelling {block : Block} {bytes : List UInt8} (spelled : block.Spelling bytes)
    (marked : block.endOfTape = true) (front rest : List UInt8) :
    Leads (front ++ (bytes ++ rest)) (front.length + block.leader) := by
  have behind (lead : UInt8) (frames : List UInt8) :
      (front ++ (List.replicate block.leader Frame.blank ++ lead :: frames ++ rest))[front.length + block.leader]? =
        some lead := by
    simp
  cases spelled with
  | punched wellFormed =>
    rw [Block.bytes, Block.body, if_pos marked]
    exact .inl (behind ..)
  | alternate => exact .inr (behind ..)
  | bare unmarked =>
    rw [marked] at unmarked
    cases unmarked

theorem Spelled.leads {start : Nat} {objects : List ObjectBlock} {tape : List UInt8}
    (spelled : Spelled start objects tape) (front : List UInt8) (placed : front.length = start) :
    ∀ object ∈ objects, object.block.endOfTape = true → Leads (front ++ trimmed tape) object.block.position := by
  induction spelled generalizing front with
  | blanks => exact fun _ member => nomatch member
  | @block start object objects bytes tape sound spelled position _ ih =>
    obtain ⟨ahead, rfl⟩ := spelled.ends
    rw [trimmed_append (by decide)]
    refine List.forall_mem_cons.mpr ⟨fun marked => ?_, ?_⟩
    · rw [position, ← placed]
      exact leads_spelling spelled marked front (trimmed tape)
    · rw [← List.append_assoc]
      exact ih _ (by rw [List.length_append, placed])

theorem Spelled.alike {objects : List ObjectBlock} {tape other : List UInt8} (spelled : Spelled 0 objects tape)
    (spelled' : Spelled 0 objects other) : Alike objects tape other := by
  have same : remarked objects (trimmed tape) = remarked objects (trimmed other) :=
    (spelled.remarked_trimmed [] rfl).trans (spelled'.remarked_trimmed [] rfl).symm
  constructor
  case length => rw [← length_remarked objects, same, length_remarked]
  case frames =>
    intro place
    by_cases marked : ∃ object ∈ objects, object.block.endOfTape = true ∧ object.block.position = place
    · obtain ⟨object, member, mark, rfl⟩ := marked
      exact .inr ⟨⟨object, member, mark, rfl⟩, spelled.leads [] rfl object member mark,
        spelled'.leads [] rfl object member mark⟩
    · rw [← getElem?_remarked _ marked, same, getElem?_remarked _ marked]
      exact .inl rfl

end Tape

theorem ObjectBlock.Sound.eq_of_words {object other : ObjectBlock} (sound : object.Sound) (sound' : other.Sound)
    (position : object.block.position = other.block.position) (leader : object.block.leader = other.block.leader)
    (words : object.block.words = other.block.words) : object = other := by
  have marked (one : ObjectBlock) (sound : one.Sound) : one.block.endOfTape = one.block.words.isEmpty := by
    cases mark : one.block.endOfTape with
    | true => rw [sound.wellFormed mark]; rfl
    | false => exact (List.isEmpty_eq_false_iff.mpr (sound.words_ne_nil mark)).symm
  have marks : object.block.endOfTape = other.block.endOfTape := by rw [marked _ sound, marked _ sound', words]
  have known : other.block.classify = .ok object.classification :=
    Block.classify_congr words.symm marks.symm sound.classified
  rw [sound'.classified] at known
  obtain ⟨⟨leader₁, words₁, mark₁, position₁⟩, kind₁⟩ := object
  obtain ⟨⟨leader₂, words₂, mark₂, position₂⟩, kind₂⟩ := other
  obtain rfl : leader₁ = leader₂ := leader
  obtain rfl : words₁ = words₂ := words
  obtain rfl : mark₁ = mark₂ := marks
  obtain rfl : position₁ = position₂ := position
  obtain rfl : kind₂ = kind₁ := Except.ok.inj known
  rfl

namespace Listing

open Text Reader

def summaryLine (blocks : Nat) : String := s!"{decimal blocks} blocks, 0 with a bad checksum"

theorem toList_summaryLine (blocks : Nat) :
    (summaryLine blocks).toList =
      (alignRight ' ' 0 (decimal blocks)).toList ++ ' ' :: "blocks, 0 with a bad checksum".toList := by
  have shown : summaryLine blocks = decimal blocks ++ " blocks, 0 with a bad checksum" := rfl
  simp [shown, toList_alignRight]

theorem single_summaryLine (blocks : Nat) : '\n' ∉ (summaryLine blocks).toList := by
  have column : '\n' ∉ (alignRight ' ' 0 (decimal blocks)).toList := not_mem_column 0 blocks rfl (by decide)
  rw [toList_summaryLine]
  simp [column]

theorem blockLine_ne_summaryLine (block : Block) (classification : Classification) (blocks : Nat) :
    blockLine block classification ≠ summaryLine blocks := by
  intro same
  have texts := congrArg String.toList same
  rw [toList_blockLine, toList_summaryLine] at texts
  have behind := (column_inj texts).2
  simp at behind

theorem objectLines_cons (object : ObjectBlock) (objects : List ObjectBlock) :
    objectLines true (object :: objects) =
      blockLine object.block object.classification :: (wordLines object.block.words ++ objectLines true objects) := rfl

theorem single_objectLines (objects : List ObjectBlock) : ∀ line ∈ objectLines true objects, '\n' ∉ line.toList := by
  intro line member
  obtain ⟨object, -, shown⟩ := List.mem_flatMap.mp member
  rcases List.mem_cons.mp shown with rfl | shown
  · exact single_blockLine _ _
  · exact single_wordLines _ line shown

/-- The lines of sound blocks, with their words and the number of blocks behind them, tell the blocks. -/
theorem objectLines_inj {objects others : List ObjectBlock} {count count' : Nat}
    (sound : ∀ object ∈ objects, object.Sound) (sound' : ∀ object ∈ others, object.Sound)
    (same : objectLines true objects ++ [summaryLine count] = objectLines true others ++ [summaryLine count']) :
    objects = others := by
  induction objects generalizing others with
  | nil =>
    cases others with
    | nil => rfl
    | cons other others => exact absurd (List.cons.inj same).1.symm (blockLine_ne_summaryLine _ _ _)
  | cons object objects ih =>
    cases others with
    | nil => exact absurd (List.cons.inj same).1 (blockLine_ne_summaryLine _ _ _)
    | cons other others =>
      obtain ⟨first, sound⟩ := List.forall_mem_cons.mp sound
      obtain ⟨first', sound'⟩ := List.forall_mem_cons.mp sound'
      rw [objectLines_cons, objectLines_cons, List.cons_append, List.cons_append, List.append_assoc,
        List.append_assoc] at same
      obtain ⟨line, lines⟩ := List.cons.inj same
      obtain ⟨position, leader, -, count⟩ := blockLine_inj line
      obtain ⟨words, rest⟩ := List.append_inj lines (by rw [length_wordLines, length_wordLines, count])
      rw [ih sound sound' rest, first.eq_of_words first' position leader (wordLines_inj words)]

theorem exit_ofAttempts (options : Options) (attempts : List Attempt) (blocks : Nat) {bad : Nat} (some_bad : bad ≠ 0) :
    (ofAttempts options attempts blocks bad).exit = 1 := by
  induction attempts generalizing blocks bad with
  | nil => exact if_neg some_bad
  | cons attempt rest ih =>
    rw [ofAttempts]
    split
    · split
      · exact ih _ some_bad
      · rfl
    · split
      · exact if_neg some_bad
      · split
        · exact ih _ (Nat.succ_ne_zero bad)
        · rfl

theorem ofAttempts_exit (options : Options) (attempts : List Attempt) (blocks : Nat)
    (done : (ofAttempts options attempts blocks 0).exit = 0) :
    ofAttempts options attempts blocks 0 = ofAttempts { options with keepGoing := false } attempts blocks 0 := by
  induction attempts generalizing blocks with
  | nil => rfl
  | cons attempt rest ih =>
    obtain ⟨outcome, offset⟩ := attempt
    cases outcome with
    | ok block =>
      cases classified : block.classify with
      | ok classification =>
        rw [ofAttempts_ok _ _ _ _ _ classified] at done ⊢
        rw [ofAttempts_ok _ _ _ _ _ classified, ih (blocks + 1) done]
        rfl
      | error error => rw [ofAttempts_unknown _ _ _ _ _ classified, ofAttempts_unknown _ _ _ _ _ classified]
    | error error =>
      simp only [ofAttempts, Bool.false_and, Bool.false_eq_true, if_false] at done ⊢
      split
      · rfl
      · rename_i unclean
        rw [if_neg unclean] at done
        split
        · rename_i onward
          rw [if_pos onward, exit_ofAttempts _ _ _ (Nat.succ_ne_zero 0)] at done
          cases done
        · rfl

structure Shows (files : FileSystem) (arguments : List String) (tape : List UInt8) : Prop where
  request : ∃ keepGoing path, Request.ofArguments {} "" arguments = .list { words := true, keepGoing } path ∧
    files.openEntry path = .ok (.file tape)
  exit : (run files arguments).exit = 0

theorem Shows.read {files : FileSystem} {arguments : List String} {tape : List UInt8}
    (shown : Shows files arguments tape) (name : String) :
    ∃ objects, ObjectFile.read (.ofBytes tape) (.named name) = .ok () { name, blocks := objects } ∧
      Tape.Spelled 0 objects tape ∧
      (run files arguments).lines = objectLines true objects ++ [summaryLine objects.length] := by
  obtain ⟨⟨keepGoing, path, request, opened⟩, done⟩ := shown
  have listed : run files arguments = ofReader { words := true, keepGoing } (.ofBytes tape) := by
    simp only [run, request, opened]
    rfl
  rw [listed] at done ⊢
  have plain : ofReader { words := true, keepGoing } (.ofBytes tape) = _ := ofAttempts_exit _ _ _ done
  rw [plain] at done ⊢
  have same : ofReader { words := true } (.ofBytes tape) = _ := ofReader_eq true (.ofBytes tape) name
  rw [← ofReader, same] at done ⊢
  cases read : ObjectFile.read (.ofBytes tape) (.named name) with
  | error error file =>
    rw [read] at done
    cases done
  | ok _ file =>
    obtain ⟨complete, rfl⟩ := ObjectFile.read_named_eq_ok.mp read
    exact ⟨_, rfl, Tape.spelled_of_ofReader tape 0 complete, rfl⟩

/-- Tapes whose complete listings with words look the same are read as the same blocks, and differ in nothing but the
    blank frames at their ends and the leads of end-of-tape marks. -/
theorem text_determines {files others : FileSystem} {arguments arguments' : List String} {tape other : List UInt8}
    (shown : Shows files arguments tape) (shown' : Shows others arguments' other)
    (same : (run files arguments).text = (run others arguments').text) (name : String) :
    ∃ objects, ObjectFile.read (.ofBytes tape) (.named name) = .ok () { name, blocks := objects } ∧
      ObjectFile.read (.ofBytes other) (.named name) = .ok () { name, blocks := objects } ∧
      Tape.Alike objects tape other := by
  obtain ⟨objects, read, spelled, lines⟩ := shown.read name
  obtain ⟨objects', read', spelled', lines'⟩ := shown'.read name
  have single (objects : List ObjectBlock) :
      ∀ line ∈ objectLines true objects ++ [summaryLine objects.length], '\n' ∉ line.toList :=
    List.forall_mem_append.mpr ⟨single_objectLines objects, List.forall_mem_singleton.mpr (single_summaryLine _)⟩
  rw [text, text, lines, lines'] at same
  have shownAlike := lines_inj (single objects) (single objects') same
  obtain rfl := objectLines_inj spelled.sound spelled'.sound shownAlike
  exact ⟨objects, read, read', spelled.alike spelled'⟩

def usualTape : List UInt8 := [0x00, 0x81, 0x81, 0x80, 0x84, 0x81, 0x80, 0x84, 0x93, 0xFF, 0x83, 0x93, 0xFF]

def alternateTape : List UInt8 :=
  [0x00, 0x81, 0x81, 0x80, 0x84, 0x81, 0x80, 0x84, 0x93, 0xFF, 0xFF, 0x93, 0xFF, 0x00, 0x00]

def twinFiles : FileSystem where
  working := ["tmp"]
  entries := [(["tmp", "sin.tap"], .file usualTape), (["tmp", "cos.tap"], .file alternateTape)]

def twinListing : Listing where
  lines := ["       1  leader    1  type 1/00    1 words  absolute program words", "          010004",
    "      10  leader    0  type 0/00    0 words  end of tape", "2 blocks, 0 with a bad checksum"]
  errors := []
  exit := 0

theorem text_determines_twins :
    Shows twinFiles ["-w", "sin.tap"] usualTape ∧ Shows twinFiles ["-k", "cos.tap", "--words"] alternateTape ∧
      (run twinFiles ["-w", "sin.tap"]).text = (run twinFiles ["-k", "cos.tap", "--words"]).text ∧
      ∃ objects, ObjectFile.read (.ofBytes usualTape) (.named "sin.tap") = .ok () ⟨"sin.tap", 0, objects⟩ ∧
        ObjectFile.read (.ofBytes alternateTape) (.named "sin.tap") = .ok () ⟨"sin.tap", 0, objects⟩ ∧
        Tape.Alike objects usualTape alternateTape := by
  have usualRequest : Request.ofArguments {} "" ["-w", "sin.tap"] = .list { words := true } "sin.tap" := by cbv
  have alternateRequest : Request.ofArguments {} "" ["-k", "cos.tap", "--words"] =
      .list { words := true, keepGoing := true } "cos.tap" := by
    cbv
  have usualOpened : twinFiles.openEntry "sin.tap" = .ok (.file usualTape) := by rfl
  have alternateOpened : twinFiles.openEntry "cos.tap" = .ok (.file alternateTape) := by rfl
  have first : run twinFiles ["-w", "sin.tap"] = twinListing := by
    simp only [run, usualRequest, usualOpened]
    cbv
  have second : run twinFiles ["-k", "cos.tap", "--words"] = twinListing := by
    simp only [run, alternateRequest, alternateOpened]
    cbv
  have usual : Shows twinFiles ["-w", "sin.tap"] usualTape :=
    ⟨⟨false, _, usualRequest, usualOpened⟩, congrArg exit first⟩
  have alternate : Shows twinFiles ["-k", "cos.tap", "--words"] alternateTape :=
    ⟨⟨true, _, alternateRequest, alternateOpened⟩, congrArg exit second⟩
  have same : (run twinFiles ["-w", "sin.tap"]).text = (run twinFiles ["-k", "cos.tap", "--words"]).text := by
    rw [first, second]
  exact ⟨usual, alternate, same, text_determines usual alternate same "sin.tap"⟩

end Listing

end PaperTape
