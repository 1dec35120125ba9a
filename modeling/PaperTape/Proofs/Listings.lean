import PaperTape.Listing.Command
import PaperTape.Proofs.Faults

namespace PaperTape

theorem FileSystem.isEmpty_of_openEntry {files : FileSystem} {path : String} {entry : Entry}
    (opened : files.openEntry path = .ok entry) : path.isEmpty = false := by
  rw [Bool.eq_false_iff]
  intro empty
  rw [String.isEmpty_iff] at empty
  subst empty
  simp [openEntry, resolve, walk] at opened
  cases opened

namespace Listing

open Reader

def objectLines (words : Bool) (objects : List ObjectBlock) : List String :=
  objects.flatMap fun object => blockLines { words } object.block object.classification

def ofRead (words : Bool) : EStateM.Result TapeError ObjectFile Unit → Listing
  | .ok () file =>
    ⟨objectLines words file.blocks ++ [s!"{Text.decimal file.blocks.length} blocks, 0 with a bad checksum"], [], 0⟩
  | .error error file => ⟨objectLines words file.blocks, ["error: " ++ error.text], 1⟩

def preceded (lines : List String) (listing : Listing) : Listing :=
  { listing with lines := lines ++ listing.lines }

def ending (blocks : Nat) : Option TapeError → Listing
  | none => summary blocks 0
  | some error => refusal error.text

theorem preceded_append (front back : List String) (listing : Listing) :
    listing.preceded (front ++ back) = (listing.preceded back).preceded front := by
  simp only [preceded, List.append_assoc]

theorem ofAttempts_ok (options : Options) {block : Block} {classification : Classification} (offset : Nat)
    (rest : List Attempt) (blocks bad : Nat) (classified : block.classify = .ok classification) :
    ofAttempts options (⟨.ok block, offset⟩ :: rest) blocks bad =
      (ofAttempts options rest (blocks + 1) bad).preceded (blockLines options block classification) := by
  simp only [ofAttempts, classified]
  rfl

theorem ofAttempts_unknown (options : Options) {block : Block} {error : TapeError} (offset : Nat)
    (rest : List Attempt) (blocks bad : Nat) (refused : block.classify = .error error) :
    ofAttempts options (⟨.ok block, offset⟩ :: rest) blocks bad = refusal error.text := by
  simp only [ofAttempts, refused]

theorem ofAttempts_error (words : Bool) (error : TapeError) (offset : Nat) (rest : List Attempt) (blocks : Nat) :
    ofAttempts { words } (⟨.error error, offset⟩ :: rest) blocks 0 =
      ending blocks (if error.isCleanEnd then none else some error) := by
  simp only [ofAttempts, Bool.false_and, Bool.false_eq_true, if_false]
  cases error.isCleanEnd <;> rfl

/-- Listing and reading go through the same attempts in step: each block that is kept is shown, and both stop at
    the same attempt. -/
theorem ofAttempts_eq (words : Bool) (attempts : List Attempt) (blocks : Nat) :
    let reading := Reading.ofAttempts attempts
    ofAttempts { words } attempts blocks 0 =
      (ending (blocks + reading.blocks.length) reading.failure).preceded (objectLines words reading.blocks) := by
  induction attempts generalizing blocks with
  | nil => rfl
  | cons attempt rest ih =>
    obtain ⟨outcome, offset⟩ := attempt
    cases outcome with
    | error error => exact ofAttempts_error words error offset rest blocks
    | ok block =>
      cases made : ObjectBlock.ofBlock block with
      | error error =>
        rw [ofAttempts_unknown _ _ _ _ _ (ObjectBlock.ofBlock_eq_error.mp made)]
        simp only [Reading.ofAttempts, made]
        rfl
      | ok object =>
        obtain ⟨rfl, classified⟩ := ObjectBlock.ofBlock_eq_ok.mp made
        rw [ofAttempts_ok _ _ _ _ _ classified, ih]
        simp only [Reading.ofAttempts, made, List.length_cons]
        rw [← preceded_append, Nat.add_right_comm blocks 1, ← Nat.add_assoc]
        rfl

theorem summary_clean (blocks : Nat) :
    summary blocks 0 = ⟨[s!"{Text.decimal blocks} blocks, 0 with a bad checksum"], [], 0⟩ := by
  have none_bad : Text.decimal 0 = "0" := by rfl
  simp only [summary, none_bad, if_true]
  rw [String.append_assoc, String.append_assoc]
  rfl

theorem ofReader_eq (words : Bool) (reader : Reader) (name : String) :
    ofReader { words } reader = ofRead words (ObjectFile.read reader (.named name)) := by
  rw [ofReader, ofAttempts_eq, Nat.zero_add, ← Reading.ofReader]
  unfold ObjectFile.read
  cases failure : (Reading.ofReader reader).failure with
  | none => simp only [failure, ending, summary_clean, preceded, ofRead, ObjectFile.named, List.nil_append]
  | some error =>
    simp only [failure, ending, refusal, preceded, ofRead, ObjectFile.named, List.nil_append, List.append_nil]

def AsksForWords (flag : String) : Prop := flag = "-w" ∨ flag = "--words"

def AsksToKeepGoing (flag : String) : Prop := flag = "-k" ∨ flag = "--keep-going"

instance : DecidablePred AsksForWords := fun flag => inferInstanceAs (Decidable (flag = "-w" ∨ flag = "--words"))

instance : DecidablePred AsksToKeepGoing := fun flag => inferInstanceAs (Decidable (flag = "-k" ∨ flag = "--keep-going"))

def Options.asked (options : Options) (flags : List String) : Options where
  words := options.words || flags.any (AsksForWords ·)
  keepGoing := options.keepGoing || flags.any (AsksToKeepGoing ·)

theorem Options.asked_cons (options : Options) (flag : String) (flags : List String) :
    (options.asked [flag]).asked flags = options.asked (flag :: flags) := by
  simp [asked, Bool.or_assoc]

theorem Options.asked_words {flags : List String} (asking : ∀ flag ∈ flags, AsksForWords flag) :
    asked {} flags = { words := !flags.isEmpty } := by
  have onward : flags.any (AsksToKeepGoing ·) = false := by
    rw [List.any_eq_false]
    intro flag member
    rcases asking flag member with rfl | rfl <;> decide
  have words : flags.any (AsksForWords ·) = !flags.isEmpty := by
    cases flags with
    | nil => rfl
    | cons flag flags => simp [asking flag (List.mem_cons_self ..)]
  rw [asked, onward, words]
  rfl

namespace Request

theorem ofArguments_flags (options : Options) (file : String) (rest : List String) {flags : List String}
    (known : ∀ flag ∈ flags, AsksForWords flag ∨ AsksToKeepGoing flag) :
    ofArguments options file (flags ++ rest) = ofArguments (options.asked flags) file rest := by
  induction flags generalizing options with
  | nil => simp [Options.asked]
  | cons flag flags ih =>
    have step : ofArguments options file (flag :: (flags ++ rest)) =
        ofArguments (options.asked [flag]) file (flags ++ rest) := by
      obtain ⟨words, keepGoing⟩ := options
      rcases known flag (List.mem_cons_self ..) with (rfl | rfl) | (rfl | rfl) <;> cases words <;> cases keepGoing <;> rfl
    rw [List.cons_append, step, ih _ fun flag member => known flag (List.mem_cons_of_mem _ member), Options.asked_cons]

theorem ofArguments_path (options : Options) {path : String} (rest : List String)
    (unflagged : path.startsWith "-" = false) :
    ofArguments options "" (path :: rest) = ofArguments options path rest := by
  have other (flag : String) (flagged : flag.startsWith "-" = true) : (path == flag) = false := by
    rw [beq_eq_false_iff_ne]
    rintro rfl
    rw [unflagged] at flagged
    cases flagged
  rw [ofArguments]
  simp [other, unflagged]

theorem ofArguments_surrounding {path : String} (named : path.isEmpty = false) (unflagged : path.startsWith "-" = false)
    {before after : List String} (known : ∀ flag ∈ before ++ after, AsksForWords flag ∨ AsksToKeepGoing flag) :
    ofArguments {} "" (before ++ path :: after) = .list (Options.asked {} (before ++ after)) path := by
  obtain ⟨known_before, known_after⟩ := List.forall_mem_append.mp known
  have both : (Options.asked {} before).asked after = Options.asked {} (before ++ after) := by simp [Options.asked]
  have behind := ofArguments_flags (Options.asked {} before) path [] known_after
  rw [List.append_nil] at behind
  rw [ofArguments_flags _ _ _ known_before, ofArguments_path _ _ unflagged, behind, both, ofArguments, named]
  rfl

theorem ofArguments_around {path : String} (named : path.isEmpty = false) (unflagged : path.startsWith "-" = false)
    {before after : List String} (asking : ∀ flag ∈ before ++ after, AsksForWords flag) :
    ofArguments {} "" (before ++ path :: after) = .list { words := !(before ++ after).isEmpty } path := by
  rw [ofArguments_surrounding named unflagged fun flag member => .inl (asking flag member), Options.asked_words asking]

end Request

/-- A tape that can be opened is listed as it is read, with its words if there is a flag that asks for them. -/
theorem run_reads {files : FileSystem} {path : String} {entry : FileSystem.Entry}
    (opened : files.openEntry path = .ok entry) (unflagged : path.startsWith "-" = false)
    {before after : List String} (asking : ∀ flag ∈ before ++ after, AsksForWords flag) (name : String) :
    run files (before ++ path :: after) =
      ofRead (!(before ++ after).isEmpty) (ObjectFile.read entry.reader (.named name)) := by
  have request := Request.ofArguments_around (FileSystem.isEmpty_of_openEntry opened) unflagged asking
  simp only [run, request, opened, ofReader_eq _ _ name]

def strayTape : List UInt8 := [0x00, 0x81, 0x81, 0x80, 0x84, 0x81, 0x80, 0x84, 0x93, 0xFF, 0x42]

def strayFiles : FileSystem := { working := ["tmp"], entries := [(["tmp", "sin.tap"], .file strayTape)] }

theorem run_reads_stray :
    strayFiles.openEntry "sin.tap" = .ok (.file strayTape) ∧ "sin.tap".startsWith "-" = false ∧
      (∀ flag ∈ ["--words"] ++ [], AsksForWords flag) ∧
      run strayFiles ["--words", "sin.tap"] =
        ⟨["       1  leader    1  type 1/00    1 words  absolute program words", "          010004"],
          ["error: missing start marker: found 0x42 after the leader (offset 10)"], 1⟩ := by
  have opened : strayFiles.openEntry "sin.tap" = .ok (.file strayTape) := by rfl
  have unflagged : "sin.tap".startsWith "-" = false := by cbv
  have asking : ∀ flag ∈ ["--words"] ++ [], AsksForWords flag := by simp [AsksForWords]
  have kept : ObjectFile.read (.ofBytes strayTape) (.named "sin.tap") =
      .error (.strayAfterLeader 10 0x42) ⟨"sin.tap", 0, [⟨⟨1, [0x1004], false, 1⟩, ⟨1, 0, .absoluteWords⟩⟩]⟩ := by
    cbv
  have listed := run_reads opened unflagged asking "sin.tap"
  rw [FileSystem.Entry.reader, kept] at listed
  refine ⟨opened, unflagged, asking, listed.trans ?_⟩
  cbv

end Listing

end PaperTape
