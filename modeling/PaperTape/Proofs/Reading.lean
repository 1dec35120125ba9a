import PaperTape.Object.File
import PaperTape.Proofs.Spelling

namespace PaperTape

theorem Block.classify_congr {block other : Block} {classification : Classification}
    (words : other.words = block.words) (mark : other.endOfTape = block.endOfTape)
    (known : block.classify = .ok classification) : other.classify = .ok classification := by
  unfold classify at *
  rw [words, mark]
  split
  · rename_i marked
    rwa [if_pos marked] at known
  · rename_i unmarked
    rw [if_neg unmarked] at known
    cases same : block.words with
    | nil => simp [same] at known
    | cons first rest =>
      cases found : Kind.find? (Word.high first) (Word.middle first) <;> simp_all

namespace ObjectBlock

structure Sound (object : ObjectBlock) : Prop where
  wellFormed : object.block.WellFormed
  classified : object.block.classify = .ok object.classification

theorem sound_iff {object : ObjectBlock} :
    object.Sound ↔ object.block.WellFormed ∧ object.block.classify.toOption = some object.classification := by
  have classified : object.block.classify.toOption = some object.classification ↔
      object.block.classify = .ok object.classification := by
    cases object.block.classify <;> simp [Except.toOption]
  rw [classified]
  exact ⟨fun sound => ⟨sound.wellFormed, sound.classified⟩, fun both => ⟨both.1, both.2⟩⟩

instance (object : ObjectBlock) : Decidable object.Sound := decidable_of_iff _ sound_iff.symm

theorem ofBlock_eq_ok {block : Block} {object : ObjectBlock} :
    ofBlock block = .ok object ↔ object.block = block ∧ block.classify = .ok object.classification := by
  unfold ofBlock
  cases block.classify with
  | error error => simp [Except.map]
  | ok classification =>
    obtain ⟨block', classification'⟩ := object
    simp [Except.map, eq_comm]

theorem Sound.made {object : ObjectBlock} (sound : object.Sound) : ofBlock object.block = .ok object :=
  ofBlock_eq_ok.mpr ⟨rfl, sound.classified⟩

theorem sound_of_ofBlock {block : Block} {object : ObjectBlock} (wellFormed : block.WellFormed)
    (made : ofBlock block = .ok object) : object.Sound := by
  obtain ⟨rfl, classified⟩ := ofBlock_eq_ok.mp made
  exact ⟨wellFormed, classified⟩

theorem Sound.place {object : ObjectBlock} (sound : object.Sound) (leader position : Nat) :
    Sound { object with block := { object.block with leader, position } } :=
  ⟨sound.wellFormed, Block.classify_congr (by rfl) (by rfl) sound.classified⟩

theorem sound_endMark : endMark.Sound := ⟨fun _ => rfl, rfl⟩

theorem Sound.words_ne_nil {object : ObjectBlock} (sound : object.Sound)
    (unmarked : object.block.endOfTape = false) : object.block.words ≠ [] := by
  intro empty
  have classified := sound.classified
  simp [Block.classify, unmarked, empty] at classified

def placed : Nat → List ObjectBlock → List ObjectBlock
  | _, [] => []
  | start, object :: rest =>
    let position := start + object.block.leader
    { object with block := { object.block with position } } :: placed (position + object.block.extent) rest

theorem placed_append (start : Nat) (front rest : List ObjectBlock) :
    placed start (front ++ rest) =
      placed start front ++ placed (start + (front.flatMap (·.block.bytes)).length) rest := by
  induction front generalizing start with
  | nil => rfl
  | cons object front ih =>
    rw [List.cons_append, placed, placed, ih, List.flatMap_cons, List.length_append, Block.length_bytes,
      List.cons_append]
    simp only [Nat.add_assoc]

end ObjectBlock

namespace Reader

theorem attempts_ok {reader left : Reader} {block : Block} (decoded : Block.decode reader = .ok block left) :
    reader.attempts = ⟨.ok block, left.offset⟩ :: left.attempts := by
  rw [attempts]
  split
  · rename_i same
    rw [decoded] at same
    cases same
    rfl
  · rename_i same
    rw [decoded] at same
    cases same

theorem attempts_error {reader left : Reader} {error : TapeError}
    (decoded : Block.decode reader = .error error left) :
    reader.attempts =
      ⟨.error error, left.offset⟩ :: if error.isCleanEnd then [] else left.attempts := by
  rw [attempts]
  split
  · rename_i same
    rw [decoded] at same
    cases same
  · rename_i same
    rw [decoded] at same
    cases same
    split <;> rfl

end Reader

namespace Reading

theorem ofReader_ok {reader left : Reader} {object : ObjectBlock}
    (decoded : Block.decode reader = .ok object.block left) (made : ObjectBlock.ofBlock object.block = .ok object) :
    (ofReader reader).blocks = object :: (ofReader left).blocks ∧
      (ofReader reader).failure = (ofReader left).failure := by
  rw [ofReader, Reader.attempts_ok decoded]
  simp only [ofAttempts, made]
  exact ⟨rfl, rfl⟩

theorem ofReader_refused {reader left : Reader} {block : Block} {error : TapeError}
    (decoded : Block.decode reader = .ok block left) (refused : ObjectBlock.ofBlock block = .error error) :
    ofReader reader = ⟨[], some error, [block.decoded]⟩ := by
  rw [ofReader, Reader.attempts_ok decoded]
  simp only [ofAttempts, refused]

theorem ofReader_error {reader left : Reader} {error : TapeError}
    (decoded : Block.decode reader = .error error left) :
    ofReader reader = ⟨[], if error.isCleanEnd then none else some error, []⟩ := by
  rw [ofReader, Reader.attempts_error decoded]
  rfl

theorem sound_ofReader (reader : Reader) : ∀ object ∈ (ofReader reader).blocks, object.Sound := by
  -- Each block takes something from the stream, so the induction is on what is left of it.
  induction size : reader.signals.length using Nat.strongRecOn generalizing reader with
  | ind size ih =>
    have consumes := Reader.decode_consumes reader
    cases decoded : Block.decode reader with
    | error error left => simp [ofReader_error decoded]
    | ok block left =>
      rw [decoded] at consumes
      cases made : ObjectBlock.ofBlock block with
      | error error => simp [ofReader_refused decoded made]
      | ok object =>
        obtain ⟨read, -, spelled, -⟩ := Block.decode_spelling decoded
        have sound := ObjectBlock.sound_of_ofBlock spelled.wellFormed made
        obtain ⟨rfl, -⟩ := ObjectBlock.ofBlock_eq_ok.mp made
        rw [(ofReader_ok decoded made).1]
        intro other member
        rcases List.mem_cons.mp member with rfl | member
        · exact sound
        · exact ih _ (size ▸ consumes) left rfl other member

theorem ofReader_blanks (count start : Nat) :
    (ofReader ⟨(List.replicate count Frame.blank).map .byte, start⟩).blocks = [] ∧
      (ofReader ⟨(List.replicate count Frame.blank).map .byte, start⟩).failure = none := by
  rw [ofReader_error (Block.decode_blanks count start)]
  exact ⟨rfl, rfl⟩

theorem ofReader_tape (objects : List ObjectBlock) (sound : ∀ object ∈ objects, object.Sound)
    (trailing start : Nat) :
    let tape := objects.flatMap (·.block.bytes) ++ List.replicate trailing Frame.blank
    (ofReader ⟨tape.map .byte, start⟩).blocks = ObjectBlock.placed start objects ∧
      (ofReader ⟨tape.map .byte, start⟩).failure = none := by
  induction objects generalizing start with
  | nil => exact ofReader_blanks trailing start
  | cons object objects ih =>
    have first := sound object (List.mem_cons_self ..)
    have moved := (first.place object.block.leader (start + object.block.leader)).made
    have tail := ih (fun other member => sound other (List.mem_cons_of_mem _ member))
      (start + object.block.bytes.length)
    have decoded := object.block.decode_bytes first.wellFormed
      ((objects.flatMap (·.block.bytes) ++ List.replicate trailing Frame.blank).map .byte) start
    have read := ofReader_ok decoded moved
    simp only [List.flatMap_cons, List.append_assoc, List.map_append] at read tail ⊢
    rw [read.1, read.2, tail.1, tail.2, Block.length_bytes, ← Nat.add_assoc]
    exact ⟨rfl, rfl⟩

end Reading

namespace ObjectFile

def Sound (file : ObjectFile) : Prop := ∀ object ∈ file.blocks, object.Sound

instance (file : ObjectFile) : Decidable file.Sound := inferInstanceAs (Decidable (∀ object ∈ file.blocks, object.Sound))

theorem read_eq_ok {reader : Reader} {file after : ObjectFile} :
    read reader file = .ok () after ↔
      (Reading.ofReader reader).failure = none ∧
        after = { file with blocks := file.blocks ++ (Reading.ofReader reader).blocks } := by
  unfold read
  cases failure : (Reading.ofReader reader).failure with
  | none =>
    simp only [failure, true_and]
    constructor
    · rintro ⟨rfl⟩
      rfl
    · rintro rfl
      rfl
  | some error => simp [failure]

theorem read_named_eq_ok {reader : Reader} {name : String} {file : ObjectFile} :
    read reader (named name) = .ok () file ↔
      (Reading.ofReader reader).failure = none ∧ file = { name, blocks := (Reading.ofReader reader).blocks } :=
  read_eq_ok

theorem read_tape (objects : List ObjectBlock) (sound : ∀ object ∈ objects, object.Sound) (trailing : Nat)
    (name : String) :
    read (.ofBytes (objects.flatMap (·.block.bytes) ++ List.replicate trailing Frame.blank)) (named name) =
      .ok () { name, blocks := ObjectBlock.placed 0 objects } := by
  obtain ⟨blocks, complete⟩ := Reading.ofReader_tape objects sound trailing 0
  apply read_named_eq_ok.mpr
  refine ⟨complete, ?_⟩
  rw [Reader.ofBytes, Reader.ofSignals, blocks]

end ObjectFile

end PaperTape
