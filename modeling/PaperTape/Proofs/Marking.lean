import PaperTape.Proofs.Codec
import PaperTape.Proofs.Truncation

namespace PaperTape

namespace Frame

structure Plain (frame : UInt8) : Prop where
  eighth : frame &&& channel8 ≠ 0
  unreserved : frame &&& lowerChannels ∉ reserved

theorem plain_iff {frame : UInt8} : Plain frame ↔ frame &&& channel8 ≠ 0 ∧ frame &&& lowerChannels ∉ reserved :=
  ⟨fun plain => ⟨plain.eighth, plain.unreserved⟩, fun both => ⟨both.1, both.2⟩⟩

instance (frame : UInt8) : Decidable (Plain frame) := decidable_of_iff _ plain_iff.symm

theorem Holds.plain {channels frame : UInt8} (holds : Holds channels frame) : Plain frame :=
  ⟨holds.eighth, holds.unreserved⟩

/-- ENQ, LF and DC1 with channel 8 punched. -/
def controls : List UInt8 := [0x85, 0x8A, 0x91]

theorem Plain.ne_of {frame other : UInt8} (plain : Plain frame) (control : ¬ Plain other) : frame ≠ other := by
  rintro rfl
  exact control plain

theorem Plain.ne_blank {frame : UInt8} (plain : Plain frame) : frame ≠ blank := plain.ne_of (by decide)

theorem Plain.ne_midBlockMarker {frame : UInt8} (plain : Plain frame) : frame ≠ midBlockMarker :=
  plain.ne_of (by decide)

theorem Plain.not_mem_controls {frame : UInt8} (plain : Plain frame) : frame ∉ controls := by
  intro member
  simp only [controls, List.mem_cons, List.not_mem_nil, or_false] at member
  rcases member with rfl | rfl | rfl <;> exact absurd plain (by decide)

end Frame

theorem Word.plain_frames (word : UInt16) : ∀ frame ∈ frames word, Frame.Plain frame := by
  obtain ⟨first, second, third, same, held1, held2, held3⟩ := legible word
  rw [same]
  simp only [List.forall_mem_cons]
  exact ⟨held1.plain, held2.plain, held3.plain, List.forall_mem_nil _⟩

namespace Block

open PaperTape.Frame

theorem exists_front (block : Block) :
    ∃ front, block.body = front ++ [midBlockMarker, terminator] ∧ ∀ frame ∈ front, Plain frame := by
  unfold body
  split
  · exact ⟨[endOfTapeMarker], rfl, List.forall_mem_singleton.mpr (by decide)⟩
  · refine ⟨startMarker :: (block.words ++ [block.checksum]).flatMap Word.frames, rfl, ?_⟩
    refine List.forall_mem_cons.mpr ⟨by decide, fun frame member => ?_⟩
    obtain ⟨word, -, punched⟩ := List.mem_flatMap.mp member
    exact Word.plain_frames word frame punched

theorem three_le_extent (block : Block) : 3 ≤ block.extent := by
  unfold extent
  split <;> omega

theorem ne_blank_of_mem_body (block : Block) : ∀ frame ∈ block.body, frame ≠ blank := by
  obtain ⟨front, same, plain⟩ := block.exists_front
  rw [same, List.forall_mem_append]
  refine ⟨fun frame member => (plain frame member).ne_blank, ?_⟩
  exact List.forall_mem_cons.mpr ⟨by decide, List.forall_mem_singleton.mpr (by decide)⟩

theorem getElem?_bytes_blank (block : Block) (place : Nat) :
    block.bytes[place]? = some blank ↔ place < block.leader := by
  rw [bytes, List.getElem?_append, List.length_replicate]
  split
  · rename_i leading
    simp [leading]
  · rename_i behind
    refine ⟨fun found => ?_, fun leading => absurd leading behind⟩
    exact absurd rfl (block.ne_blank_of_mem_body blank (List.mem_of_getElem? found))

theorem getElem?_bytes_last (block : Block) : block.bytes[block.leader + block.extent - 1]? = some terminator := by
  obtain ⟨front, same, -⟩ := block.exists_front
  have length := block.length_bytes
  rw [← length, bytes, same, ← List.append_assoc, List.length_append, List.length_cons, List.length_singleton,
    Nat.add_sub_assoc (by decide), List.getElem?_append_right (Nat.le_add_right ..), Nat.add_sub_cancel_left]
  rfl

theorem getElem?_bytes_midBlockMarker (block : Block) (place : Nat) :
    block.bytes[place]? = some midBlockMarker ↔ place + 2 = block.leader + block.extent := by
  obtain ⟨front, same, plain⟩ := block.exists_front
  have inner : midBlockMarker ∉ List.replicate block.leader blank ++ front := by
    rw [List.mem_append, not_or]
    refine ⟨fun member => absurd (List.eq_of_mem_replicate member) (by decide), fun member => ?_⟩
    exact (plain _ member).ne_midBlockMarker rfl
  have length := block.length_bytes
  rw [bytes, same, ← List.append_assoc] at length ⊢
  generalize List.replicate block.leader blank ++ front = ahead at inner length ⊢
  rw [← length, List.length_append, List.getElem?_append]
  split
  · rename_i within
    refine ⟨fun found => absurd (List.mem_of_getElem? found) inner, fun stop => ?_⟩
    rw [List.length_cons, List.length_singleton] at stop
    omega
  · rename_i behind
    obtain ⟨rest, rfl⟩ := Nat.exists_eq_add_of_le (Nat.le_of_not_lt behind)
    rw [Nat.add_sub_cancel_left]
    rcases rest with _ | _ | rest
    · simp
    · simp [midBlockMarker, terminator]
    · simp

theorem count_midBlockMarker (block : Block) : block.bytes.count midBlockMarker = 1 := by
  obtain ⟨front, same, plain⟩ := block.exists_front
  have leader : (List.replicate block.leader blank).count midBlockMarker = 0 := by
    rw [List.count_eq_zero]
    exact fun member => absurd (List.eq_of_mem_replicate member) (by decide)
  have words : front.count midBlockMarker = 0 := by
    rw [List.count_eq_zero]
    exact fun member => (plain _ member).ne_midBlockMarker rfl
  rw [bytes, same, List.count_append, List.count_append, leader, words]
  rfl

theorem mem_bytes (block : Block) {frame : UInt8} (member : frame ∈ block.bytes) :
    frame ∉ controls ∧ (frame ≠ blank → frame &&& channel8 ≠ 0) := by
  obtain ⟨front, same, plain⟩ := block.exists_front
  rw [bytes, same, List.mem_append, List.mem_append] at member
  rcases member with member | member | member
  · rw [List.eq_of_mem_replicate member]
    decide
  · exact ⟨(plain frame member).not_mem_controls, fun _ => (plain frame member).eighth⟩
  · simp only [List.mem_cons, List.not_mem_nil, or_false] at member
    rcases member with rfl | rfl <;> decide

end Block

namespace ObjectBlock

theorem le_position_placed (start : Nat) (objects : List ObjectBlock) :
    ∀ object ∈ placed start objects, start + object.block.leader ≤ object.block.position := by
  induction objects generalizing start with
  | nil => exact fun _ member => nomatch member
  | cons first objects ih =>
    refine List.forall_mem_cons.mpr ⟨Nat.le_refl _, fun object member => ?_⟩
    have behind := ih _ object member
    omega

theorem getElem?_placed (start : Nat) (objects : List ObjectBlock) (place : Nat) (frame : UInt8) :
    (objects.flatMap (·.block.bytes))[place]? = some frame ↔
      ∃ object ∈ placed start objects, ∃ inside,
        start + place + object.block.leader = object.block.position + inside ∧
          object.block.bytes[inside]? = some frame := by
  induction objects generalizing start place with
  | nil => simp [placed]
  | cons first objects ih =>
    have length := first.block.length_bytes
    rw [List.flatMap_cons]
    constructor
    · intro found
      rw [List.getElem?_append] at found
      split at found
      · exact ⟨_, List.mem_cons_self .., place, by simp only; omega, found⟩
      · obtain ⟨object, member, inside, same, held⟩ := (ih (start + first.block.leader + first.block.extent) _).mp found
        exact ⟨object, List.mem_cons_of_mem _ member, inside, by omega, held⟩
    · rintro ⟨object, member, inside, same, held⟩
      rcases List.mem_cons.mp member with rfl | member
      · obtain rfl : place = inside := by simp only at same; omega
        exact (List.getElem?_append_left (List.getElem?_eq_some_iff.mp held).1).trans held
      · have behind := le_position_placed _ objects object member
        rw [List.getElem?_append_right (by omega)]
        exact (ih (start + first.block.leader + first.block.extent) _).mpr ⟨object, member, inside, by omega, held⟩

end ObjectBlock

namespace ObjectFile

open PaperTape.Frame ObjectBlock

theorem length_bytes (file : ObjectFile) :
    file.bytes.length = (file.blocks.map fun object => object.block.leader + object.block.extent).sum + file.trailing := by
  simp only [bytes, List.length_append, List.length_flatMap, List.length_replicate, Block.length_bytes]

theorem count_midBlockMarker (file : ObjectFile) : file.bytes.count midBlockMarker = file.blocks.length := by
  have trailer : (List.replicate file.trailing blank).count midBlockMarker = 0 := by
    rw [List.count_eq_zero]
    exact fun member => absurd (List.eq_of_mem_replicate member) (by decide)
  simp only [bytes, List.count_append, trailer, List.count_flatMap, Function.comp_def, Block.count_midBlockMarker]
  simp

theorem getElem?_bytes (file : ObjectFile) (place : Nat) (frame : UInt8) :
    file.bytes[place]? = some frame ↔
      (∃ object ∈ placed 0 file.blocks, ∃ inside,
        place + object.block.leader = object.block.position + inside ∧ object.block.bytes[inside]? = some frame) ∨
      frame = blank ∧ place < file.bytes.length ∧ file.bytes.length ≤ place + file.trailing := by
  have blocks := getElem?_placed 0 file.blocks place frame
  rw [Nat.zero_add] at blocks
  rw [← blocks, bytes, List.length_append, List.length_replicate, List.getElem?_append]
  split
  · rename_i within
    refine ⟨.inl, fun either => either.resolve_right fun trailer => ?_⟩
    omega
  · rename_i behind
    rw [List.getElem?_eq_none (Nat.le_of_not_lt behind), List.getElem?_replicate]
    simp only [Option.ite_none_right_eq_some, Option.some.injEq, reduceCtorEq, false_or]
    constructor
    · rintro ⟨within, rfl⟩
      exact ⟨rfl, by omega, by omega⟩
    · rintro ⟨rfl, within, -⟩
      exact ⟨by omega, rfl⟩

theorem mem_bytes (file : ObjectFile) {frame : UInt8} (member : frame ∈ file.bytes) :
    frame ∉ controls ∧ (frame ≠ blank → frame &&& channel8 ≠ 0) := by
  rcases List.mem_append.mp member with member | member
  · obtain ⟨object, -, punched⟩ := List.mem_flatMap.mp member
    exact object.block.mem_bytes punched
  · rw [List.eq_of_mem_replicate member]
    decide

theorem getElem?_bytes_midBlockMarker (file : ObjectFile) (place : Nat) :
    file.bytes[place]? = some midBlockMarker ↔ ∃ object ∈ placed 0 file.blocks, place + 2 = object.block.stop := by
  rw [getElem?_bytes]
  constructor
  · rintro (⟨object, member, inside, same, held⟩ | ⟨marker, -⟩)
    · rw [Block.getElem?_bytes_midBlockMarker] at held
      exact ⟨object, member, by rw [Block.stop]; omega⟩
    · cases marker
  · rintro ⟨object, member, stop⟩
    rw [Block.stop] at stop
    have filled := object.block.three_le_extent
    refine .inl ⟨object, member, object.block.leader + object.block.extent - 2, by omega, ?_⟩
    rw [Block.getElem?_bytes_midBlockMarker]
    omega

theorem getElem?_bytes_last (file : ObjectFile) {object : ObjectBlock} (member : object ∈ placed 0 file.blocks) :
    file.bytes[object.block.stop - 1]? = some terminator := by
  have filled := object.block.three_le_extent
  rw [getElem?_bytes, Block.stop]
  exact .inl ⟨object, member, _, by omega, object.block.getElem?_bytes_last⟩

theorem getElem?_bytes_blank (file : ObjectFile) (place : Nat) :
    file.bytes[place]? = some blank ↔
      (∃ object ∈ placed 0 file.blocks, object.block.position ≤ place + object.block.leader ∧
        place < object.block.position) ∨
      file.bytes.length ≤ place + file.trailing ∧ place < file.bytes.length := by
  rw [getElem?_bytes]
  simp only [Block.getElem?_bytes_blank, true_and]
  refine or_congr ⟨?_, ?_⟩ and_comm
  · rintro ⟨object, member, inside, same, leading⟩
    exact ⟨object, member, by omega, by omega⟩
  · rintro ⟨object, member, begun, leading⟩
    exact ⟨object, member, place + object.block.leader - object.block.position, by omega, by omega⟩

/-- Each block of a written tape has a mid-block marker and the terminator as its last two frames, and there are no
    other mid-block markers. Blank frames stand in leaders and in the trailer, all other frames have channel 8
    punched, and none is a control character. -/
theorem write_marked (file : ObjectFile) :
    let tape := file.bytes
    let blocks := placed 0 file.blocks
    Writer.Appends file.write tape ∧
      tape.length =
        (file.blocks.map fun object => object.block.leader + object.block.extent).sum + file.trailing ∧
      tape.count midBlockMarker = file.blocks.length ∧
      (∀ place, tape[place]? = some midBlockMarker ↔ ∃ object ∈ blocks, place + 2 = object.block.stop) ∧
      (∀ object ∈ blocks, tape[object.block.stop - 1]? = some terminator) ∧
      (∀ place, tape[place]? = some blank ↔
        (∃ object ∈ blocks, object.block.position ≤ place + object.block.leader ∧ place < object.block.position) ∨
          tape.length ≤ place + file.trailing ∧ place < tape.length) ∧
      ∀ frame ∈ tape, frame ∉ controls ∧ (frame ≠ blank → frame &&& channel8 ≠ 0) := by
  intro tape blocks
  exact ⟨file.appends_write, file.length_bytes, file.count_midBlockMarker, file.getElem?_bytes_midBlockMarker,
    fun _ => file.getElem?_bytes_last, file.getElem?_bytes_blank, fun _ => file.mem_bytes⟩

end ObjectFile

end PaperTape
