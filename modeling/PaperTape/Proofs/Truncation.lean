import PaperTape.Proofs.Reachable
import PaperTape.Proofs.Scanning

namespace PaperTape

namespace Block

open Reader Scan

theorem take_leader (block : Block) {count : Nat} (within : count ≤ block.leader) :
    block.bytes.take count = List.replicate count Frame.blank := by
  have covered : count ≤ (List.replicate block.leader Frame.blank).length := by rwa [List.length_replicate]
  rw [bytes, List.take_append_of_le_length covered, List.take_replicate, Nat.min_eq_left within]

theorem mem_take_bytes (block : Block) {count : Nat} (opened : block.leader < count) :
    ∃ frame ∈ block.bytes.take count, frame ≠ Frame.blank := by
  obtain ⟨first, rest, same, punched⟩ := block.body_eq_cons
  have member : (block.bytes.take count)[block.leader]? = some first := by
    rw [List.getElem?_take_of_lt opened, bytes, same]
    simp
  exact ⟨first, List.mem_of_getElem? member, punched⟩

theorem decode_take {block : Block} (wellFormed : block.WellFormed) {count : Nat} (opened : block.leader < count)
    (short : count < block.bytes.length) (start : Nat) :
    decode ⟨(block.bytes.take count).map .byte, start⟩ = .error (.cutShort (start + count)) ⟨[], start + count⟩ := by
  have length : (block.bytes.take count).length = count := List.length_take_of_le (Nat.le_of_lt short)
  have left : block.bytes.drop count ≠ [] := by
    intro none
    rw [List.drop_eq_nil_iff] at none
    omega
  have whole := block.decode_bytes wellFormed [] start
  rw [← List.take_append_drop count block.bytes] at whole
  obtain ⟨next, reached⟩ := through_of_feed whole left
  have behind := (After.start start).through reached
  have ended := feed_through reached []
  rw [List.append_nil, length] at ended
  have inside : next.stage ≠ .leader := by
    intro leading
    obtain ⟨⟨frames, read, same⟩, -⟩ := behind
    rw [Taken, leading] at read
    rw [read.1, List.nil_append, List.append_nil] at same
    obtain ⟨frame, member, punched⟩ := block.mem_take_bytes opened
    rw [same] at member
    exact punched (List.eq_of_mem_replicate member)
  have cut : machine.finish next (start + count) = .error (.cutShort (start + count)) :=
    congrArg _ (atEnd_of_inside inside _)
  refine ended.trans ?_
  rw [feed, cut]
  rfl

/-- Offset behind the last frame of a block, on the tape that it was read from. -/
def stop (block : Block) : Nat := block.position + block.extent

end Block

namespace ObjectBlock

theorem lt_stop_placed (start : Nat) (objects : List ObjectBlock) :
    ∀ object ∈ placed start objects, start < object.block.stop := by
  have positive (block : Block) : 0 < block.extent := by
    unfold Block.extent
    split <;> omega
  induction objects generalizing start with
  | nil => exact fun _ member => nomatch member
  | cons first objects ih =>
    refine List.forall_mem_cons.mpr ⟨?_, fun object member => ?_⟩
    · have := positive first.block
      change start < start + first.block.leader + first.block.extent
      omega
    · exact Nat.lt_of_le_of_lt (by omega) (ih _ object member)

theorem filter_placed_cons (start limit : Nat) (first : ObjectBlock) (objects : List ObjectBlock) :
    (placed start (first :: objects)).filter (·.block.stop ≤ limit) =
      if start + first.block.bytes.length ≤ limit then
        { first with block := { first.block with position := start + first.block.leader } } ::
          (placed (start + first.block.bytes.length) objects).filter (·.block.stop ≤ limit)
      else [] := by
  rw [Block.length_bytes, ← Nat.add_assoc]
  split
  · rename_i within
    exact List.filter_cons_of_pos (decide_eq_true within)
  · rename_i beyond
    rw [List.filter_eq_nil_iff]
    intro object member
    rw [decide_eq_true_eq]
    rcases List.mem_cons.mp member with rfl | member
    · exact beyond
    · have behind := lt_stop_placed _ objects object member
      omega

end ObjectBlock

namespace Reading

open ObjectBlock

theorem ofReader_cut {block : Block} (wellFormed : block.WellFormed) {count : Nat} (short : count < block.bytes.length)
    (start : Nat) :
    (ofReader ⟨(block.bytes.take count).map .byte, start⟩).blocks = [] ∧
      (ofReader ⟨(block.bytes.take count).map .byte, start⟩).failure =
        if (block.bytes.take count).all (· == Frame.blank) then none else some (.cutShort (start + count)) := by
  by_cases opened : block.leader < count
  · have filled : (block.bytes.take count).all (· == Frame.blank) = false := by
      obtain ⟨frame, member, punched⟩ := block.mem_take_bytes opened
      exact List.all_eq_false.mpr ⟨frame, member, by simpa using punched⟩
    rw [ofReader_error (Block.decode_take wellFormed opened short start), filled]
    exact ⟨rfl, rfl⟩
  · rw [block.take_leader (Nat.le_of_not_lt opened)]
    obtain ⟨blocks, complete⟩ := ofReader_blanks count start
    exact ⟨blocks, complete.trans (by simp)⟩

theorem ofReader_take (objects : List ObjectBlock) (sound : ∀ object ∈ objects, object.Sound)
    (trailing start count : Nat) :
    let tape := objects.flatMap (·.block.bytes) ++ List.replicate trailing Frame.blank
    let kept := (placed start objects).filter (·.block.stop ≤ start + count)
    ∃ left, tape.take count = kept.flatMap (·.block.bytes) ++ left ∧
      (ofReader ⟨(tape.take count).map .byte, start⟩).blocks = kept ∧
      (ofReader ⟨(tape.take count).map .byte, start⟩).failure =
        if left.all (· == Frame.blank) then none else some (.cutShort (start + count)) := by
  -- What is left of the count shrinks with each block that is read in full, until it ends within one.
  induction objects generalizing start count with
  | nil =>
    obtain ⟨blocks, complete⟩ := ofReader_blanks (min count trailing) start
    refine ⟨List.replicate (min count trailing) Frame.blank, ?_⟩
    simp only [List.flatMap_nil, List.nil_append, List.take_replicate, placed, List.filter_nil, blocks, complete]
    simp
  | cons first objects ih =>
    have head := sound first (List.mem_cons_self ..)
    simp only [filter_placed_cons, List.flatMap_cons, List.append_assoc, Nat.add_le_add_iff_left]
    by_cases whole : first.block.bytes.length ≤ count
    · obtain ⟨left, same, blocks, failure⟩ := ih (fun other member => sound other (List.mem_cons_of_mem _ member))
        (start + first.block.bytes.length) (count - first.block.bytes.length)
      have count_eq : start + first.block.bytes.length + (count - first.block.bytes.length) = start + count := by omega
      have moved := (head.place first.block.leader (start + first.block.leader)).made
      have decoded := first.block.decode_bytes head.wellFormed (((objects.flatMap (·.block.bytes) ++
        List.replicate trailing Frame.blank).take (count - first.block.bytes.length)).map .byte) start
      have read := ofReader_ok decoded moved
      rw [count_eq] at same blocks failure
      rw [if_pos whole, List.take_append, List.take_of_length_le whole, List.map_append, read.1, read.2, blocks, failure]
      refine ⟨left, ?_, rfl, rfl⟩
      rw [same, List.flatMap_cons, List.append_assoc]
      rfl
    · have short : count < first.block.bytes.length := Nat.lt_of_not_le whole
      rw [if_neg whole, List.take_append_of_le_length (Nat.le_of_lt short)]
      refine ⟨first.block.bytes.take count, rfl, ?_⟩
      exact ofReader_cut head.wellFormed short start

end Reading

namespace ObjectFile

/-- The first frames of a written file are read as the blocks that end among them, and what is left of them is blank
    or cut short. -/
theorem read_take (file : ObjectFile) (sound : file.Sound) (count : Nat) (name : String) :
    let kept := (ObjectBlock.placed 0 file.blocks).filter (·.block.stop ≤ count)
    Writer.Appends file.write file.bytes ∧
      read (.ofBytes file.bytes) (named name) = .ok () { name, blocks := ObjectBlock.placed 0 file.blocks } ∧
      ∃ left, file.bytes.take count = kept.flatMap (·.block.bytes) ++ left ∧
        read (.ofBytes (file.bytes.take count)) (named name) =
          if left.all (· == Frame.blank) then .ok () { name, blocks := kept }
          else .error (.cutShort count) { name, blocks := kept } := by
  intro kept
  obtain ⟨left, split, blocks, failure⟩ := Reading.ofReader_take file.blocks sound file.trailing 0 count
  rw [Nat.zero_add] at split blocks failure
  refine ⟨file.appends_write, read_tape file.blocks sound file.trailing name, left, split, ?_⟩
  simp only [read, Reader.ofBytes, Reader.ofSignals, bytes, blocks, failure]
  cases left.all (· == Frame.blank) with
  | true => rfl
  | false => rfl

theorem read_take_mended :
    mended.Sound ∧
      read (.ofBytes (mended.bytes.take 27)) (named "cos.obj") =
        .error (.cutShort 27) {
          name := "cos.obj"
          blocks := [
            ⟨⟨3, [0x1004], false, 3⟩, ⟨1, 0, .absoluteWords⟩⟩,
            ⟨⟨1, [0x2000, 7], false, 13⟩, ⟨2, 0, .relocatableWords⟩⟩] } := by
  have sound : mended.Sound := by decide
  obtain ⟨-, -, left, split, result⟩ := read_take mended sound 27 "cos.obj"
  have cut : mended.bytes.take 27 =
      ((ObjectBlock.placed 0 mended.blocks).filter (·.block.stop ≤ 27)).flatMap (·.block.bytes) ++
        [Frame.endOfTapeMarker, Frame.midBlockMarker] := by
    decide
  obtain rfl := List.append_cancel_left (cut.symm.trans split)
  exact ⟨sound, result⟩

end ObjectFile

end PaperTape
