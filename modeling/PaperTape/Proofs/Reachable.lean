import Mathlib
import PaperTape.Proofs.Reading
import PaperTape.Proofs.Writing

namespace PaperTape.ObjectFile

/-- One operation on an object file. A tape that fails in the middle leaves the blocks before the failure, and
    only well-formed blocks are classified and pushed. -/
inductive Edit : ObjectFile → ObjectFile → Prop
  | read {file after : ObjectFile} (signals : List Signal) :
      (file.read (.ofSignals signals) = .ok () after ∨
        ∃ error, file.read (.ofSignals signals) = .error error after) → Edit file after
  | push {file : ObjectFile} {block : Block} {object : ObjectBlock} :
      block.WellFormed → ObjectBlock.ofBlock block = .ok object → Edit file (file.push object)
  | appendEndMark {file : ObjectFile} : Edit file file.appendEndMark
  | stripEndMarkers {file : ObjectFile} : Edit file file.stripEndMarkers
  | setLeading {file : ObjectFile} (count : Nat) : Edit file (file.setLeading count)
  | setTrailing {file : ObjectFile} (count : Nat) : Edit file (file.setTrailing count)

inductive Reachable : ObjectFile → Prop
  | named (name : String) : Reachable (named name)
  | edit {file after : ObjectFile} : Reachable file → Edit file after → Reachable after

theorem Sound.append {file : ObjectFile} (sound : file.Sound) {blocks : List ObjectBlock}
    (more : ∀ object ∈ blocks, object.Sound) : ∀ object ∈ file.blocks ++ blocks, object.Sound := by
  intro object member
  rcases List.mem_append.mp member with member | member
  · exact sound object member
  · exact more object member

theorem Sound.read {file after : ObjectFile} {reader : Reader} (sound : file.Sound)
    (ended : file.read reader = .ok () after ∨ ∃ error, file.read reader = .error error after) : after.Sound := by
  have blocks : after.blocks = file.blocks ++ (Reading.ofReader reader).blocks := by
    unfold ObjectFile.read at ended
    rcases ended with same | ⟨error, same⟩
    all_goals
      cases failure : (Reading.ofReader reader).failure <;> simp only [failure] at same <;> cases same
      rfl
  rw [Sound, blocks]
  exact sound.append (Reading.sound_ofReader reader)

theorem Sound.push {file : ObjectFile} (sound : file.Sound) {object : ObjectBlock} (pushed : object.Sound) :
    (file.push object).Sound := by
  apply sound.append
  intro other member
  rw [List.mem_singleton.mp member]
  exact pushed

theorem Sound.stripEndMarkers {file : ObjectFile} (sound : file.Sound) : file.stripEndMarkers.Sound := by
  intro object member
  have kept := List.mem_reverse.mp member
  exact sound object (List.mem_reverse.mp ((List.dropWhile_suffix _).subset kept))

theorem Sound.setLeading {file : ObjectFile} (sound : file.Sound) (count : Nat) : (file.setLeading count).Sound := by
  unfold ObjectFile.setLeading
  split
  · exact sound
  · rename_i first rest same
    rw [Sound, same] at sound
    have each := List.forall_mem_cons.mp sound
    exact List.forall_mem_cons.mpr ⟨each.1.place count first.block.position, each.2⟩

theorem Sound.setTrailing {file : ObjectFile} (sound : file.Sound) (count : Nat) :
    (file.setTrailing count).Sound := by
  unfold ObjectFile.setTrailing
  split <;> exact sound

theorem Sound.edit {file after : ObjectFile} (sound : file.Sound) (edit : Edit file after) : after.Sound := by
  cases edit with
  | read signals ended => exact sound.read ended
  | push wellFormed made => exact sound.push (ObjectBlock.sound_of_ofBlock wellFormed made)
  | appendEndMark => exact sound.push ObjectBlock.sound_endMark
  | stripEndMarkers => exact sound.stripEndMarkers
  | setLeading count => exact sound.setLeading count
  | setTrailing count => exact sound.setTrailing count

theorem Reachable.sound {file : ObjectFile} (reachable : Reachable file) : file.Sound := by
  induction reachable with
  | named name => exact fun _ member => nomatch member
  | edit _ edit ih => exact ih.edit edit

/-- A reachable file is written in full and read back block by block, with each block at its offset. -/
theorem Reachable.write_read {file : ObjectFile} (reachable : Reachable file) (name : String) :
    Writer.Appends file.write file.bytes ∧
      read (.ofBytes file.bytes) (ObjectFile.named name) =
        .ok () { name, blocks := ObjectBlock.placed 0 file.blocks } :=
  ⟨file.appends_write, read_tape file.blocks reachable.sound file.trailing name⟩

def mended : ObjectFile :=
  { name := "sin.obj"
    trailing := 2
    blocks := [
      ⟨⟨3, [0x1004], false, 1⟩, ⟨1, 0, .absoluteWords⟩⟩,
      ⟨⟨1, [0x2000, 7], false, 0⟩, ⟨2, 0, .relocatableWords⟩⟩,
      .endMark] }

theorem reachable_mended : Reachable mended := by
  have cut :
      (ObjectFile.named "sin.obj").read
        (.ofSignals ([0x00, 0x81, 0x81, 0x80, 0x84, 0x81, 0x80, 0x84, 0x93, 0xFF, 0x81, 0x81].map .byte)) =
          .error (.cutShort 12) ⟨"sin.obj", 0, [⟨⟨1, [0x1004], false, 1⟩, ⟨1, 0, .absoluteWords⟩⟩]⟩ := by
    cbv
  have made : ObjectBlock.ofBlock ⟨1, [0x2000, 7], false, 0⟩ =
      .ok ⟨⟨1, [0x2000, 7], false, 0⟩, ⟨2, 0, .relocatableWords⟩⟩ := by rfl
  have read := (Reachable.named "sin.obj").edit (.read _ (.inr ⟨_, cut⟩))
  have pushed := ((read.edit (.push (by decide) made)).edit .appendEndMark).edit (.setLeading 3)
  exact pushed.edit (.setTrailing 2)

theorem write_read_mended :
    Reachable mended ∧ Writer.Appends mended.write mended.bytes ∧
      read (.ofBytes mended.bytes) (named "cos.obj") =
        .ok () {
          name := "cos.obj"
          blocks := [
            ⟨⟨3, [0x1004], false, 3⟩, ⟨1, 0, .absoluteWords⟩⟩,
            ⟨⟨1, [0x2000, 7], false, 13⟩, ⟨2, 0, .relocatableWords⟩⟩,
            ⟨⟨0, [], true, 25⟩, .endOfTape⟩] } :=
  ⟨reachable_mended, reachable_mended.write_read "cos.obj"⟩

end PaperTape.ObjectFile
