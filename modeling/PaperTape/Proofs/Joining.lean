import Mathlib.Data.List.DropRight
import PaperTape.Proofs.Reading
import PaperTape.Proofs.Writing

namespace PaperTape

namespace ObjectBlock

def led (leader : Nat) : List ObjectBlock → List ObjectBlock
  | [] => []
  | first :: rest => { first with block := { first.block with leader } } :: rest

theorem led_led (leader earlier : Nat) (objects : List ObjectBlock) :
    led leader (led earlier objects) = led leader objects := by
  cases objects <;> rfl

def kinds (objects : List ObjectBlock) : List Kind := objects.map (·.classification.kind)

theorem kinds_led (leader : Nat) (objects : List ObjectBlock) : kinds (led leader objects) = kinds objects := by
  cases objects <;> rfl

theorem kinds_placed (start : Nat) (objects : List ObjectBlock) : kinds (placed start objects) = kinds objects := by
  induction objects generalizing start with
  | nil => rfl
  | cons object objects ih => exact congrArg (object.classification.kind :: ·) (ih _)

def Unended (objects : List ObjectBlock) : Prop := ∀ kind ∈ (kinds objects).getLast?, kind.isEndMarker = false

theorem Unended.led {objects : List ObjectBlock} (unended : Unended objects) (leader : Nat) :
    Unended (led leader objects) := by
  rwa [Unended, kinds_led]

theorem Unended.placed {objects : List ObjectBlock} (unended : Unended objects) (start : Nat) :
    Unended (placed start objects) := by
  rwa [Unended, kinds_placed]

theorem Unended.append {front rest : List ObjectBlock} (left : Unended front) (right : Unended rest) :
    Unended (front ++ rest) := by
  intro kind last
  rw [kinds, List.map_append, List.getLast?_append, Option.mem_def, Option.or_eq_some_iff] at last
  rcases last with last | ⟨-, last⟩
  · exact right kind last
  · exact left kind last

theorem unended_rdropWhile (objects : List ObjectBlock) : Unended (objects.rdropWhile isEndMarker) := by
  intro kind last
  rw [kinds, List.getLast?_map] at last
  obtain ⟨object, final, rfl⟩ := Option.map_eq_some_iff.mp last
  obtain ⟨filled, rfl⟩ := List.mem_getLast?_eq_getLast final
  exact Bool.eq_false_iff.mpr (List.rdropWhile_last_not isEndMarker objects filled)

theorem Unended.rdropWhile {objects : List ObjectBlock} (unended : Unended objects) :
    objects.rdropWhile isEndMarker = objects := by
  apply List.rdropWhile_eq_self_iff.mpr
  intro filled
  apply Bool.eq_false_iff.mp
  apply unended
  rw [kinds, List.getLast?_map, List.getLast?_eq_some_getLast filled]
  rfl

theorem Unended.rdropWhile_concat {objects : List ObjectBlock} (unended : Unended objects) {mark : ObjectBlock}
    (ends : mark.isEndMarker = true) : (objects ++ [mark]).rdropWhile isEndMarker = objects := by
  rw [List.rdropWhile_concat_pos _ _ _ ends, unended.rdropWhile]

end ObjectBlock

namespace ObjectFile

/-- The blocks up to the last one that is no end marker. -/
def kept (file : ObjectFile) : List ObjectBlock := file.blocks.rdropWhile ObjectBlock.isEndMarker

theorem setLeading_eq (count : Nat) (file : ObjectFile) :
    file.setLeading count = { file with blocks := ObjectBlock.led count file.blocks } := by
  obtain ⟨name, trailing, blocks⟩ := file
  cases blocks <;> rfl

theorem prepare_last (leader trailer : Nat) (file : ObjectFile) :
    file.prepare leader trailer true =
      { file with blocks := ObjectBlock.led leader file.kept ++ [.endMark], trailing := trailer } := by
  simp only [prepare, setLeading_eq, appendEndMark, push, setTrailing, stripEndMarkers]
  simp [kept, List.rdropWhile]

theorem prepare_inner (leader trailer : Nat) (file : ObjectFile) :
    file.prepare leader trailer false =
      { file with blocks := ObjectBlock.led leader file.kept, trailing := 0 } := by
  simp only [prepare, setLeading_eq, setTrailing, stripEndMarkers]
  simp [kept, List.rdropWhile]

end ObjectFile

namespace Library

open ObjectBlock ObjectFile

/-- The blocks of some files on one tape, the first file with a leader of its own. -/
def join (policy : Policy) (leader : Nat) (first : ObjectFile) (others : List ObjectFile) : List ObjectBlock :=
  led leader first.kept ++ others.flatMap (fun file => led policy.short file.kept) ++ [endMark]

def joined (library : Library) : List ObjectBlock :=
  match library.files with
  | [] => []
  | first :: others => join library.policy library.policy.long first others

def tape (library : Library) : List UInt8 :=
  library.joined.flatMap (·.block.bytes) ++ List.replicate library.policy.long Frame.blank

theorem joined_concat (library : Library) (filled : library.files ≠ []) :
    ∃ front, library.joined = front ++ [endMark] := by
  obtain ⟨policy, files⟩ := library
  cases files with
  | nil => exact absurd rfl filled
  | cons first others => exact ⟨_, rfl⟩

theorem bytes_prepareFiles (policy : Policy) (leader : Nat) (first : ObjectFile) (others : List ObjectFile) :
    (prepareFiles policy leader (first :: others)).flatMap ObjectFile.bytes =
      (join policy leader first others).flatMap (·.block.bytes) ++ List.replicate policy.long Frame.blank := by
  induction others generalizing leader first with
  | nil => simp [join, prepareFiles, prepare_last, ObjectFile.bytes]
  | cons next others ih =>
    rw [prepareFiles, List.flatMap_cons, ih]
    simp [join, prepare_inner, ObjectFile.bytes]

theorem assemble_accepting (library : Library) (filled : library.files ≠ []) {sink : Sink}
    (accepting : sink.Accepting) :
    (library.assemble sink).result = .ok () ∧
      (library.assemble sink).writer.output.held.toList = sink.held.toList ++ library.tape := by
  obtain ⟨policy, files⟩ := library
  cases files with
  | nil => exact absurd rfl filled
  | cons first others =>
    have writes := appends_write ⟨policy, prepareFiles policy policy.long (first :: others)⟩
    rw [Library.bytes, bytes_prepareFiles] at writes
    obtain ⟨after, ran, -, held, -⟩ := writes { output := sink } accepting
    have assembled : (Library.mk policy (first :: others)).assemble sink =
        ⟨⟨policy, prepareFiles policy policy.long (first :: others)⟩, after, .ok ()⟩ := by
      simp only [assemble, prepare, List.isEmpty_cons, Bool.false_eq_true, if_false, ran]
    rw [assembled]
    exact ⟨rfl, held⟩

theorem sound_kept {file : ObjectFile} (sound : file.Sound) : ∀ object ∈ file.kept, object.Sound :=
  fun object member => sound object ((List.rdropWhile_prefix _ _).subset member)

theorem sound_led (leader : Nat) {objects : List ObjectBlock} (sound : ∀ object ∈ objects, object.Sound) :
    ∀ object ∈ led leader objects, object.Sound := by
  cases objects with
  | nil => exact sound
  | cons first rest =>
    obtain ⟨head, tail⟩ := List.forall_mem_cons.mp sound
    exact List.forall_mem_cons.mpr ⟨head.place leader first.block.position, tail⟩

theorem sound_joined {library : Library} (sound : ∀ file ∈ library.files, file.Sound) :
    ∀ object ∈ library.joined, object.Sound := by
  obtain ⟨policy, files⟩ := library
  cases files with
  | nil => exact fun _ member => nomatch member
  | cons first others =>
    obtain ⟨head, tail⟩ := List.forall_mem_cons.mp sound
    intro object member
    rcases List.mem_append.mp member with member | member
    · rcases List.mem_append.mp member with member | member
      · exact sound_led _ (sound_kept head) object member
      · obtain ⟨file, among, member⟩ := List.mem_flatMap.mp member
        exact sound_led _ (sound_kept (tail file among)) object member
    · rw [List.mem_singleton.mp member]
      exact sound_endMark

/-- The tape of a library holds the blocks that are kept of its files, in order and with the leaders of the
    policy, then an end-of-tape mark and exactly the long trailer. -/
theorem assemble_read (library : Library) (filled : library.files ≠ [])
    (sound : ∀ file ∈ library.files, file.Sound) {sink : Sink} (accepting : sink.Accepting) (name : String) :
    ∃ tape front, (library.assemble sink).result = .ok () ∧
      (library.assemble sink).writer.output.held.toList = sink.held.toList ++ tape ∧
      read (.ofBytes tape) (named name) = .ok () { name, blocks := placed 0 library.joined } ∧
      (placed 0 library.joined).getLast? = some ⟨⟨0, [], true, front.length⟩, .endOfTape⟩ ∧
      tape = front ++ [Frame.endOfTapeMarker, Frame.midBlockMarker, Frame.terminator] ++
        List.replicate library.policy.long Frame.blank := by
  obtain ⟨assembled, held⟩ := library.assemble_accepting filled accepting
  have whole := read_tape library.joined (sound_joined sound) library.policy.long name
  obtain ⟨front, ends⟩ := library.joined_concat filled
  refine ⟨library.tape, front.flatMap (·.block.bytes), assembled, held, whole, ?_, ?_⟩
  · rw [ends, placed_append, Nat.zero_add]
    exact List.getLast?_concat
  · rw [tape, ends, List.flatMap_append]
    rfl

def parts : Library :=
  { policy := { long := 2, short := 1 }
    files := [
      ⟨"sin.obj", 7, [⟨⟨5, [0x1004], false, 9⟩, ⟨1, 0, .absoluteWords⟩⟩, ⟨⟨0, [0o300], false, 0⟩, ⟨0, 3, .endOfJob⟩⟩,
        .endMark]⟩,
      ⟨"blank.obj", 0, []⟩,
      ⟨"cos.obj", 0, [.endMark, ⟨⟨3, [0x2000], false, 0⟩, ⟨2, 0, .relocatableWords⟩⟩]⟩] }

theorem assemble_read_parts :
    parts.files ≠ [] ∧ (∀ file ∈ parts.files, file.Sound) ∧ Sink.Accepting {} ∧
      ∃ tape front, (parts.assemble ({} : Sink)).result = .ok () ∧
        (parts.assemble ({} : Sink)).writer.output.held.toList = [] ++ tape ∧
        read (.ofBytes tape) (named "library") =
          .ok () {
            name := "library"
            blocks := [
              ⟨⟨2, [0x1004], false, 2⟩, ⟨1, 0, .absoluteWords⟩⟩,
              ⟨⟨1, [], true, 12⟩, .endOfTape⟩,
              ⟨⟨3, [0x2000], false, 18⟩, ⟨2, 0, .relocatableWords⟩⟩,
              ⟨⟨0, [], true, 27⟩, .endOfTape⟩] } ∧
        (placed 0 parts.joined).getLast? = some ⟨⟨0, [], true, front.length⟩, .endOfTape⟩ ∧
        tape = front ++ [0x83, 0x93, 0xFF] ++ [0x00, 0x00] :=
  ⟨by decide, by decide, Sink.accepting_empty,
    assemble_read parts (by decide) (by decide) Sink.accepting_empty "library"⟩

end Library

end PaperTape
