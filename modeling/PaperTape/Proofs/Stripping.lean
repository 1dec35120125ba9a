import PaperTape.Proofs.Joining

namespace PaperTape

theorem Kind.isEndMarker_iff (kind : Kind) : kind.isEndMarker = true ↔ kind = .endOfTape ∨ kind = .endOfJob := by
  cases kind <;> simp [isEndMarker]

namespace ObjectBlock

/-- An end-of-tape mark or the end of a job, by the kind that the block was given. -/
def Ends (object : ObjectBlock) : Prop :=
  object.classification.kind = .endOfTape ∨ object.classification.kind = .endOfJob

theorem isEndMarker_iff (object : ObjectBlock) : object.isEndMarker = true ↔ object.Ends :=
  Kind.isEndMarker_iff object.classification.kind

structure BeforeEnd (objects front : List ObjectBlock) : Prop where
  marks : ∃ marks, objects = front ++ marks ∧ ∀ mark ∈ marks, mark.Ends
  last : ∀ last ∈ front.getLast?, ¬ last.Ends

theorem rdropWhile_append_marks (front : List ObjectBlock) {marks : List ObjectBlock}
    (ends : ∀ mark ∈ marks, mark.Ends) : (front ++ marks).rdropWhile isEndMarker = front.rdropWhile isEndMarker := by
  induction marks using List.reverseRecOn with
  | nil => rw [List.append_nil]
  | append_singleton marks mark ih =>
    obtain ⟨earlier, final⟩ := List.forall_mem_append.mp ends
    have marked : mark.isEndMarker = true := mark.isEndMarker_iff.mpr (final mark (List.mem_singleton_self mark))
    rw [← List.append_assoc, List.rdropWhile_concat_pos _ _ _ marked, ih earlier]

theorem unended_iff {objects : List ObjectBlock} : Unended objects ↔ ∀ last ∈ objects.getLast?, ¬ last.Ends := by
  simp only [Unended, kinds, List.getLast?_map, ← isEndMarker_iff, isEndMarker, Bool.not_eq_true]
  cases objects.getLast? <;> simp

theorem beforeEnd_rdropWhile (objects : List ObjectBlock) : BeforeEnd objects (objects.rdropWhile isEndMarker) where
  marks := by
    refine ⟨objects.rtakeWhile isEndMarker, List.rdropWhile_append_rtakeWhile.symm, ?_⟩
    intro mark member
    exact mark.isEndMarker_iff.mp (List.mem_rtakeWhile_imp member)
  last := unended_iff.mp (unended_rdropWhile objects)

theorem BeforeEnd.eq_rdropWhile {objects front : List ObjectBlock} (before : BeforeEnd objects front) :
    front = objects.rdropWhile isEndMarker := by
  obtain ⟨marks, rfl, ends⟩ := before.marks
  have unended : Unended front := unended_iff.mpr before.last
  rw [rdropWhile_append_marks front ends, unended.rdropWhile]

theorem beforeEnd_iff {objects front : List ObjectBlock} :
    BeforeEnd objects front ↔ front = objects.rdropWhile isEndMarker := by
  constructor
  · exact BeforeEnd.eq_rdropWhile
  · rintro rfl
    exact beforeEnd_rdropWhile objects

end ObjectBlock

namespace ObjectFile

theorem stripEndMarkers_eq (file : ObjectFile) :
    file.stripEndMarkers = { file with blocks := file.kept, trailing := 0 } := rfl

/-- A change at the end of a file, which adds or takes away only end markers and the trailer. -/
inductive Ending where
  | appendEndMark
  | push (object : ObjectBlock) (ends : object.Ends)
  | setTrailing (count : Nat)
  | strip

def perform (file : ObjectFile) : Ending → ObjectFile
  | .appendEndMark => file.appendEndMark
  | .push object _ => file.push object
  | .setTrailing count => file.setTrailing count
  | .strip => file.stripEndMarkers

theorem stripEndMarkers_push {object : ObjectBlock} (ends : object.Ends) (file : ObjectFile) :
    (file.push object).stripEndMarkers = file.stripEndMarkers := by
  have same : (file.push object).kept = file.kept :=
    List.rdropWhile_concat_pos _ _ _ (object.isEndMarker_iff.mpr ends)
  rw [stripEndMarkers_eq, same]
  rfl

theorem stripEndMarkers_stripEndMarkers (file : ObjectFile) :
    file.stripEndMarkers.stripEndMarkers = file.stripEndMarkers := by
  have same : file.stripEndMarkers.kept = file.kept := List.rdropWhile_idempotent _ _
  rw [stripEndMarkers_eq, same]
  rfl

theorem stripEndMarkers_perform (file : ObjectFile) (ending : Ending) :
    (file.perform ending).stripEndMarkers = file.stripEndMarkers := by
  cases ending with
  | appendEndMark => exact stripEndMarkers_push (.inl rfl) file
  | push object ends => exact stripEndMarkers_push ends file
  | setTrailing count =>
    rw [perform, setTrailing]
    split <;> rfl
  | strip => exact file.stripEndMarkers_stripEndMarkers

theorem stripEndMarkers_foldl (file : ObjectFile) (endings : List Ending) :
    (endings.foldl perform file).stripEndMarkers = file.stripEndMarkers := by
  induction endings generalizing file with
  | nil => rfl
  | cons ending endings ih => exact (ih (file.perform ending)).trans (file.stripEndMarkers_perform ending)

/-- Stripping leaves exactly the blocks in front of the run of end markers at the end, and no trailer. Changes at the
    end of the file make no difference to it. -/
theorem stripEndMarkers_exact (file : ObjectFile) :
    (∀ front, ObjectBlock.BeforeEnd file.blocks front ↔ front = file.stripEndMarkers.blocks) ∧
      file.stripEndMarkers.name = file.name ∧ file.stripEndMarkers.trailing = 0 ∧
      ∀ endings : List Ending, (endings.foldl perform file).stripEndMarkers = file.stripEndMarkers :=
  ⟨fun _ => ObjectBlock.beforeEnd_iff, rfl, rfl, file.stripEndMarkers_foldl⟩

/-- The mark between two other blocks stays, and the end of a job behind the last of them goes. -/
example :
    let program : ObjectBlock := ⟨⟨2, [0x1004], false, 9⟩, ⟨1, 0, .absoluteWords⟩⟩
    let job : ObjectBlock := ⟨⟨0, [0o300], false, 0⟩, ⟨0, 3, .endOfJob⟩⟩
    stripEndMarkers ⟨"sin.obj", 150, [program, .endMark, program, job, .endMark, job]⟩ =
      ⟨"sin.obj", 0, [program, .endMark, program]⟩ := by
  decide

end ObjectFile

end PaperTape
