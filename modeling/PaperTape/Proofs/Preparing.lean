import Mathlib
import PaperTape.Proofs.Joining

namespace PaperTape

namespace ObjectFile

open ObjectBlock

theorem prepare_eq (leader trailer : Nat) (last : Bool) (file : ObjectFile) :
    file.prepare leader trailer last =
      { file with
        blocks := led leader file.kept ++ if last then [.endMark] else []
        trailing := if last then trailer else 0 } := by
  cases last with
  | true => exact prepare_last leader trailer file
  | false => exact (prepare_inner leader trailer file).trans (by simp)

theorem kept_prepare (leader trailer : Nat) (last : Bool) (file : ObjectFile) :
    (file.prepare leader trailer last).kept = led leader file.kept := by
  have unended : Unended (led leader file.kept) := (unended_rdropWhile file.blocks).led leader
  rw [prepare_eq, kept]
  cases last with
  | true => exact unended.rdropWhile_concat rfl
  | false => simpa using unended.rdropWhile

theorem prepare_prepare (leader trailer : Nat) (last : Bool) (earlier before : Nat) (ended : Bool)
    (file : ObjectFile) :
    (file.prepare earlier before ended).prepare leader trailer last = file.prepare leader trailer last := by
  rw [prepare_eq leader, kept_prepare, led_led, prepare_eq leader, prepare_eq earlier]

def unframed (file : ObjectFile) : ObjectFile := file.prepare 0 0 false

end ObjectFile

namespace Library

/-- A call on a library. The output of an assembly may take the tape or fail. -/
inductive Call : Type 1 where
  | push (file : ObjectFile)
  | prepare
  | assemble {σ : Type} [Output σ] (output : σ)

def Call.isPush : Call → Bool
  | .push _ => true
  | _ => false

theorem Call.eq_push {call : Call} (pushes : call.isPush = true) : ∃ file, call = .push file := by
  cases call with
  | push file => exact ⟨file, rfl⟩
  | prepare => cases pushes
  | assemble output => cases pushes

def perform (library : Library) : Call → Library
  | .push file => library.push file
  | .prepare =>
    match library.prepare with
    | .ok prepared => prepared
    | .error _ => library
  | @Call.assemble _ _ output => (library.assemble output).library

def after (policy : Policy) (calls : List Call) : Library := calls.foldl perform { policy }

def unframed (library : Library) : Library := { library with files := library.files.map ObjectFile.unframed }

theorem prepareFiles_unframed (policy : Policy) (leader : Nat) (files : List ObjectFile) :
    prepareFiles policy leader (files.map ObjectFile.unframed) = prepareFiles policy leader files := by
  induction files generalizing leader with
  | nil => rfl
  | cons file files ih =>
    rw [List.map_cons, prepareFiles, prepareFiles, ih, List.isEmpty_map, ObjectFile.unframed,
      ObjectFile.prepare_prepare]

theorem unframed_prepareFiles (policy : Policy) (leader : Nat) (files : List ObjectFile) :
    (prepareFiles policy leader files).map ObjectFile.unframed = files.map ObjectFile.unframed := by
  induction files generalizing leader with
  | nil => rfl
  | cons file files ih =>
    rw [prepareFiles, List.map_cons, List.map_cons, ih, ObjectFile.unframed, ObjectFile.prepare_prepare]
    rfl

theorem unframed_inj {library other : Library} :
    library.unframed = other.unframed ↔
      library.policy = other.policy ∧
        library.files.map ObjectFile.unframed = other.files.map ObjectFile.unframed := by
  simp only [unframed, mk.injEq]

theorem prepare_unframed (library : Library) : library.unframed.prepare = library.prepare := by
  simp only [prepare, unframed, List.isEmpty_map, prepareFiles_unframed]

theorem prepare_congr {library other : Library} (same : library.unframed = other.unframed) :
    library.prepare = other.prepare := by
  rw [← prepare_unframed, same, prepare_unframed]

theorem unframed_of_prepare {library prepared : Library} (made : library.prepare = .ok prepared) :
    prepared.unframed = library.unframed := by
  unfold prepare at made
  split at made
  · cases made
  · cases made
    exact unframed_inj.mpr ⟨rfl, unframed_prepareFiles ..⟩

theorem assemble_congr {σ : Type} [Output σ] {library other : Library} (same : library.unframed = other.unframed)
    (output : σ) : library.assemble output = other.assemble output := by
  have prepared := prepare_congr same
  obtain ⟨policy, files⟩ := library
  obtain ⟨policy', others⟩ := other
  obtain ⟨rfl, alike⟩ := unframed_inj.mp same
  cases files with
  | nil =>
    -- A failed preparation leaves the library as it is, but without files there is nothing to differ.
    obtain rfl : others = [] := List.map_eq_nil_iff.mp alike.symm
    rfl
  | cons first rest =>
    have made : prepare ⟨policy, first :: rest⟩ = .ok ⟨policy, prepareFiles policy policy.long (first :: rest)⟩ := rfl
    simp only [assemble, ← prepared, made]

theorem unframed_push {library other : Library} (same : library.unframed = other.unframed) (file : ObjectFile) :
    (library.push file).unframed = (other.push file).unframed := by
  obtain ⟨policy, files⟩ := unframed_inj.mp same
  refine unframed_inj.mpr ⟨policy, ?_⟩
  simp only [push, List.map_append, files]

theorem library_assemble {σ : Type} [Output σ] (library : Library) (output : σ) :
    (library.assemble output).library = library.perform .prepare := by
  simp only [assemble, perform]
  cases library.prepare with
  | error error => rfl
  | ok prepared =>
    simp only
    split <;> rfl

theorem unframed_perform_prepare (library : Library) : (library.perform .prepare).unframed = library.unframed := by
  simp only [perform]
  split
  · rename_i prepared made
    exact unframed_of_prepare made
  · rfl

theorem unframed_perform (library : Library) {call : Call} (other : call.isPush = false) :
    (library.perform call).unframed = library.unframed := by
  cases call with
  | push file => cases other
  | prepare => exact library.unframed_perform_prepare
  | assemble output =>
    rw [perform, library_assemble]
    exact library.unframed_perform_prepare

theorem unframed_foldl {library other : Library} (same : library.unframed = other.unframed) (calls : List Call) :
    (calls.foldl perform library).unframed = ((calls.filter Call.isPush).foldl perform other).unframed := by
  -- The other library makes the pushes only, and stays where it is while the first one is framed.
  induction calls generalizing library other with
  | nil => exact same
  | cons call calls ih =>
    cases pushes : call.isPush with
    | true =>
      rw [List.filter_cons_of_pos pushes]
      obtain ⟨file, rfl⟩ := Call.eq_push pushes
      exact ih (unframed_push same file)
    | false =>
      rw [List.filter_cons_of_neg (by simp [pushes])]
      exact ih ((unframed_perform library pushes).trans same)

theorem isEmpty_congr {library other : Library} (same : library.unframed = other.unframed) :
    library.files.isEmpty = other.files.isEmpty := by
  have files := congrArg List.isEmpty (unframed_inj.mp same).2
  rwa [List.isEmpty_map, List.isEmpty_map] at files

theorem isEmpty_foldl (library : Library) (calls : List Call) :
    (calls.foldl perform library).files.isEmpty = (library.files.isEmpty && !calls.any Call.isPush) := by
  induction calls generalizing library with
  | nil => simp
  | cons call calls ih =>
    rw [List.foldl_cons, ih, List.any_cons]
    cases pushes : call.isPush with
    | true =>
      obtain ⟨file, rfl⟩ := Call.eq_push pushes
      simp [perform, push]
    | false => rw [isEmpty_congr (unframed_perform library pushes), Bool.false_or]

theorem isOk_prepare (library : Library) : library.prepare.isOk = !library.files.isEmpty := by
  unfold prepare
  cases library.files.isEmpty <;> rfl

theorem prepare_prepare (library : Library) : (library.prepare >>= prepare) = library.prepare := by
  cases made : library.prepare with
  | error error => rfl
  | ok prepared => exact (prepare_congr (unframed_of_prepare made)).trans made

/-- Whatever is called on a library, preparing it once more gives what preparing a fresh one gives that had the same
    files pushed on it, and assembling it does what assembling the fresh one does. It is prepared if there is a
    file, and preparing it again changes nothing. -/
theorem prepare_after (policy : Policy) (calls : List Call) :
    let library := after policy calls
    let fresh := after policy (calls.filter Call.isPush)
    library.prepare = fresh.prepare ∧ (library.prepare >>= prepare) = library.prepare ∧
      library.prepare.isOk = calls.any Call.isPush ∧
      ∀ {σ : Type} [Output σ] (output : σ), library.assemble output = fresh.assemble output := by
  intro library fresh
  have same : library.unframed = fresh.unframed := unframed_foldl rfl calls
  refine ⟨prepare_congr same, library.prepare_prepare, ?_, assemble_congr same⟩
  have empty : library.files.isEmpty = !calls.any Call.isPush := isEmpty_foldl { policy } calls
  rw [isOk_prepare, empty, Bool.not_not]

/-- The end mark and the trailer that a failed assembly leaves are gone once another file is pushed. -/
example :
    (after { long := 2, short := 1 }
      [.push ⟨"sin.obj", 7, [⟨⟨5, [0x1004], false, 9⟩, ⟨1, 0, .absoluteWords⟩⟩, .endMark]⟩,
        .assemble ({ limit := some 1 } : Sink), .prepare,
        .push ⟨"cos.obj", 0, [⟨⟨5, [0x2000], false, 9⟩, ⟨2, 0, .relocatableWords⟩⟩]⟩]).prepare.toOption =
      some {
        policy := { long := 2, short := 1 }
        files := [
          ⟨"sin.obj", 0, [⟨⟨2, [0x1004], false, 9⟩, ⟨1, 0, .absoluteWords⟩⟩]⟩,
          ⟨"cos.obj", 2, [⟨⟨1, [0x2000], false, 9⟩, ⟨2, 0, .relocatableWords⟩⟩, .endMark]⟩] } := by
  cbv

end Library

end PaperTape
