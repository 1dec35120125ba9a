import Mathlib
import PaperTape.Proofs.Joining

namespace PaperTape

namespace ObjectBlock

theorem bytes_placed (start : Nat) (objects : List ObjectBlock) :
    (placed start objects).flatMap (·.block.bytes) = objects.flatMap (·.block.bytes) := by
  induction objects generalizing start with
  | nil => rfl
  | cons object objects ih =>
    rw [placed, List.flatMap_cons, List.flatMap_cons, ih]
    rfl

theorem bytes_led_placed (leader start : Nat) (objects : List ObjectBlock) :
    (led leader (placed start objects)).flatMap (·.block.bytes) =
      (led leader objects).flatMap (·.block.bytes) := by
  cases objects with
  | nil => rfl
  | cons object objects =>
    rw [placed, led, led, List.flatMap_cons, List.flatMap_cons, bytes_placed]
    rfl

end ObjectBlock

namespace Library

open ObjectBlock ObjectFile

/-- Assembling a library puts the given bytes, and no others, on every accepting sink. -/
def Assembles (library : Library) (tape : List UInt8) : Prop :=
  ∀ sink : Sink, sink.Accepting →
    (library.assemble sink).result = .ok () ∧
      (library.assemble sink).writer.output.held.toList = sink.held.toList ++ tape

theorem assembles_tape (library : Library) (filled : library.files ≠ []) : library.Assembles library.tape :=
  fun _ accepting => library.assemble_accepting filled accepting

theorem Assembles.unique {library : Library} {tape other : List UInt8} (one : library.Assembles tape)
    (two : library.Assembles other) : tape = other := by
  have held := (one {} Sink.accepting_empty).2.symm.trans (two {} Sink.accepting_empty).2
  exact List.append_cancel_left held

/-- The blocks that are kept of some files, each file with its leader, and the first with one of its own. -/
def spread (policy : Policy) : Nat → List ObjectFile → List ObjectBlock
  | _, [] => []
  | leader, file :: rest => led leader file.kept ++ spread policy policy.short rest

theorem spread_append (policy : Policy) (leader : Nat) (front back : List ObjectFile) :
    spread policy leader (front ++ back) =
      spread policy leader front ++ spread policy (if front = [] then leader else policy.short) back := by
  induction front generalizing leader with
  | nil => rfl
  | cons file front ih =>
    rw [List.cons_append, spread, spread, ih, List.append_assoc, ite_self, if_neg (List.cons_ne_nil _ _)]

theorem unended_spread (policy : Policy) (leader : Nat) (files : List ObjectFile) :
    Unended (spread policy leader files) := by
  induction files generalizing leader with
  | nil => exact nofun
  | cons file files ih => exact ((unended_rdropWhile file.blocks).led leader).append (ih _)

theorem led_spread_short (policy : Policy) (files : List ObjectFile) :
    led policy.short (spread policy policy.short files) = spread policy policy.short files := by
  induction files with
  | nil => rfl
  | cons file files ih =>
    rw [spread]
    cases file.kept with
    | nil => exact ih
    | cons object objects => rfl

theorem led_spread (policy : Policy) (leader earlier : Nat) (first : ObjectFile) (others : List ObjectFile)
    (taken : leader = policy.short ∨ first.kept ≠ []) :
    led leader (spread policy earlier (first :: others)) = spread policy leader (first :: others) := by
  rw [spread, spread]
  cases kept : first.kept with
  | nil =>
    obtain rfl : leader = policy.short := taken.resolve_right (not_not_intro kept)
    exact led_spread_short policy others
  | cons object objects => rfl

theorem flatMap_led (policy : Policy) (files : List ObjectFile) :
    files.flatMap (fun file => led policy.short file.kept) = spread policy policy.short files := by
  induction files with
  | nil => rfl
  | cons file files ih => rw [List.flatMap_cons, spread, ih]

theorem joined_eq_spread (library : Library) (filled : library.files ≠ []) :
    library.joined = spread library.policy library.policy.long library.files ++ [endMark] := by
  obtain ⟨policy, files⟩ := library
  cases files with
  | nil => exact absurd rfl filled
  | cons first others =>
    rw [spread, ← flatMap_led]
    rfl

def asFile (library : Library) (name : String) : ObjectFile := { name, blocks := placed 0 library.joined }

theorem read_tape (library : Library) (sound : ∀ file ∈ library.files, file.Sound) (name : String) :
    read (.ofBytes library.tape) (named name) = .ok () (library.asFile name) :=
  ObjectFile.read_tape library.joined (sound_joined sound) library.policy.long name

theorem kept_asFile (library : Library) (filled : library.files ≠ []) (name : String) :
    (library.asFile name).kept = placed 0 (spread library.policy library.policy.long library.files) := by
  have unended := (unended_spread library.policy library.policy.long library.files).placed 0
  rw [asFile, kept, joined_eq_spread library filled, placed_append]
  exact unended.rdropWhile_concat rfl

theorem bytes_nested (policy : Policy) (leader : Nat) (first : ObjectFile) (others back : List ObjectFile)
    (name : String) (taken : leader = policy.short ∨ first.kept ≠ []) :
    (spread policy leader (asFile ⟨policy, first :: others⟩ name :: back)).flatMap (·.block.bytes) =
      (spread policy leader ((first :: others) ++ back)).flatMap (·.block.bytes) := by
  have filled : (Library.mk policy (first :: others)).files ≠ [] := List.cons_ne_nil _ _
  rw [spread_append, if_neg filled, spread, kept_asFile _ filled, List.flatMap_append, bytes_led_placed,
    led_spread policy leader policy.long first others taken, List.flatMap_append]

theorem tape_nested (policy : Policy) (first : ObjectFile) (others front back : List ObjectFile) (name : String)
    (taken : front ≠ [] ∨ first.kept ≠ []) :
    tape ⟨policy, front ++ asFile ⟨policy, first :: others⟩ name :: back⟩ =
      tape ⟨policy, front ++ (first :: others) ++ back⟩ := by
  have leading : (if front = [] then policy.long else policy.short) = policy.short ∨ first.kept ≠ [] :=
    taken.imp_left fun filled => if_neg filled
  rw [tape, tape, joined_eq_spread _ (by simp), joined_eq_spread _ (by simp)]
  simp only [List.append_assoc, spread_append, List.flatMap_append, bytes_nested _ _ _ _ _ _ leading]

/-- A library tape, read back as one file, takes the place of the files that it was assembled from. Without a
    file in front of it, this asks for a first file that keeps a block: else the first block on the library tape
    has the short leader of a later file, where the long one would be set. -/
theorem assemble_nested (policy : Policy) (first : ObjectFile) (others : List ObjectFile)
    (sound : ∀ file ∈ first :: others, file.Sound) (name : String) :
    ∃ tape nested, Assembles ⟨policy, first :: others⟩ tape ∧
      read (.ofBytes tape) (named name) = .ok () nested ∧
      ∀ front back : List ObjectFile, front ≠ [] ∨ first.stripEndMarkers.blocks ≠ [] →
        ∃ whole, Assembles ⟨policy, front ++ nested :: back⟩ whole ∧
          Assembles ⟨policy, front ++ (first :: others) ++ back⟩ whole := by
  have inner := assembles_tape ⟨policy, first :: others⟩ (List.cons_ne_nil _ _)
  refine ⟨_, _, inner, read_tape _ sound name, ?_⟩
  intro front back taken
  have nested := assembles_tape ⟨policy, front ++ asFile ⟨policy, first :: others⟩ name :: back⟩ (by simp)
  have flat := assembles_tape ⟨policy, front ++ (first :: others) ++ back⟩ (by simp)
  rw [tape_nested policy first others front back name taken] at nested
  exact ⟨_, nested, flat⟩

def emptied : ObjectFile := ⟨"mark.obj", 3, [.endMark]⟩

def sine : ObjectFile :=
  ⟨"sin.obj", 7, [⟨⟨5, [0x1004], false, 9⟩, ⟨1, 0, .absoluteWords⟩⟩, ⟨⟨0, [0o300], false, 0⟩, ⟨0, 3, .endOfJob⟩⟩,
    .endMark]⟩

def cosine : ObjectFile := ⟨"cos.obj", 0, [⟨⟨3, [0x2000], false, 0⟩, ⟨2, 0, .relocatableWords⟩⟩]⟩

def trigonometry : ObjectFile :=
  ⟨"trig.obj", 0, [⟨⟨1, [0x1004], false, 1⟩, ⟨1, 0, .absoluteWords⟩⟩, ⟨⟨0, [], true, 10⟩, .endOfTape⟩]⟩

theorem assemble_nested_emptied :
    (∀ file ∈ [emptied, sine], file.Sound) ∧ ([cosine] ≠ [] ∨ emptied.stripEndMarkers.blocks ≠ []) ∧
      ∃ tape, Assembles ⟨{ long := 2, short := 1 }, [emptied, sine]⟩ tape ∧
        read (.ofBytes tape) (named "trig.obj") = .ok () trigonometry ∧
        ∃ whole, Assembles ⟨{ long := 2, short := 1 }, [cosine, trigonometry, emptied]⟩ whole ∧
          Assembles ⟨{ long := 2, short := 1 }, [cosine, emptied, sine, emptied]⟩ whole ∧
          whole =
            [0x00, 0x00, 0x81, 0x82, 0x80, 0x80, 0x82, 0x80, 0x80, 0x93, 0xFF, 0x00, 0x81, 0x81, 0x80, 0x84, 0x81,
              0x80, 0x84, 0x93, 0xFF, 0x83, 0x93, 0xFF, 0x00, 0x00] := by
  have sound : ∀ file ∈ [emptied, sine], file.Sound := by decide
  have taken : [cosine] ≠ [] ∨ emptied.stripEndMarkers.blocks ≠ [] := .inl (by decide)
  obtain ⟨tape, nested, inner, back, same⟩ :=
    assemble_nested { long := 2, short := 1 } emptied [sine] sound "trig.obj"
  obtain rfl := inner.unique (assembles_tape _ (List.cons_ne_nil _ _))
  obtain rfl : nested = trigonometry := by
    cases back.symm.trans (read_tape _ sound "trig.obj")
    rfl
  obtain ⟨whole, outer, flat⟩ := same [cosine] [emptied] taken
  exact ⟨sound, taken, _, inner, back, whole, outer, flat, flat.unique (assembles_tape _ (List.cons_ne_nil _ _))⟩

end Library

end PaperTape
