import Mathlib
import PaperTape.Proofs.Joining

namespace PaperTape

namespace Tape

def Opens (count : Nat) (tape : List UInt8) : Prop :=
  ∃ frame rest, frame ≠ Frame.blank ∧ tape = List.replicate count Frame.blank ++ frame :: rest

def Closes (count : Nat) (tape : List UInt8) : Prop :=
  ∃ front, tape = front ++ [Frame.endOfTapeMarker, Frame.midBlockMarker, Frame.terminator] ++
    List.replicate count Frame.blank

theorem Opens.length_takeWhile {count : Nat} {tape : List UInt8} (opens : Opens count tape) :
    (tape.takeWhile (· == Frame.blank)).length = count := by
  obtain ⟨frame, rest, punched, rfl⟩ := opens
  have stops : (frame == Frame.blank) = false := beq_eq_false_iff_ne.mpr punched
  simp [stops]

theorem Opens.unique {count other : Nat} {tape : List UInt8} (one : Opens count tape) (two : Opens other tape) :
    count = other := one.length_takeWhile.symm.trans two.length_takeWhile

end Tape

theorem Block.opens_bytes (block : Block) (rest : List UInt8) : Tape.Opens block.leader (block.bytes ++ rest) := by
  obtain ⟨frame, body, same, punched⟩ := block.body_eq_cons
  rw [bytes, same, List.append_assoc]
  exact ⟨frame, _, punched, rfl⟩

namespace Library

open ObjectBlock ObjectFile

def keepsBlock (file : ObjectFile) : Bool := !file.kept.isEmpty

/-- The leader at the start of a library tape: the long one if the first file keeps a block, the short one if
    only a later file does, and none if all files are emptied. -/
def opening (library : Library) : Nat :=
  match library.files with
  | [] => 0
  | first :: others =>
    if keepsBlock first then library.policy.long
    else if others.any keepsBlock then library.policy.short
    else 0

theorem head_led (leader : Nat) (file : ObjectFile) (rest : List ObjectBlock) :
    ((led leader file.kept ++ rest).head?.map fun object => object.block.leader) =
      if keepsBlock file then some leader else rest.head?.map fun object => object.block.leader := by
  unfold keepsBlock
  cases file.kept <;> rfl

theorem head_others (policy : Policy) (others : List ObjectFile) :
    (((others.flatMap fun file => led policy.short file.kept) ++ [endMark]).head?.map
      fun object => object.block.leader) = some (if others.any keepsBlock then policy.short else 0) := by
  induction others with
  | nil => rfl
  | cons next others ih =>
    rw [List.flatMap_cons, List.append_assoc, head_led, ih, List.any_cons]
    cases keepsBlock next <;> rfl

theorem head_joined (library : Library) (filled : library.files ≠ []) :
    ∃ first rest, library.joined = first :: rest ∧ first.block.leader = library.opening := by
  obtain ⟨policy, files⟩ := library
  cases files with
  | nil => exact absurd rfl filled
  | cons first others =>
    have head : ((join policy policy.long first others).head?.map fun object => object.block.leader) =
        some (opening ⟨policy, first :: others⟩) := by
      rw [join, List.append_assoc, head_led, head_others]
      simp only [opening]
      cases keepsBlock first <;> rfl
    obtain ⟨object, same, leader⟩ := Option.map_eq_some_iff.mp head
    obtain ⟨rest, joined⟩ := List.head?_eq_some_iff.mp same
    exact ⟨object, rest, joined, leader⟩

/-- The tape of a library ends with the long trailer, whatever its files hold. It begins with the long leader
    if and only if that is the one of its first block. -/
theorem assemble_opens (library : Library) (filled : library.files ≠ []) {sink : Sink}
    (accepting : sink.Accepting) :
    ∃ tape, (library.assemble sink).result = .ok () ∧
      (library.assemble sink).writer.output.held.toList = sink.held.toList ++ tape ∧
      Tape.Closes library.policy.long tape ∧ Tape.Opens library.opening tape ∧
      (Tape.Opens library.policy.long tape ↔ library.opening = library.policy.long) := by
  obtain ⟨assembled, held⟩ := library.assemble_accepting filled accepting
  have opens : Tape.Opens library.opening library.tape := by
    obtain ⟨first, rest, joined, leader⟩ := library.head_joined filled
    rw [tape, joined, List.flatMap_cons, List.append_assoc, ← leader]
    exact first.block.opens_bytes _
  have closes : Tape.Closes library.policy.long library.tape := by
    obtain ⟨front, joined⟩ := library.joined_concat filled
    refine ⟨front.flatMap (·.block.bytes), ?_⟩
    rw [tape, joined, List.flatMap_append]
    rfl
  refine ⟨library.tape, assembled, held, closes, opens, ?_, ?_⟩
  · exact fun long => opens.unique long
  · intro same
    rwa [same] at opens

def emptiedFirst : Library :=
  { policy := { long := 4, short := 1 }
    files := [⟨"mark.obj", 0, [.endMark]⟩, ⟨"sin.obj", 0, [⟨⟨0, [0x1004], false, 0⟩, ⟨1, 0, .absoluteWords⟩⟩]⟩] }

theorem assemble_opens_emptiedFirst :
    emptiedFirst.files ≠ [] ∧ Sink.Accepting {} ∧
      ∃ tape, (emptiedFirst.assemble ({} : Sink)).result = .ok () ∧
        (emptiedFirst.assemble ({} : Sink)).writer.output.held.toList = [] ++ tape ∧
        Tape.Closes 4 tape ∧ Tape.Opens 1 tape ∧ (Tape.Opens 4 tape ↔ 1 = 4) :=
  ⟨by decide, Sink.accepting_empty, assemble_opens emptiedFirst (by decide) Sink.accepting_empty⟩

/-- Not every library tape begins with the long leader: a single file that is emptied gets its end mark after
    the leaders are set. -/
theorem not_opens_long :
    ¬ ∀ library : Library, library.files ≠ [] →
      Tape.Opens library.policy.long (library.assemble ({} : Sink)).writer.output.held.toList := by
  intro always
  have opens := always { policy := { long := 4, short := 1 }, files := [⟨"mark.obj", 0, [.endMark]⟩] } (by decide)
  have held : ((Library.mk { long := 4, short := 1 } [⟨"mark.obj", 0, [.endMark]⟩]).assemble
      ({} : Sink)).writer.output.held.toList = [0x83, 0x93, 0xFF, 0, 0, 0, 0] := by
    cbv
  rw [held] at opens
  exact absurd opens.length_takeWhile (by decide)

end Library

end PaperTape
