import PaperTape.Word

namespace PaperTape

namespace Frame

def Faithful (channels limit : UInt8) : Prop :=
  ∀ frame value, value? channels frame = some value → value < limit ∧ punch value = frame

theorem faithful_of_all {channels limit : UInt8}
    (each : ∀ frame, (value? channels frame).all (fun value => value < limit && punch value == frame) = true) :
    Faithful channels limit := by
  intro frame value held
  have both := each frame
  rw [held, Option.all_some, Bool.and_eq_true, decide_eq_true_eq, beq_iff_eq] at both
  exact both

set_option maxRecDepth 8000 in
theorem faithful_leading : Faithful leadingChannels 16 :=
  faithful_of_all (forall_of_numbers (by decide))

set_option maxRecDepth 8000 in
theorem faithful_following : Faithful followingChannels 64 :=
  faithful_of_all (forall_of_numbers (by decide))

end Frame

namespace Word

theorem high_lt (word : UInt16) : high word < 16 := by
  have bound := word.toNat_lt
  apply UInt8.lt_iff_toNat_lt.mpr
  rw [high, UInt8.toNat_ofNat']
  change word.toNat / 4096 % 256 < 16
  omega

theorem middle_lt (word : UInt16) : middle word < 64 := by
  apply UInt8.lt_iff_toNat_lt.mpr
  rw [middle, UInt8.toNat_ofNat']
  change word.toNat / 64 % 64 % 256 < 64
  omega

theorem low_lt (word : UInt16) : low word < 64 := by
  apply UInt8.lt_iff_toNat_lt.mpr
  rw [low, UInt8.toNat_ofNat']
  change word.toNat % 64 % 256 < 64
  omega

theorem groups_join (first second third : UInt8) (h1 : first < 16) (h2 : second < 64) (h3 : third < 64) :
    high (join first second third) = first ∧ middle (join first second third) = second ∧
      low (join first second third) = third := by
  have b1 : first.toNat < 16 := UInt8.lt_iff_toNat_lt.mp h1
  have b2 : second.toNat < 64 := UInt8.lt_iff_toNat_lt.mp h2
  have b3 : third.toNat < 64 := UInt8.lt_iff_toNat_lt.mp h3
  refine ⟨?_, ?_, ?_⟩
  all_goals
    apply UInt8.toNat_inj.mp
    simp only [high, middle, low, join, UInt16.toNat_ofNat', UInt8.toNat_ofNat']
    omega

theorem frames_join (first second third : UInt8) (h1 : first < 16) (h2 : second < 64) (h3 : third < 64) :
    frames (join first second third) = [Frame.punch first, Frame.punch second, Frame.punch third] := by
  obtain ⟨same1, same2, same3⟩ := groups_join first second third h1 h2 h3
  rw [frames, same1, same2, same3]

theorem length_flatMap_frames (words : List UInt16) : (words.flatMap frames).length = 3 * words.length := by
  induction words with
  | nil => rfl
  | cons word words ih =>
    rw [List.flatMap_cons, List.length_append, ih, length_frames, List.length_cons]
    omega

theorem foldl_xor (words : List UInt16) (start : UInt16) :
    words.foldl (· ^^^ ·) start = start ^^^ checksum words := by
  unfold checksum
  induction words generalizing start with
  | nil => exact UInt16.xor_zero.symm
  | cons word words ih =>
    rw [List.foldl_cons, List.foldl_cons, ih (start ^^^ word), ih (0 ^^^ word), UInt16.zero_xor,
      UInt16.xor_assoc]

theorem checksum_concat (words : List UInt16) (last : UInt16) :
    checksum (words ++ [last]) = checksum words ^^^ last := by
  unfold checksum
  rw [List.foldl_append]
  rfl

theorem checksum_checksum (words : List UInt16) : checksum (words ++ [checksum words]) = 0 := by
  rw [checksum_concat, UInt16.xor_self]

theorem eq_checksum (words : List UInt16) (last : UInt16) (zero : checksum (words ++ [last]) = 0) :
    last = checksum words := by
  rw [checksum_concat] at zero
  exact (UInt16.xor_eq_zero_iff.mp zero).symm

end Word

end PaperTape
