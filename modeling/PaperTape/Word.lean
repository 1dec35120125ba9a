import PaperTape.Frame

namespace PaperTape.Word

def high (word : UInt16) : UInt8 := UInt8.ofNat (word.toNat / 4096)

def middle (word : UInt16) : UInt8 := UInt8.ofNat (word.toNat / 64 % 64)

def low (word : UInt16) : UInt8 := UInt8.ofNat (word.toNat % 64)

def join (high middle low : UInt8) : UInt16 :=
  UInt16.ofNat (high.toNat % 16 * 4096 + middle.toNat % 64 * 64 + low.toNat % 64)

def frames (word : UInt16) : List UInt8 :=
  [Frame.punch (high word), Frame.punch (middle word), Frame.punch (low word)]

def checksum (words : List UInt16) : UInt16 := words.foldl (· ^^^ ·) 0

theorem join_groups (word : UInt16) : join (high word) (middle word) (low word) = word := by
  have bound := word.toNat_lt
  apply UInt16.toNat_inj.mp
  simp only [join, high, middle, low, UInt16.toNat_ofNat', UInt8.toNat_ofNat']
  omega

theorem length_frames (word : UInt16) : (frames word).length = 3 := rfl

end PaperTape.Word
