namespace PaperTape.Frame

def startMarker : UInt8 := 0x81

def endOfTapeMarker : UInt8 := 0x83

def midBlockMarker : UInt8 := 0x93

def terminator : UInt8 := 0xFF

def blank : UInt8 := 0

def channel8 : UInt8 := 0x80

def lowerChannels : UInt8 := 0x7F

def leadingChannels : UInt8 := 0o017

def followingChannels : UInt8 := 0o137

/-- Frames that collide with control characters of the tape readers (ENQ, LF, DC1, DC3), each with the frame
    punched in its place. -/
def exchanged : List (UInt8 × UInt8) := [(0o005, 0o174), (0o012, 0o175), (0o021, 0o176), (0o023, 0o177)]

/-- Exchanges the lower seven channels with their partner, if they have one. Doing it twice changes nothing,
    so it serves for punching and for reading. -/
def exchange (frame : UInt8) : UInt8 :=
  let low := frame &&& lowerChannels
  match exchanged.find? fun pair => low == pair.1 || low == pair.2 with
  | some (reserved, spare) => (frame &&& channel8) ||| (if low == reserved then spare else reserved)
  | none => frame

def punch (value : UInt8) : UInt8 :=
  let five := value &&& 0o37
  let sixth := (value &&& 0o40) <<< 1
  channel8 ||| exchange (five ||| sixth)

/-- The value on a frame, or `none` if channel 8 is missing or a channel outside of `channels` is punched. -/
def value? (channels frame : UInt8) : Option UInt8 :=
  let low := exchange frame &&& lowerChannels
  let five := low &&& 0o37
  let sixth := (low &&& 0o100) >>> 1
  if frame &&& channel8 == 0 || low &&& ~~~channels != 0 then none else some (five ||| sixth)

theorem forall_of_numbers {holds : UInt8 → Prop} (numbers : ∀ n : Fin 256, holds (UInt8.ofNat n)) :
    ∀ byte, holds byte := by
  intro byte
  have same := numbers ⟨byte.toNat, byte.toNat_lt⟩
  rwa [UInt8.ofNat_toNat] at same

set_option maxRecDepth 8000 in
theorem exchange_exchange : ∀ frame, exchange (exchange frame) = frame :=
  forall_of_numbers (by decide)

set_option maxRecDepth 8000 in
theorem value?_punch :
    ∀ value : UInt8, value < 64 → value? followingChannels (punch value) = some value :=
  forall_of_numbers (by decide)

set_option maxRecDepth 8000 in
theorem value?_punch_leading :
    ∀ value : UInt8, value < 16 → value? leadingChannels (punch value) = some value :=
  forall_of_numbers (by decide)

set_option maxRecDepth 8000 in
theorem punch_ne_midBlockMarker : ∀ value, punch value ≠ midBlockMarker :=
  forall_of_numbers (by decide)

end PaperTape.Frame
