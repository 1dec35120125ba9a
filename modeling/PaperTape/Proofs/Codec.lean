import PaperTape.Proofs.Delivery
import PaperTape.Proofs.Spelling
import PaperTape.Proofs.Writing

namespace PaperTape

namespace Frame

def channel6 : UInt8 := 0x20

/-- ENQ, LF, DC1 and DC3. -/
def reserved : List UInt8 := [0o005, 0o012, 0o021, 0o023]

def spares : List UInt8 := [0o174, 0o175, 0o176, 0o177]

/-- A frame that can hold a group of bits. Channel 8 is punched, and the lower channels are no control character.
    Once these are exchanged, only the given channels are punched, and channel 6 never is: on the tape itself it
    is found on the spare frames alone. -/
structure Holds (channels frame : UInt8) : Prop where
  eighth : frame &&& channel8 ≠ 0
  unreserved : frame &&& lowerChannels ∉ reserved
  within : exchange frame &&& lowerChannels &&& ~~~channels = 0
  sixth : exchange frame &&& channel6 = 0
  spare : frame &&& channel6 ≠ 0 → frame &&& lowerChannels ∈ spares

set_option maxRecDepth 8000 in
theorem spare_of_sixth :
    ∀ frame, exchange frame &&& channel6 = 0 →
      frame &&& lowerChannels ∉ reserved ∧ (frame &&& channel6 ≠ 0 → frame &&& lowerChannels ∈ spares) :=
  forall_of_numbers (by decide)

theorem holds_of_value? {channels frame value : UInt8}
    (unused : lowerChannels &&& ~~~channels &&& channel6 = channel6) (held : value? channels frame = some value) :
    Holds channels frame := by
  simp only [value?, Option.ite_none_left_eq_some, Bool.or_eq_true, beq_iff_eq, bne_iff_ne, not_or,
    Decidable.not_not] at held
  obtain ⟨⟨eighth, within⟩, -⟩ := held
  have sixth : exchange frame &&& channel6 = 0 := by
    calc
      exchange frame &&& channel6 = exchange frame &&& lowerChannels &&& ~~~channels &&& channel6 := by
        rw [UInt8.and_assoc, UInt8.and_assoc, ← UInt8.and_assoc lowerChannels, unused]
      _ = 0 := by rw [within, UInt8.zero_and]
  obtain ⟨unreserved, spare⟩ := spare_of_sixth frame sixth
  exact ⟨eighth, unreserved, within, sixth, spare⟩

end Frame

def Word.Legible (word : UInt16) : Prop :=
  ∃ first second third, frames word = [first, second, third] ∧ Frame.Holds Frame.leadingChannels first ∧
    Frame.Holds Frame.followingChannels second ∧ Frame.Holds Frame.followingChannels third

theorem Word.legible (word : UInt16) : Legible word :=
  ⟨_, _, _, rfl, Frame.holds_of_value? (by decide) (Frame.value?_punch_leading _ (high_lt word)),
    Frame.holds_of_value? (by decide) (Frame.value?_punch _ (middle_lt word)),
    Frame.holds_of_value? (by decide) (Frame.value?_punch _ (low_lt word))⟩

theorem Signal.Delivers.values {signals : List Signal} {bytes : List UInt8} (delivers : Delivers signals bytes) :
    values signals = bytes := by
  induction delivers with
  | nil => rfl
  | byte value _ ih => exact congrArg (value :: ·) ih
  | interrupted _ ih => exact ih

namespace Block

/-- How a data block stands on a tape: words between the markers, each on legible frames, and the last of them
    the checksum of the block's own. Without any words there is no checksum either. -/
def Carried (block : Block) (taken : List UInt8) : Prop :=
  ∃ words,
    taken =
      List.replicate block.leader Frame.blank ++
        (Frame.startMarker :: words.flatMap Word.frames ++ [Frame.midBlockMarker, Frame.terminator]) ∧
    (words = block.words ++ [Word.checksum block.words] ∨ words = [] ∧ block.words = []) ∧
    ∀ word ∈ words, Word.Legible word

theorem Spelling.carried {block : Block} {taken : List UInt8} (spelled : block.Spelling taken)
    (unmarked : block.endOfTape = false) : block.Carried taken := by
  cases spelled with
  | punched wellFormed =>
    refine ⟨_, ?_, .inl rfl, fun word _ => Word.legible word⟩
    simp [bytes, body, checksum, unmarked]
  | alternate marked empty =>
    rw [unmarked] at marked
    cases marked
  | bare unmarked empty => exact ⟨[], rfl, .inr ⟨rfl, empty⟩, List.forall_mem_nil _⟩

theorem bytes_endMark {block : Block} (marked : block.endOfTape = true) :
    block.bytes =
      List.replicate block.leader Frame.blank ++
        [Frame.endOfTapeMarker, Frame.midBlockMarker, Frame.terminator] := by
  simp [bytes, body, marked]

theorem bytes_empty {block : Block} (unmarked : block.endOfTape = false) (empty : block.words = []) :
    block.bytes =
      List.replicate block.leader Frame.blank ++
        [Frame.startMarker, 0x80, 0x80, 0x80, Frame.midBlockMarker, Frame.terminator] := by
  simp only [bytes, body, checksum, unmarked, empty]
  rfl

/-- A block is decoded from what it is written as, up to its last frame and no further. -/
theorem decode_encode (block : Block) (wellFormed : block.WellFormed) :
    Writer.Appends block.encode block.bytes ∧ block.bytes.length = block.leader + block.extent ∧
      ∀ (rest : List Signal) (offset : Nat),
        decode ⟨block.bytes.map .byte ++ rest, offset⟩ =
          .ok ⟨block.leader, block.words, block.endOfTape, offset + block.leader⟩
            ⟨rest, offset + block.bytes.length⟩ :=
  ⟨block.appends_encode, block.length_bytes, block.decode_bytes wellFormed⟩

theorem decode_encode_markers :
    Block.WellFormed ⟨2, [0x10D3], false, 0⟩ ∧
      Writer.Appends (encode ⟨2, [0x10D3], false, 0⟩)
        [0x00, 0x00, 0x81, 0x81, 0x83, 0xFF, 0x81, 0x83, 0xFF, 0x93, 0xFF] ∧
      decode
        ⟨[0x00, 0x00, 0x81, 0x81, 0x83, 0xFF, 0x81, 0x83, 0xFF, 0x93, 0xFF].map .byte ++
          [.byte 0x93, .byte 0xFF], 7⟩ =
        .ok ⟨2, [0x10D3], false, 9⟩ ⟨[.byte 0x93, .byte 0xFF], 18⟩ := by
  have wellFormed : Block.WellFormed ⟨2, [0x10D3], false, 0⟩ := by decide
  obtain ⟨written, -, decoded⟩ := decode_encode ⟨2, [0x10D3], false, 0⟩ wellFormed
  exact ⟨wellFormed, written, decoded [.byte 0x93, .byte 0xFF] 7⟩

theorem decode_iff_spelling (reader left : Reader) (block : Block) :
    decode reader = .ok block left ↔
      ∃ read taken, reader.signals = read ++ left.signals ∧ Signal.Delivers read taken ∧
        left.offset = reader.offset + taken.length ∧ block.position = reader.offset + block.leader ∧
        block.Spelling taken := by
  constructor
  · intro decoded
    obtain ⟨read, first, bytes, split, delivers, stopped⟩ :=
      Reader.feed_delivered (fun _ _ => rfl) reader.signals decoded
    obtain ⟨read', same, spelled, position, -⟩ := decode_spelling decoded
    obtain rfl : read' = read := List.append_cancel_right (same.symm.trans split)
    rw [delivers.values] at spelled
    exact ⟨read', first :: bytes, split, delivers, stopped, position, spelled⟩
  · obtain ⟨signals, start⟩ := reader
    rintro ⟨read, taken, split, delivers, stopped, position, spelled⟩
    have decoded := Reader.feed_of_delivers delivers (decode_spelled spelled left.signals position)
    rw [← split, ← stopped] at decoded
    exact decoded

/-- A block is decoded exactly if the stream delivers what the block is written as or one of two alternate forms:
    an end-of-tape mark led by the terminator, or a block without words that lacks the checksum word. -/
theorem decode_eq_ok_iff (reader left : Reader) (block : Block) :
    decode reader = .ok block left ↔
      ∃ read taken, reader.signals = read ++ left.signals ∧ Signal.Delivers read taken ∧
        left.offset = reader.offset + taken.length ∧ block.position = reader.offset + block.leader ∧
        block.WellFormed ∧ (block.endOfTape = false → block.Carried taken) ∧
        (Writer.Appends block.encode taken ∨
          (block.endOfTape = true ∧
            taken =
              List.replicate block.leader Frame.blank ++
                [Frame.terminator, Frame.midBlockMarker, Frame.terminator] ∧
            Writer.Appends block.encode
              (List.replicate block.leader Frame.blank ++
                [Frame.endOfTapeMarker, Frame.midBlockMarker, Frame.terminator])) ∨
          (block.endOfTape = false ∧ block.words = [] ∧
            taken =
              List.replicate block.leader Frame.blank ++
                [Frame.startMarker, Frame.midBlockMarker, Frame.terminator] ∧
            Writer.Appends block.encode
              (List.replicate block.leader Frame.blank ++
                [Frame.startMarker, 0x80, 0x80, 0x80, Frame.midBlockMarker, Frame.terminator]))) := by
  have written := block.appends_encode
  rw [decode_iff_spelling]
  constructor
  · rintro ⟨read, taken, split, delivers, stopped, position, spelled⟩
    refine ⟨read, taken, split, delivers, stopped, position, spelled.wellFormed, spelled.carried, ?_⟩
    cases spelled with
    | punched wellFormed => exact .inl written
    | alternate marked empty =>
      rw [bytes_endMark marked] at written
      exact .inr (.inl ⟨marked, rfl, written⟩)
    | bare unmarked empty =>
      rw [bytes_empty unmarked empty] at written
      exact .inr (.inr ⟨unmarked, empty, rfl, written⟩)
  · rintro ⟨read, taken, split, delivers, stopped, position, wellFormed, -, form⟩
    refine ⟨read, taken, split, delivers, stopped, position, ?_⟩
    rcases form with same | ⟨marked, rfl, -⟩ | ⟨unmarked, empty, rfl, -⟩
    · rw [same.unique written]
      exact .punched wellFormed
    · exact .alternate marked (wellFormed marked)
    · exact .bare unmarked empty

/-- The frames of an accepted block are only so restricted once they are exchanged: on a tape, a spare frame punches
    channel 6, and it does so as the first frame of a word too. -/
theorem not_unpunched_of_decode :
    (¬ ∀ frames block left,
      decode ⟨(Frame.startMarker :: frames ++ [Frame.midBlockMarker, Frame.terminator]).map .byte, 0⟩ =
          .ok block left →
        ∀ frame ∈ frames, frame &&& Frame.channel6 = 0) ∧
    ¬ ∀ first second third rest block left,
      decode ⟨(Frame.startMarker :: first :: second :: third :: rest ++
          [Frame.midBlockMarker, Frame.terminator]).map .byte, 0⟩ = .ok block left →
        first &&& Frame.lowerChannels &&& ~~~Frame.leadingChannels = 0 := by
  constructor
  · intro unpunched
    have decoded : decode ⟨[0x81, 0x80, 0x80, 0xFC, 0x80, 0x80, 0xFC, 0x93, 0xFF].map .byte, 0⟩ =
        .ok ⟨0, [0o005], false, 0⟩ ⟨[], 9⟩ := rfl
    have sixth := unpunched [0x80, 0x80, 0xFC, 0x80, 0x80, 0xFC] _ _ decoded 0xFC (by decide)
    exact absurd sixth (by decide)
  · intro unpunched
    have decoded : decode ⟨[0x81, 0xFC, 0x80, 0x80, 0xFC, 0x80, 0x80, 0x93, 0xFF].map .byte, 0⟩ =
        .ok ⟨0, [0x5000], false, 0⟩ ⟨[], 9⟩ := rfl
    have leading := unpunched 0xFC 0x80 0x80 [0xFC, 0x80, 0x80] _ _ decoded
    exact absurd leading (by decide)

/-- A control character is refused where it is punched itself. -/
example : decode ⟨[0x81, 0x80, 0x80, 0x85].map .byte, 0⟩ = .error (.badFrame 3 0x85) ⟨[], 4⟩ := rfl

end Block

end PaperTape
