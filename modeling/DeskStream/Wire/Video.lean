import DeskStream.Wire.Error
/-!
# Video payloads

    codec 1 | width 2 | height 2 | access unit

Some codecs have a name. The tags of others are kept, so that the decoder can decide.

Main statements: codecs and tags stand for each other one to one (`ofTag_tag`, `tag_ofTag`).
-/

namespace DeskStream.Wire

/-- A video codec, as a tag stands for it: what is kept as `other` is no tag of a codec with a name. -/
inductive VideoCodec where
  | h264 | hevc | vp9
  | other (tag : UInt8) (unnamed : tag ≠ 1 ∧ tag ≠ 2 ∧ tag ≠ 3)
  deriving Repr, DecidableEq

namespace VideoCodec

/-- The octet that stands for a codec. -/
def tag : VideoCodec → UInt8
  | h264 => 1
  | hevc => 2
  | vp9 => 3
  | other tag _ => tag

/-- The codec an octet stands for. -/
def ofTag (tag : UInt8) : VideoCodec :=
  if h1 : tag = 1 then h264
  else if h2 : tag = 2 then hevc
  else if h3 : tag = 3 then vp9
  else other tag ⟨h1, h2, h3⟩

theorem ofTag_tag (c : VideoCodec) : ofTag c.tag = c := by
  cases c with
  | h264 | hevc | vp9 => rfl
  | other tag h =>
    obtain ⟨h1, h2, h3⟩ := h
    rw [VideoCodec.tag, ofTag, dif_neg h1, dif_neg h2, dif_neg h3]

theorem tag_ofTag (tag : UInt8) : (ofTag tag).tag = tag := by
  unfold ofTag
  split
  · rename_i h1; exact h1.symm
  · split
    · rename_i h2; exact h2.symm
    · split
      · rename_i h3; exact h3.symm
      · rfl

/-- The name of a codec, if it has one. -/
def name? : VideoCodec → Option String
  | h264 => some "h264"
  | hevc => some "hevc"
  | vp9 => some "vp9"
  | other .. => none

/-- The name, or the tag in hexadecimal. -/
def text (c : VideoCodec) : String := c.name?.getD s!"codec-0x{Hex.encode [c.tag]}"

end VideoCodec

/-- What a decode session is opened for. -/
structure VideoFormat where
  codec : VideoCodec
  width : UInt16
  height : UInt16
  deriving Repr, DecidableEq

/-- Codec and dimensions, as in `hevc 1920x1080`. -/
def VideoFormat.text (f : VideoFormat) : String := s!"{f.codec.text} {f.width.toNat}x{f.height.toNat}"

/-- An encoded picture. -/
structure VideoUnit where
  format : VideoFormat
  data : Bytes
  deriving Repr, DecidableEq

namespace VideoUnit

/-- Octets in front of the access unit. -/
def headerSize : Nat := 5

/-- The payload of an encoded picture. -/
def encode (v : VideoUnit) : Bytes :=
  v.format.codec.tag :: (Bytes.ofUInt16 v.format.width ++ Bytes.ofUInt16 v.format.height ++ v.data)

/-- The encoded picture of a payload. -/
def decode : Bytes → Except WireError VideoUnit
  | tag :: w1 :: w2 :: h1 :: h2 :: data => .ok {
      format := { codec := .ofTag tag, width := Bytes.toUInt16 [w1, w2], height := Bytes.toUInt16 [h1, h2] }
      data }
  | b => .error (.truncated .video headerSize b.length)

/-- A payload is read exactly if its header is whole. -/
theorem decode_isOk (payload : Bytes) : (∃ unit, decode payload = .ok unit) ↔ headerSize ≤ payload.length := by
  rcases payload with _ | ⟨o1, _ | ⟨o2, _ | ⟨o3, _ | ⟨o4, _ | ⟨o5, data⟩⟩⟩⟩⟩ <;> simp [decode, headerSize]

end VideoUnit
end DeskStream.Wire
