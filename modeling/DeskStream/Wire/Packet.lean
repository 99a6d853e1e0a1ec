import DeskStream.Wire.Error
/-!
# Packets

Thirteen octets of header and a payload:

    kind 1 | timestamp 8 | sequence 4 | payload

Words are written most significant octet first. A packet may arrive in several chunks; reading
takes octets across their borders.

Main statement: the borders of the chunks do not matter (`ofChunks_eq_decode`).
-/

namespace DeskStream.Wire

/-- What a packet carries. -/
inductive PacketKind where
  | video | audio | input | control | keepAlive | auth
  deriving Repr, DecidableEq

namespace PacketKind

/-- What a kind is called in reports. -/
def name : PacketKind → String
  | video => "VideoFrame"
  | audio => "AudioFrame"
  | input => "InputEvent"
  | control => "Control"
  | keepAlive => "KeepAlive"
  | auth => "Auth"

/-- The octet that stands for a kind. -/
def tag : PacketKind → UInt8
  | video => 1
  | audio => 2
  | input => 3
  | control => 4
  | keepAlive => 5
  | auth => 6

/-- The kind an octet stands for. -/
def ofTag? : UInt8 → Option PacketKind
  | 1 => some video
  | 2 => some audio
  | 3 => some input
  | 4 => some control
  | 5 => some keepAlive
  | 6 => some auth
  | _ => none

/-- Video or audio. -/
def isMedia : PacketKind → Bool
  | video | audio => true
  | _ => false

theorem ofTag?_tag (k : PacketKind) : ofTag? k.tag = some k := by cases k <;> rfl

theorem tag_of_ofTag? {o : UInt8} {k : PacketKind} (h : ofTag? o = some k) : k.tag = o := by
  unfold ofTag? at h
  split at h <;> simp_all <;> subst h <;> rfl

end PacketKind

/-- A packet of a stream; `timestamp` is in milliseconds on the sender's clock. -/
structure Packet where
  kind : PacketKind
  timestamp : UInt64
  sequence : UInt32
  payload : Bytes
  deriving Repr, DecidableEq

namespace Packet

/-- Octets in front of the payload. -/
def headerSize : Nat := 13

/-- Octets of the encoding. -/
def size (p : Packet) : Nat := headerSize + p.payload.length

/-- The octets of a packet. -/
def encode (p : Packet) : Bytes :=
  p.kind.tag :: (Bytes.ofUInt64 p.timestamp ++ Bytes.ofUInt32 p.sequence ++ p.payload)

/-- The packet that octets spell. A buffer shorter than the header is reported before its kind. -/
def decode (b : Bytes) : Except WireError Packet :=
  match b with
  | [] => .error (.invalidPacket (.tooShort 0))
  | o :: r =>
    if b.length < headerSize then .error (.invalidPacket (.tooShort b.length))
    else match PacketKind.ofTag? o with
      | none => .error (.invalidPacket (.unknownKind o))
      | some kind => .ok {
          kind
          timestamp := Bytes.toUInt64 (r.take 8)
          sequence := Bytes.toUInt32 ((r.drop 8).take 4)
          payload := r.drop 12 }

@[simp] theorem length_encode (p : Packet) : p.encode.length = p.size := by
  simp [encode, size, headerSize]
  omega

end Packet

/-! ## Packets in chunks -/

namespace Chunks

/-- Octets left in the chunks. -/
def remaining : List Bytes → Nat
  | [] => 0
  | c :: cs => c.length + remaining cs

/-- The next `n` octets, taken across borders, and the chunks after them. -/
def take : Nat → List Bytes → Bytes × List Bytes
  | 0, cs => ([], cs)
  | _ + 1, [] => ([], [])
  | n + 1, [] :: cs => take (n + 1) cs
  | n + 1, (o :: c) :: cs => let (b, rest) := take n (c :: cs); (o :: b, rest)
termination_by n cs => (n, cs.length)

theorem remaining_eq (cs : List Bytes) : remaining cs = cs.flatten.length := by
  induction cs with
  | nil => rfl
  | cons c cs ih => simp [remaining, ih]

theorem take_fst (n : Nat) (cs : List Bytes) : (take n cs).1 = cs.flatten.take n := by
  fun_induction take n cs <;> simp_all

theorem take_snd (n : Nat) (cs : List Bytes) : (take n cs).2.flatten = cs.flatten.drop n := by
  fun_induction take n cs <;> simp_all

end Chunks

namespace Packet

/-- The packet that a buffer in several chunks spells, read field by field. -/
def ofChunks (cs : List Bytes) : Except WireError Packet :=
  if Chunks.remaining cs < headerSize then .error (.invalidPacket (.tooShort (Chunks.remaining cs)))
  else
    let (tag, cs) := Chunks.take 1 cs
    match PacketKind.ofTag? (tag.headD 0) with
    | none => .error (.invalidPacket (.unknownKind (tag.headD 0)))
    | some kind =>
      let (timestamp, cs) := Chunks.take 8 cs
      let (sequence, cs) := Chunks.take 4 cs
      .ok {
        kind
        timestamp := Bytes.toUInt64 timestamp
        sequence := Bytes.toUInt32 sequence
        payload := cs.flatten }

/-- The borders of the chunks do not matter. -/
theorem ofChunks_eq_decode (cs : List Bytes) : ofChunks cs = decode cs.flatten := by
  unfold ofChunks decode
  simp only [Chunks.remaining_eq, Chunks.take_fst, Chunks.take_snd]
  cases h : cs.flatten with
  | nil => simp [headerSize]
  | cons o r => simp

end Packet
end DeskStream.Wire
