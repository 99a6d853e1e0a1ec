import DeskStream.Wire.Packet
/-!
# Packets are read back

Words of the header survive being written as octets and being read from them. So a packet is read back
(`Packet.decode_encode`), and octets that are read as a packet are those it is written as
(`Packet.encode_of_decode`). All else is refused, with the length of a buffer before its first octet
(`Packet.codec_exact`).
-/

namespace DeskStream

namespace Bytes

theorem toUInt32_ofUInt32 (w : UInt32) : toUInt32 (ofUInt32 w) = w := by
  have h : w.toNat < bound 4 := w.toNat_lt
  rw [toUInt32, ofUInt32, toNatBE_ofNatBE, Nat.mod_eq_of_lt h, UInt32.ofNat_toNat]

theorem toUInt64_ofUInt64 (w : UInt64) : toUInt64 (ofUInt64 w) = w := by
  have h : w.toNat < bound 8 := w.toNat_lt
  rw [toUInt64, ofUInt64, toNatBE_ofNatBE, Nat.mod_eq_of_lt h, UInt64.ofNat_toNat]

theorem ofUInt32_toUInt32 {b : Bytes} (h : b.length = 4) : ofUInt32 (toUInt32 b) = b := by
  have hlt := toNatBE_lt b
  have hb := ofNatBE_toNatBE b
  rw [h] at hlt hb
  rw [ofUInt32, toUInt32, UInt32.toNat_ofNat_of_lt' hlt, hb]

theorem ofUInt64_toUInt64 {b : Bytes} (h : b.length = 8) : ofUInt64 (toUInt64 b) = b := by
  have hlt := toNatBE_lt b
  have hb := ofNatBE_toNatBE b
  rw [h] at hlt hb
  rw [ofUInt64, toUInt64, UInt64.toNat_ofNat_of_lt' hlt, hb]

end Bytes

namespace Wire

/-- The octets that stand for kinds are those from one to six. -/
theorem PacketKind.ofTag?_eq_none_iff (o : UInt8) : ofTag? o = none ↔ ¬ (1 ≤ o ∧ o ≤ 6) := by
  unfold ofTag?
  split
  case h_7 => grind
  all_goals decide

namespace Packet

/-- An encoding is read back as its packet. -/
theorem decode_encode (p : Packet) : decode p.encode = .ok p := by
  have hl := p.length_encode
  have h8 : (Bytes.ofUInt64 p.timestamp).length = 8 := Bytes.length_ofUInt64 _
  have h4 : (Bytes.ofUInt32 p.sequence).length = 4 := Bytes.length_ofUInt32 _
  have timestamp (b : Bytes) : (Bytes.ofUInt64 p.timestamp ++ b).take 8 = Bytes.ofUInt64 p.timestamp := by
    rw [← h8, List.take_left]
  have behind (b : Bytes) : (Bytes.ofUInt64 p.timestamp ++ b).drop 8 = b := by rw [← h8, List.drop_left]
  have sequence (b : Bytes) : (Bytes.ofUInt32 p.sequence ++ b).take 4 = Bytes.ofUInt32 p.sequence := by
    rw [← h4, List.take_left]
  have payload : (Bytes.ofUInt64 p.timestamp ++ (Bytes.ofUInt32 p.sequence ++ p.payload)).drop 12 = p.payload := by
    rw [← List.drop_drop (i := 4) (j := 8), behind, ← h4, List.drop_left]
  unfold encode at hl ⊢
  rw [decode, if_neg (by rw [hl, size]; omega), PacketKind.ofTag?_tag, List.append_assoc, timestamp, behind,
    sequence, payload, Bytes.toUInt64_ofUInt64, Bytes.toUInt32_ofUInt32]

/-! ## What is read, and what is refused -/

variable {b r : Bytes} {o : UInt8} {p : Packet}

theorem decode_of_short (h : b.length < headerSize) : decode b = .error (.invalidPacket (.tooShort b.length)) := by
  unfold decode
  split
  · rfl
  · exact if_pos h

/-- With a whole header the first octet decides. -/
theorem decode_of_whole (h : headerSize ≤ (o :: r).length) :
    decode (o :: r) = match PacketKind.ofTag? o with
      | none => .error (.invalidPacket (.unknownKind o))
      | some kind => .ok {
          kind
          timestamp := Bytes.toUInt64 (r.take 8)
          sequence := Bytes.toUInt32 ((r.drop 8).take 4)
          payload := r.drop 12 } :=
  if_neg (Nat.not_lt.2 h)

theorem decode_of_unknown (h : headerSize ≤ (o :: r).length) (ho : ¬ (1 ≤ o ∧ o ≤ 6)) :
    decode (o :: r) = .error (.invalidPacket (.unknownKind o)) := by
  rw [decode_of_whole h, (PacketKind.ofTag?_eq_none_iff o).2 ho]

theorem exists_decode (h : headerSize ≤ (o :: r).length) (ho : 1 ≤ o ∧ o ≤ 6) : ∃ p, decode (o :: r) = .ok p := by
  rw [decode_of_whole h]
  cases hk : PacketKind.ofTag? o with
  | none => exact absurd ho ((PacketKind.ofTag?_eq_none_iff o).1 hk)
  | some kind => exact ⟨_, rfl⟩

/-- Octets that are read as a packet are those it is written as. -/
theorem encode_of_decode (h : decode b = .ok p) : p.encode = b := by
  by_cases hl : b.length < headerSize
  · cases (decode_of_short hl).symm.trans h
  · cases b with
    | nil => exact absurd (Nat.zero_lt_succ _) hl
    | cons o r =>
      rw [decode_of_whole (Nat.not_lt.1 hl)] at h
      cases hk : PacketKind.ofTag? o with
      | none => simp [hk] at h
      | some kind =>
        simp only [hk, Except.ok.injEq] at h
        have hr : 12 ≤ r.length := by
          simp only [List.length_cons, headerSize] at hl
          omega
        have h8 : (r.take 8).length = 8 := List.length_take_of_le (by omega)
        have h4 : ((r.drop 8).take 4).length = 4 := List.length_take_of_le (by simp; omega)
        have fields : r.take 8 ++ (r.drop 8).take 4 ++ r.drop 12 = r := by
          rw [List.append_assoc, ← List.drop_drop (i := 4) (j := 8), List.take_append_drop, List.take_append_drop]
        subst h
        rw [encode, PacketKind.tag_of_ofTag? hk, Bytes.ofUInt64_toUInt64 h8, Bytes.ofUInt32_toUInt32 h4, fields]

theorem decode_eq_ok_iff : decode b = .ok p ↔ p.encode = b :=
  ⟨encode_of_decode, fun h => h ▸ decode_encode p⟩

/-- Octets are a packet if they have a header whose first octet is a kind, and only then. -/
theorem exists_decode_iff :
    (∃ p, decode b = .ok p) ↔ headerSize ≤ b.length ∧ ∃ o ∈ b.head?, 1 ≤ o ∧ o ≤ 6 := by
  constructor
  · rintro ⟨p, h⟩
    by_cases hl : b.length < headerSize
    · cases (decode_of_short hl).symm.trans h
    · refine ⟨Nat.not_lt.1 hl, ?_⟩
      cases b with
      | nil => exact absurd (Nat.zero_lt_succ _) hl
      | cons o r =>
        by_cases ho : 1 ≤ o ∧ o ≤ 6
        · exact ⟨o, rfl, ho⟩
        · cases (decode_of_unknown (Nat.not_lt.1 hl) ho).symm.trans h
  · rintro ⟨hl, o, ho, hk⟩
    cases b with
    | nil => cases ho
    | cons o' r =>
      cases ho
      exact exists_decode hl hk

/-- A packet is read back and takes its header and its payload. Octets in any chunks are read as the packet that is
written so, which there is exactly if the header is whole and its first octet is a kind. A shorter buffer is
refused for its length, whatever its first octet, and any other for its first octet. -/
theorem codec_exact :
    (∀ p : Packet, decode p.encode = .ok p ∧ p.encode.length = 13 + p.payload.length) ∧
      ∀ cs : List Bytes,
        ofChunks cs = decode cs.flatten ∧
          (∀ p, ofChunks cs = .ok p ↔ p.encode = cs.flatten) ∧
          ((∃ p, ofChunks cs = .ok p) ↔ 13 ≤ cs.flatten.length ∧ ∃ o ∈ cs.flatten.head?, 1 ≤ o ∧ o ≤ 6) ∧
          (cs.flatten.length < 13 → ofChunks cs = .error (.invalidPacket (.tooShort cs.flatten.length))) ∧
          ∀ o ∈ cs.flatten.head?, 13 ≤ cs.flatten.length → ¬ (1 ≤ o ∧ o ≤ 6) →
            ofChunks cs = .error (.invalidPacket (.unknownKind o)) := by
  refine ⟨fun p => ⟨decode_encode p, p.length_encode⟩, fun cs => ?_⟩
  rw [ofChunks_eq_decode]
  refine ⟨rfl, fun p => decode_eq_ok_iff, exists_decode_iff, decode_of_short, ?_⟩
  intro o ho hl hk
  cases hb : cs.flatten with
  | nil => simp [hb] at ho
  | cons o' r =>
    rw [hb] at ho hl
    cases ho
    exact decode_of_unknown hl hk

example : ofChunks [[0x7f], [], [1]] = .error (.invalidPacket (.tooShort 2)) := rfl

end Packet
end Wire
end DeskStream
