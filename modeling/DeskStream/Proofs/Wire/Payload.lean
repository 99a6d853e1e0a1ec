import DeskStream.Proofs.Wire.Packet
import DeskStream.Wire.Audio
import DeskStream.Wire.Input
import DeskStream.Wire.Video
/-!
# Payloads are read back

Pictures, audio and input events each put a header of their own before their data. Their values and the
octets that are read as such fit one to one (`Exact`), whatever the order and the width of the fields, and whether
all tags of a header are taken or some; all other octets are refused for what is wrong with them (`payloads_exact`).
-/

namespace DeskStream

namespace Bytes

theorem toUInt16_ofUInt16 (w : UInt16) : toUInt16 (ofUInt16 w) = w := by
  have h : w.toNat < bound 2 := w.toNat_lt
  rw [toUInt16, ofUInt16, toNatBE_ofNatBE, Nat.mod_eq_of_lt h, UInt16.ofNat_toNat]

theorem ofUInt16_toUInt16 {b : Bytes} (h : b.length = 2) : ofUInt16 (toUInt16 b) = b := by
  have hlt := toNatBE_lt b
  have hb := ofNatBE_toNatBE b
  rw [h] at hlt hb
  rw [ofUInt16, toUInt16, UInt16.toNat_ofNat_of_lt' hlt, hb]

end Bytes

namespace Wire

/-- Writing and reading fit: a value is read back from what it is written as, octets are read as the value that is
written so if they are acceptable and only then, and all others are refused for a reason. -/
structure Exact {α : Type} (encode : α → Bytes) (decode : Bytes → Except WireError α) (Acceptable : Bytes → Prop)
    (reason : Bytes → WireError) : Prop where
  decode_encode : ∀ a, decode (encode a) = .ok a
  encode_of_decode : ∀ b a, decode b = .ok a → encode a = b
  exists_decode_iff : ∀ b, (∃ a, decode b = .ok a) ↔ Acceptable b
  refused : ∀ b, ¬ Acceptable b → decode b = .error (reason b)

/-! ## Pictures -/

namespace VideoUnit

theorem decode_encode (v : VideoUnit) : decode v.encode = .ok v := by
  obtain ⟨w1, w2, hw⟩ : ∃ w1 w2, Bytes.ofUInt16 v.format.width = [w1, w2] := ⟨_, _, rfl⟩
  obtain ⟨h1, h2, hh⟩ : ∃ h1 h2, Bytes.ofUInt16 v.format.height = [h1, h2] := ⟨_, _, rfl⟩
  have width : Bytes.toUInt16 [w1, w2] = v.format.width := hw ▸ Bytes.toUInt16_ofUInt16 _
  have height : Bytes.toUInt16 [h1, h2] = v.format.height := hh ▸ Bytes.toUInt16_ofUInt16 _
  simp only [encode, hw, hh, List.cons_append, List.nil_append, decode, width, height, VideoCodec.ofTag_tag]

theorem encode_of_decode {b : Bytes} {v : VideoUnit} (h : decode b = .ok v) : v.encode = b := by
  unfold decode at h
  split at h
  · obtain rfl := Except.ok.inj h
    rw [encode, Bytes.ofUInt16_toUInt16 rfl, Bytes.ofUInt16_toUInt16 rfl, VideoCodec.tag_ofTag]
    rfl
  · cases h

theorem decode_of_short {b : Bytes} (h : ¬ headerSize ≤ b.length) :
    decode b = .error (.truncated .video headerSize b.length) := by
  unfold decode
  split
  · exact absurd (Nat.le_add_left ..) h
  · rfl

theorem exact : Exact encode decode (headerSize ≤ ·.length) (.truncated .video headerSize ·.length) where
  decode_encode := decode_encode
  encode_of_decode _ _ := encode_of_decode
  exists_decode_iff := decode_isOk
  refused _ := decode_of_short

end VideoUnit

/-! ## Audio -/

namespace AudioUnit

theorem decode_encode (a : AudioUnit) : decode a.encode = .ok a := by
  obtain ⟨r1, r2, r3, r4, hr⟩ : ∃ r1 r2 r3 r4, Bytes.ofUInt32 a.rate = [r1, r2, r3, r4] := ⟨_, _, _, _, rfl⟩
  have rate : Bytes.toUInt32 [r1, r2, r3, r4] = a.rate := hr ▸ Bytes.toUInt32_ofUInt32 _
  simp only [encode, hr, List.cons_append, List.nil_append, decode, rate]

theorem encode_of_decode {b : Bytes} {a : AudioUnit} (h : decode b = .ok a) : a.encode = b := by
  unfold decode at h
  split at h
  · obtain rfl := Except.ok.inj h
    rw [encode, Bytes.ofUInt32_toUInt32 rfl]
    rfl
  · cases h

theorem decode_of_short {b : Bytes} (h : ¬ headerSize ≤ b.length) :
    decode b = .error (.truncated .audio headerSize b.length) := by
  unfold decode
  split
  · exact absurd (Nat.le_add_left ..) h
  · rfl

theorem exact : Exact encode decode (headerSize ≤ ·.length) (.truncated .audio headerSize ·.length) where
  decode_encode := decode_encode
  encode_of_decode _ _ := encode_of_decode
  exists_decode_iff := decode_isOk
  refused _ := decode_of_short

end AudioUnit

/-! ## Input -/

/-- The octets that stand for kinds of input are those from one to seven. -/
theorem InputKind.ofTag?_eq_none_iff (o : UInt8) : ofTag? o = none ↔ ¬ (1 ≤ o ∧ o ≤ 7) := by
  unfold ofTag?
  split
  case h_8 => grind
  all_goals decide

namespace InputEvent

/-- The first octet is that of a kind. -/
def HasKind (b : Bytes) : Prop := ∃ o ∈ b.head?, 1 ≤ o ∧ o ≤ 7

/-- Why octets are no input event. -/
def reason : Bytes → WireError
  | [] => .truncated .input 1 0
  | o :: _ => .unknownInput o

theorem hasKind_cons {o : UInt8} {data : Bytes} : HasKind (o :: data) ↔ 1 ≤ o ∧ o ≤ 7 := by simp [HasKind]

theorem hasKind_encode (e : InputEvent) : HasKind e.encode := by
  refine hasKind_cons.2 ?_
  cases e.kind <;> decide

theorem decode_encode (e : InputEvent) : decode e.encode = .ok e := by
  rw [encode, decode, InputKind.ofTag?_tag]

theorem encode_of_decode {b : Bytes} {e : InputEvent} (h : decode b = .ok e) : e.encode = b := by
  unfold decode at h
  split at h
  · cases h
  · split at h
    · cases h
    · rename_i hk
      obtain rfl := Except.ok.inj h
      rw [encode, InputKind.tag_of_ofTag? hk]

theorem exists_decode {b : Bytes} (h : HasKind b) : ∃ e, decode b = .ok e := by
  cases b with
  | nil => obtain ⟨o, ho, -⟩ := h; cases ho
  | cons o data =>
    rw [decode]
    cases hk : InputKind.ofTag? o with
    | none => exact absurd (hasKind_cons.1 h) ((InputKind.ofTag?_eq_none_iff o).1 hk)
    | some kind => exact ⟨_, rfl⟩

theorem decode_of_kindless {b : Bytes} (h : ¬ HasKind b) : decode b = .error (reason b) := by
  cases b with
  | nil => rfl
  | cons o data => rw [decode, (InputKind.ofTag?_eq_none_iff o).2 (mt hasKind_cons.2 h), reason]

theorem exact : Exact encode decode HasKind reason where
  decode_encode := decode_encode
  encode_of_decode _ _ := encode_of_decode
  exists_decode_iff _ := ⟨fun ⟨e, he⟩ => encode_of_decode he ▸ hasKind_encode e, exists_decode⟩
  refused _ := decode_of_kindless

end InputEvent

/-- Each of the three formats fits its octets one to one. A picture or audio needs a header of five octets, and
whatever the tag of its codec is, a picture keeps it; an input event needs a first octet from one to seven. Where octets
are missing it is told how many are needed and how many there are, and else which octet stands for no kind. -/
theorem payloads_exact :
    Exact VideoUnit.encode VideoUnit.decode (5 ≤ ·.length) (.truncated .video 5 ·.length) ∧
      Exact AudioUnit.encode AudioUnit.decode (5 ≤ ·.length) (.truncated .audio 5 ·.length) ∧
      Exact InputEvent.encode InputEvent.decode (fun b => ∃ o ∈ b.head?, 1 ≤ o ∧ o ≤ 7) (fun
        | [] => .truncated .input 1 0
        | o :: _ => .unknownInput o) ∧
      ∀ b v, VideoUnit.decode b = .ok v → b.head? = some v.format.codec.tag := by
  refine ⟨VideoUnit.exact, AudioUnit.exact, InputEvent.exact, ?_⟩
  intro b v h
  rw [← VideoUnit.encode_of_decode h]
  rfl

example : InputEvent.decode [8, 1] = .error (.unknownInput 8) := rfl

end Wire
end DeskStream
