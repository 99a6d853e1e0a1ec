import DeskStream.Bytes
import DeskStream.Transport.Error
/-!
# Messages in a stream of octets

A frame is a message behind its length in four octets, most significant first. A reader is given the
stream in whatever pieces it arrives, keeps what is not a whole frame yet, and tells each message
once it is whole. It stops for good at a length beyond its limit, and at the end of the stream.

Main statements: a frame is read back as its message, with whatever follows it (`head_frame`), unless
the message is longer than four octets tell (`head_frame_mod`), and what is read as a message was its
frame (`eq_frame_of_head`).
-/

namespace DeskStream

/-- What a connection tells the one who reads it. -/
inductive LinkEvent where
  | data (message : Bytes)
  /-- The other side has ended the stream. -/
  | disconnected
  | failed (text : String)
  deriving Repr, DecidableEq

/-- A message as it stands in a stream. Of a length that needs more than four octets the lowest four
are written. -/
def frame (message : Bytes) : Bytes :=
  Bytes.ofUInt32 (UInt32.ofNat message.length) ++ message

namespace Frame

/-- Octets of the length of a message. -/
def headerSize : Nat := 4

/-- The length that a stream declares first. -/
def declared (b : Bytes) : Nat := Bytes.toNatBE (b.take headerSize)

/-- What stands at the beginning of a stream. -/
inductive Head where
  /-- Less than a frame. -/
  | incomplete
  /-- A length beyond the limit. -/
  | refused (length : Nat)
  | whole (message rest : Bytes)
  deriving Repr, DecidableEq

/-- What stands at the beginning of a stream whose messages have at most `limit` octets. -/
def head (limit : Nat) (b : Bytes) : Head :=
  if b.length < headerSize then .incomplete
  else if limit < declared b then .refused (declared b)
  else if b.length < headerSize + declared b then .incomplete
  else .whole ((b.drop headerSize).take (declared b)) (b.drop (headerSize + declared b))

theorem length_lt_of_head {limit : Nat} {b m rest : Bytes} (h : head limit b = .whole m rest) :
    rest.length < b.length := by
  unfold head at h
  split at h
  · cases h
  · rename_i h4
    split at h
    · cases h
    · split at h
      · cases h
      · simp only [Head.whole.injEq] at h
        rw [← h.2, List.length_drop]
        unfold headerSize at h4 ⊢
        omega

/-- A frame declares as much of the length of its message as four octets hold. -/
theorem declared_frame (m rest : Bytes) : declared (frame m ++ rest) = m.length % Bytes.bound headerSize := by
  have size : (Bytes.ofUInt32 (UInt32.ofNat m.length)).length = headerSize := Bytes.length_ofUInt32 _
  have word : (UInt32.ofNat m.length).toNat = m.length % Bytes.bound headerSize := UInt32.toNat_ofNat'
  rw [declared, frame, List.append_assoc, List.take_append_of_le_length (Nat.le_of_eq size.symm),
    List.take_of_length_le (Nat.le_of_eq size), Bytes.ofUInt32, Bytes.toNatBE_ofNatBE, word]
  exact Nat.mod_mod ..

/-- So much of a message is read back, and what is left of it is taken for what follows. -/
theorem head_frame_mod {limit : Nat} {m : Bytes} (hm : m.length % Bytes.bound headerSize ≤ limit) (rest : Bytes) :
    head limit (frame m ++ rest) =
      .whole (m.take (m.length % Bytes.bound headerSize)) (m.drop (m.length % Bytes.bound headerSize) ++ rest) := by
  have size : (Bytes.ofUInt32 (UInt32.ofNat m.length)).length = headerSize := Bytes.length_ofUInt32 _
  have total : (frame m ++ rest).length = headerSize + m.length + rest.length := by
    simp [frame, size, Nat.add_assoc]
  have body : (frame m ++ rest).drop headerSize = m ++ rest := by
    simp [frame, List.append_assoc, ← size]
  have part : m.length % Bytes.bound headerSize ≤ m.length := Nat.mod_le ..
  unfold head
  rw [declared_frame, if_neg (by omega), if_neg (by omega), if_neg (by omega), ← List.drop_drop, body,
    List.take_append_of_le_length part, List.drop_append_of_le_length part]

/-- The frame of a message is read back, whatever follows it. -/
theorem head_frame {limit : Nat} {m : Bytes} (hm : m.length ≤ limit)
    (hw : m.length < Bytes.bound headerSize) (rest : Bytes) : head limit (frame m ++ rest) = .whole m rest := by
  have length : m.length % Bytes.bound headerSize = m.length := Nat.mod_eq_of_lt hw
  rw [head_frame_mod (length.symm ▸ hm), length, List.take_length, List.drop_length, List.nil_append]

/-- What is read as a message was written as its frame, and it is within the limit. -/
theorem eq_frame_of_head {limit : Nat} {b m rest : Bytes} (h : head limit b = .whole m rest) :
    b = frame m ++ rest ∧ m.length ≤ limit := by
  unfold head at h
  split at h
  · cases h
  · rename_i h4
    split at h
    · cases h
    · rename_i hl
      split at h
      · cases h
      · rename_i hb
        simp only [Head.whole.injEq] at h
        obtain ⟨rfl, rfl⟩ := h
        have four : (b.take headerSize).length = 4 := by
          simp only [List.length_take, headerSize] at h4 ⊢
          omega
        have len : ((b.drop headerSize).take (declared b)).length = declared b := by
          simp only [List.length_take, List.length_drop]
          omega
        have small : declared b < Bytes.bound headerSize := by
          have := Bytes.toNatBE_lt (b.take headerSize)
          rwa [four] at this
        have header : Bytes.ofUInt32 (UInt32.ofNat (declared b)) = b.take headerSize := by
          have h32 : (UInt32.ofNat (declared b)).toNat = declared b := Nat.mod_eq_of_lt small
          rw [Bytes.ofUInt32, h32, declared, ← four, Bytes.ofNatBE_toNatBE]
        refine ⟨?_, by omega⟩
        rw [frame, len, header, List.append_assoc, ← List.drop_drop, List.take_append_drop,
          List.take_append_drop]

/-- The whole messages at the beginning of a stream, what follows them, and the length beyond the
limit that it begins with, if it does. -/
def split (limit : Nat) (b : Bytes) : List Bytes × Bytes × Option Nat :=
  match h : head limit b with
  | .incomplete => ([], b, none)
  | .refused n => ([], b, some n)
  | .whole m rest =>
    have := length_lt_of_head h
    let (messages, rest, n) := split limit rest
    (m :: messages, rest, n)
termination_by b.length

end Frame

/-- A reader in the middle of a stream. -/
structure FrameReader where
  /-- Octets that a message may have. -/
  limit : Nat
  /-- What has arrived and is no whole frame. -/
  pending : Bytes := []
  /-- Nothing is told any more. -/
  isOver : Bool := false
  deriving Repr, DecidableEq

namespace FrameReader

/-- A piece of the stream arrives; an empty one is its end. -/
def feed (r : FrameReader) (piece : Bytes) : FrameReader × List LinkEvent :=
  if r.isOver then (r, [])
  else if piece = [] then ({ r with isOver := true }, [.disconnected])
  else
    let (messages, pending, refused) := Frame.split r.limit (r.pending ++ piece)
    let told := messages.map .data
    match refused with
    | none => ({ r with pending }, told)
    | some n =>
      ({ r with pending, isOver := true },
        told ++ [.failed (TransportError.messageTooLarge n r.limit).message])

/-- Pieces arrive one after the other. -/
def feedAll (r : FrameReader) : List Bytes → FrameReader × List LinkEvent
  | [] => (r, [])
  | piece :: pieces =>
    let (r, told) := r.feed piece
    let (r, more) := r.feedAll pieces
    (r, told ++ more)

end FrameReader
end DeskStream
