import DeskStream.Transport.Frame
/-!
# Streams of frames

A stream is cut into frames in one way only: the messages at its beginning that fit are the longest
such list, and what follows them tells how reading ends. A reader that is given the stream in pieces
tells the same, wherever the cuts are (`FrameReader.told_feedAll`).
-/

namespace DeskStream
namespace Frame

variable {limit : Nat} {b m rest : Bytes} {messages : List Bytes} {n : Nat} {refused : Option Nat}

/-! ## One frame -/

/-- A reader with this limit takes the message, and its length can be declared. -/
def Fits (limit : Nat) (m : Bytes) : Prop := m.length ≤ limit ∧ m.length < Bytes.bound headerSize

instance (limit : Nat) (m : Bytes) : Decidable (Fits limit m) :=
  inferInstanceAs (Decidable (_ ∧ _))

theorem fits_of_head (h : head limit b = .whole m rest) : Fits limit m := by
  refine ⟨(eq_frame_of_head h).2, ?_⟩
  unfold head at h
  split at h
  · cases h
  · rename_i h4
    split at h
    · cases h
    · split at h
      · cases h
      · simp only [Head.whole.injEq] at h
        have four : (b.take headerSize).length = headerSize := by
          rw [List.length_take]
          omega
        have small := Bytes.toNatBE_lt (b.take headerSize)
        rw [four] at small
        rw [← h.1]
        exact Nat.lt_of_le_of_lt (List.length_take_le ..) small

/-- A whole frame stays the same frame when more arrives. -/
theorem head_append_of_whole (h : head limit b = .whole m rest) (more : Bytes) :
    head limit (b ++ more) = .whole m (rest ++ more) := by
  obtain ⟨hm, hw⟩ := fits_of_head h
  rw [(eq_frame_of_head h).1, List.append_assoc]
  exact head_frame hm hw _

theorem declared_append (h : headerSize ≤ b.length) (more : Bytes) :
    declared (b ++ more) = declared b := by
  rw [declared, declared, List.take_append_of_le_length h]

/-- When a length is refused. -/
theorem head_eq_refused :
    head limit b = .refused n ↔ headerSize ≤ b.length ∧ limit < declared b ∧ n = declared b := by
  unfold head
  split
  · simp only [reduceCtorEq, false_iff]
    omega
  · split
    · simp only [Head.refused.injEq]
      omega
    · split <;> · simp only [reduceCtorEq, false_iff]; omega

/-- A refused length stays refused when more arrives. -/
theorem head_append_of_refused (h : head limit b = .refused n) (more : Bytes) :
    head limit (b ++ more) = .refused n := by
  obtain ⟨h4, hl, rfl⟩ := head_eq_refused.1 h
  refine head_eq_refused.2 ⟨?_, ?_, (declared_append h4 more).symm⟩
  · rw [List.length_append]
    omega
  · rwa [declared_append h4]

/-! ## The frames of a stream -/

theorem split_of_incomplete (h : head limit b = .incomplete) : split limit b = ([], b, none) := by
  rw [split]
  split <;> simp_all

theorem split_of_refused (h : head limit b = .refused n) : split limit b = ([], b, some n) := by
  rw [split]
  split <;> simp_all

theorem split_of_whole (h : head limit b = .whole m rest) :
    split limit b = (m :: (split limit rest).1, (split limit rest).2) := by
  rw [split]
  split <;> simp_all

/-- Frames at the beginning of a stream are split off. -/
theorem split_frames (hf : ∀ m ∈ messages, Fits limit m) (rest : Bytes) :
    split limit ((messages.map frame).flatten ++ rest) =
      (messages ++ (split limit rest).1, (split limit rest).2) := by
  induction messages with
  | nil => rfl
  | cons m messages ih =>
    have hm := hf m (by simp)
    have hd : head limit (frame m ++ ((messages.map frame).flatten ++ rest)) = .whole m _ :=
      head_frame hm.1 hm.2 _
    rw [List.map_cons, List.flatten_cons, List.append_assoc, split_of_whole hd,
      ih fun m hm => hf m (by simp [hm])]
    rfl

/-- A stream of frames and nothing else is just those messages. -/
theorem split_sent (hf : ∀ m ∈ messages, Fits limit m) :
    split limit (messages.map frame).flatten = (messages, [], none) := by
  have hs := split_frames hf []
  have hnil : split limit [] = ([], [], none) := split_of_incomplete rfl
  rwa [List.append_nil, hnil, List.append_nil] at hs

/-- More arrives behind what is no whole frame yet. -/
theorem split_append (h : split limit b = (messages, rest, none)) (more : Bytes) :
    split limit (b ++ more) =
      (messages ++ (split limit (rest ++ more)).1, (split limit (rest ++ more)).2) := by
  fun_induction split limit b generalizing messages with
  | case1 b hd => cases h; rfl
  | case2 b n hd => cases h
  | case3 b m tail hd _ ms r n ht ih =>
    cases h
    rw [split_of_whole (head_append_of_whole hd more), ih ht]
    rfl

/-- More arrives behind a refused length. -/
theorem split_append_of_refused (h : split limit b = (messages, rest, some n)) (more : Bytes) :
    split limit (b ++ more) = (messages, rest ++ more, some n) := by
  fun_induction split limit b generalizing messages with
  | case1 b hd => cases h
  | case2 b n hd =>
    cases h
    exact split_of_refused (head_append_of_refused hd more)
  | case3 b m tail hd _ ms r n ht ih =>
    cases h
    rw [split_of_whole (head_append_of_whole hd more), ih ht]

/-- What is left over is left over again. -/
theorem split_rest (h : split limit b = (messages, rest, refused)) :
    split limit rest = ([], rest, refused) := by
  fun_induction split limit b generalizing messages with
  | case1 b hd => cases h; exact split_of_incomplete hd
  | case2 b n hd => cases h; exact split_of_refused hd
  | case3 b m tail hd _ ms r n ht ih => cases h; exact ih ht

/-! ## How a stream is read -/

/-- How reading ends at what follows the last message. -/
def ending (limit : Nat) (rest : Bytes) : LinkEvent :=
  if headerSize ≤ rest.length ∧ limit < declared rest then
    .failed (TransportError.messageTooLarge (declared rest) limit).message
  else .disconnected

theorem ending_of_split (h : split limit b = (messages, rest, none)) :
    ending limit rest = .disconnected := by
  refine if_neg fun hr => ?_
  have := split_of_refused (head_eq_refused.2 ⟨hr.1, hr.2, rfl⟩)
  rw [split_rest h] at this
  cases this

theorem ending_of_refused (h : split limit b = (messages, rest, some n)) :
    ending limit rest = .failed (TransportError.messageTooLarge n limit).message := by
  have hd : head limit rest = .refused n := by
    have hs := split_rest h
    cases hd : head limit rest with
    | incomplete => rw [split_of_incomplete hd] at hs; cases hs
    | refused k => rw [split_of_refused hd] at hs; cases hs; rfl
    | whole m r => rw [split_of_whole hd] at hs; cases hs
  obtain ⟨h4, hl, rfl⟩ := head_eq_refused.1 hd
  exact if_pos ⟨h4, hl⟩

/-- A stream is these messages, each in its frame, and then the rest; there are no other messages
that fit at its beginning. -/
structure Framed (limit : Nat) (stream : Bytes) (messages : List Bytes) (rest : Bytes) : Prop where
  eq : stream = (messages.map frame).flatten ++ rest
  fits : ∀ m ∈ messages, Fits limit m
  longest : ∀ ms tail, stream = (ms.map frame).flatten ++ tail → (∀ m ∈ ms, Fits limit m) →
    ms <+: messages

theorem framed_split (limit : Nat) (b : Bytes) :
    Framed limit b (split limit b).1 (split limit b).2.1 := by
  refine ⟨?_, ?_, ?_⟩
  · fun_induction split limit b with
    | case1 b hd => rfl
    | case2 b n hd => rfl
    | case3 b m tail hd _ ms r n ht ih =>
      rw [ht] at ih
      rw [(eq_frame_of_head hd).1, ih]
      simp
  · fun_induction split limit b with
    | case1 b hd => simp
    | case2 b n hd => simp
    | case3 b m tail hd _ ms r n ht ih =>
      rw [ht] at ih
      exact List.forall_mem_cons.2 ⟨fits_of_head hd, ih⟩
  · intro ms tail hb hf
    rw [hb, split_frames hf]
    exact List.prefix_append ..

/-- What a reader tells of a whole stream. -/
def reading (limit : Nat) (stream : Bytes) : List LinkEvent :=
  (split limit stream).1.map .data ++ [ending limit (split limit stream).2.1]

theorem reading_append (h : split limit b = (messages, rest, none)) (more : Bytes) :
    reading limit (b ++ more) = messages.map .data ++ reading limit (rest ++ more) := by
  simp [reading, split_append h more]

theorem reading_append_of_refused (h : split limit b = (messages, rest, some n)) (more : Bytes) :
    reading limit (b ++ more) =
      messages.map .data ++ [.failed (TransportError.messageTooLarge n limit).message] := by
  have hs := split_append_of_refused h more
  rw [reading, hs, ending_of_refused hs]

end Frame

namespace FrameReader

open DeskStream.Frame

variable {r : FrameReader} {piece : Bytes} {pieces : List Bytes}

/-! ## Reading in pieces -/

/-- A reader that is over tells nothing. -/
theorem feedAll_of_isOver (h : r.isOver = true) (pieces : List Bytes) : r.feedAll pieces = (r, []) := by
  induction pieces with
  | nil => rfl
  | cons piece pieces ih => simp [feedAll, feed, h, ih]

theorem feedAll_append (r : FrameReader) (pieces more : List Bytes) :
    r.feedAll (pieces ++ more) =
      (((r.feedAll pieces).1.feedAll more).1,
        (r.feedAll pieces).2 ++ ((r.feedAll pieces).1.feedAll more).2) := by
  induction pieces generalizing r with
  | nil => rfl
  | cons piece pieces ih => simp [feedAll, ih]

/-- What is told of the pieces of a stream and of its end, from a reader in the middle of it: what
would be told of the stream in one piece. The induction carries that nothing whole is pending. -/
theorem told_feedAll_of_pending (ho : r.isOver = false)
    (hp : split r.limit r.pending = ([], r.pending, none)) (hn : [] ∉ pieces) :
    (r.feedAll (pieces ++ [[]])).2 = reading r.limit (r.pending ++ pieces.flatten) := by
  induction pieces generalizing r with
  | nil =>
    have hs : r.pending ++ List.flatten [] = r.pending := List.append_nil _
    rw [hs, reading, hp, ending_of_split hp]
    simp [feedAll, feed, ho]
  | cons piece pieces ih =>
    have hpiece : piece ≠ [] := fun h => hn (by simp [h])
    have hrest : [] ∉ pieces := fun h => hn (List.mem_cons_of_mem _ h)
    rw [List.flatten_cons, ← List.append_assoc]
    rcases hs : split r.limit (r.pending ++ piece) with ⟨ms, rest, refused⟩
    cases refused with
    | none =>
      -- What is left over is no whole frame, so it may be pending for the next piece.
      have hf : r.feed piece = ({ r with pending := rest }, ms.map .data) := by
        simp [feed, ho, hpiece, hs]
      have later := ih (r := { r with pending := rest }) ho (split_rest hs) hrest
      rw [List.cons_append, feedAll, hf, reading_append hs, ← later]
    | some n =>
      -- The reader is over, and the length stays refused whatever comes behind it.
      have hf : r.feed piece = ({ r with pending := rest, isOver := true },
          ms.map .data ++ [.failed (TransportError.messageTooLarge n r.limit).message]) := by
        simp [feed, ho, hpiece, hs]
      rw [List.cons_append, feedAll, hf, reading_append_of_refused hs]
      simp [feedAll_of_isOver]

/-- A reader tells the same of a stream and its end, wherever the stream is cut. -/
theorem told_feedAll (limit : Nat) (hn : [] ∉ pieces) :
    (FrameReader.feedAll { limit } (pieces ++ [[]])).2 = reading limit pieces.flatten :=
  told_feedAll_of_pending rfl (split_of_incomplete rfl) hn

end FrameReader
end DeskStream
