import DeskStream.Proofs.Transport.Sending
/-!
# Lengths that four octets tell

Before a message stands its length, as far as four octets hold it. What a sender takes is bounded by its limit alone, so
the length is told rightly of every message exactly if the limit is below 2 to the power of 32 (`lengths_told`). Then a
receiver is told what was sent. Otherwise there are messages that are taken for others.
-/

namespace DeskStream
namespace TcpConnection

open DeskStream.Frame

variable {config : TcpConfig} {c : TcpConnection} {m : Bytes} {sends receipts : List Event} {cuts : List Bytes}

theorem declared_frame_eq_iff (m rest : Bytes) :
    declared (frame m ++ rest) = m.length ↔ m.length < Bytes.bound headerSize := by
  rw [declared_frame]
  constructor
  · intro h
    rw [← h]
    exact Nat.mod_lt _ (by decide)
  · exact Nat.mod_eq_of_lt

/-- A new sender takes every message up to its limit. -/
theorem check_ofConfig (hc : ofConfig? config = some c) :
    c.check m = .ok () ↔ m.length ≤ config.maxMessageSize := by
  obtain ⟨-, rfl⟩ := ofConfig?_eq_some_iff.1 hc
  exact check_eq_ok_iff.trans (by simp)

/-- What a reader with the same limit tells of what was written: what was begun, and the end. -/
theorem reading_written (hc : ofConfig? config = some c) (hw : config.maxMessageSize < Bytes.bound headerSize)
    (hwhole : ∀ failure, .write (some failure) ∉ sends) :
    reading config.maxMessageSize (c.run sends).written = (c.run sends).begun.map .data ++ [.disconnected] := by
  obtain ⟨taken, ha⟩ := exists_account hc sends
  have hfits : ∀ m ∈ (c.run sends).begun, Fits config.maxMessageSize m := by
    intro m hm
    have hle := ha.ledger.length_le (List.mem_append_left _ hm)
    rw [config_run hc] at hle
    exact ⟨hle, Nat.lt_of_le_of_lt hle hw⟩
  have hsplit := split_sent hfits
  rw [ha.wired.whole (.inr hwhole), reading, hsplit, ending_of_split hsplit]

/-- The length of every message that a sender takes is told rightly exactly if the limit is below what four octets hold.
Then a connection with the same configuration that reads what was written, in whatever pieces, gives its consumer those
messages in their order, and so on to the last. In any case so much of a message is read as the octets tell, and the
rest of it is taken for what follows; and if the limit is not below, there is a message that is read as an empty one,
before as many octets again. -/
theorem lengths_told (hc : ofConfig? config = some c) :
    ((∀ events m, (c.run events).check m = .ok () → ∀ rest, declared (frame m ++ rest) = m.length) ↔
      config.maxMessageSize < Bytes.bound headerSize) ∧
    (config.maxMessageSize < Bytes.bound headerSize → ∀ sends receipts cuts,
      (∀ failure, .write (some failure) ∉ sends) → [] ∉ cuts → cuts.flatten = (c.run sends).written →
      (∀ e ∈ receipts, e.keepsOpen = true) → c.pieces receipts <+: cuts ++ [[]] →
      let told : List LinkEvent := (c.run sends).begun.map .data ++ [.disconnected]
      (c.run receipts).given <+: told ∧ ((c.run receipts).Finished → (c.run receipts).given = told)) ∧
    (∀ events m, (c.run events).check m = .ok () → ∀ rest,
      head config.maxMessageSize (frame m ++ rest) =
        .whole (m.take (m.length % Bytes.bound headerSize)) (m.drop (m.length % Bytes.bound headerSize) ++ rest)) ∧
    (Bytes.bound headerSize ≤ config.maxMessageSize → ∃ m, m ≠ [] ∧ c.check m = .ok () ∧ ∀ rest,
      head config.maxMessageSize (frame m ++ rest) = .whole [] (m ++ rest)) := by
  have hlimit (events : List Event) (m : Bytes) (hm : (c.run events).check m = .ok ()) :
      m.length ≤ config.maxMessageSize := by
    have hle := (check_eq_ok_iff.1 hm).2
    rwa [config_run hc] at hle
  have hread (events : List Event) (m : Bytes) (hm : (c.run events).check m = .ok ()) (rest : Bytes) :
      head config.maxMessageSize (frame m ++ rest) =
        .whole (m.take (m.length % Bytes.bound headerSize)) (m.drop (m.length % Bytes.bound headerSize) ++ rest) :=
    head_frame_mod (Nat.le_trans (Nat.mod_le ..) (hlimit events m hm)) rest
  -- A message of 2 to the power of 32 octets: those before it are zero.
  have hlong (h : Bytes.bound headerSize ≤ config.maxMessageSize) :
      ∃ m, m.length = Bytes.bound headerSize ∧ c.check m = .ok () := by
    obtain ⟨m, hm⟩ : ∃ m : Bytes, m.length = Bytes.bound headerSize := ⟨_, List.length_replicate (a := 0)⟩
    exact ⟨m, hm, (check_ofConfig hc).2 (hm ▸ h)⟩
  refine ⟨⟨?_, ?_⟩, ?_, hread, ?_⟩
  · intro hfaithful
    refine Classical.byContradiction fun hnot => ?_
    obtain ⟨m, hm, hcheck⟩ := hlong (Nat.le_of_not_lt hnot)
    have hlt := (declared_frame_eq_iff m []).1 (hfaithful [] m hcheck [])
    omega
  · intro hw events m hm rest
    exact (declared_frame_eq_iff m rest).2 (Nat.lt_of_le_of_lt (hlimit events m hm) hw)
  · intro hw sends receipts cuts hwhole hcuts hstream hopen hpieces told
    have htracks := (tracks_ofConfig hc).run hopen
    obtain ⟨hgiven, hall⟩ := htracks.prefix_given hcuts hpieces
    rw [hstream, reading_written hc hw hwhole] at hgiven hall
    exact ⟨(List.prefix_append ..).trans hgiven, hall⟩
  · intro h
    obtain ⟨m, hm, hcheck⟩ := hlong h
    refine ⟨m, ?_, hcheck, ?_⟩
    · rintro rfl
      cases hm
    · intro rest
      have hzero : m.length % Bytes.bound headerSize = 0 := by rw [hm, Nat.mod_self]
      have hr := hread [] m hcheck rest
      rwa [hzero, List.take_zero, List.drop_zero] at hr

/-- A limit that four octets do not hold. -/
def wide : TcpConfig := { maxMessageSize := Bytes.bound headerSize }

/-- A message of so many octets is taken, and read as an empty one before other octets than were sent after it. -/
theorem lengths_told_wide : ∃ c m, ofConfig? wide = some c ∧ m ≠ [] ∧ c.check m = .ok () ∧
    head wide.maxMessageSize (frame m ++ frame [1]) = .whole [] (m ++ frame [1]) := by
  have hc : ofConfig? wide = some { config := wide, reader := { limit := Bytes.bound headerSize } } := rfl
  obtain ⟨-, -, -, hmisread⟩ := lengths_told hc
  obtain ⟨m, hne, hcheck, hread⟩ := hmisread (Nat.le_refl _)
  exact ⟨_, m, hc, hne, hcheck, hread (frame [1])⟩

end TcpConnection
end DeskStream
