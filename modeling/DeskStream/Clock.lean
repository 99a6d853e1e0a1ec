/-!
# Clocks

Packets carry the sender's wall clock in milliseconds. The two clocks are not synchronised, so a
packet may claim to come from the future; its latency is then taken to be zero.
-/

namespace DeskStream

/-- How long a packet took, or that it claims to come from the future. -/
structure Latency where
  milliseconds : UInt64
  clamped : Bool
  deriving Repr, DecidableEq

/-- The latency of a packet stamped `sent` and received at `now`. -/
def Latency.between (now sent : UInt64) : Latency :=
  if sent ≤ now then ⟨now - sent, false⟩ else ⟨0, true⟩

theorem Latency.toNat_between (now sent : UInt64) :
    (Latency.between now sent).milliseconds.toNat = now.toNat - sent.toNat := by
  unfold Latency.between
  split
  · rename_i h
    exact UInt64.toNat_sub_of_le _ _ h
  · rename_i h
    have : now.toNat < sent.toNat := by simpa [UInt64.le_iff_toNat_le] using h
    simp only [UInt64.toNat_zero]
    omega

end DeskStream
