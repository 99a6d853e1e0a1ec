import DeskStream.Proofs.Discovery.Calls
import DeskStream.Proofs.History
import Mathlib.Tactic.ByContra
/-!
# How long a host stays

A host is there from the call that brings it in until a call takes it out, and it is marked as
entered by the user until it is removed (`Since`). A pass takes out the advertised hosts whose last
sighting is too long ago, and nothing else (`Pass`).
-/

namespace DeskStream.Registry

variable {r : Registry} {c : Call} {calls : List Call} {id : String} {now : Nat}

/-! ## What begins a stay and what ends it -/

/-- The call is a sighting of the host with the id, or enters it. -/
def Call.Brings (id : String) : Call → Prop
  | .upsert s _ => id = s.peerId
  | .addManual _ hostname port _ => id = Peer.manualId hostname port
  | .remove _ | .evictStale _ => False

/-- The user enters the host with the id. -/
def Call.Enters (id : String) : Call → Prop
  | .addManual _ hostname port _ => id = Peer.manualId hostname port
  | .upsert .. | .remove _ | .evictStale _ => False

/-- The call removes the host with the id, or evicts it. -/
def Takes (r : Registry) (id : String) : Call → Prop
  | .remove id' => id = id'
  | .evictStale now => ∃ p ∈ (r.evictStale now).2, p.id = id
  | .upsert .. | .addManual .. => False

/-- A call that begins was made, and after it none that ends. -/
def Since (r : Registry) (begins : Call → Prop) (ends : Registry → Call → Prop)
    (calls : List Call) : Prop :=
  ∃ before c after, calls = before ++ c :: after ∧ begins c ∧
    ∀ between d rest, after = between ++ d :: rest → ¬ ends (r.run (before ++ c :: between)) d

section Since
variable {begins : Call → Prop} {ends : Registry → Call → Prop}

/-- What a call leaves true just if it begins it, or found it true and does not end it. -/
theorem since_iff {P : Registry → Prop} (h0 : ¬ P r)
    (h : ∀ calls c, P ((r.run calls).step c) ↔ begins c ∨ P (r.run calls) ∧ ¬ ends (r.run calls) c)
    (calls : List Call) : P (r.run calls) ↔ Since r begins ends calls := by
  change P (r.run calls) ↔ DeskStream.Since (fun _ => begins) (fun calls => ends (r.run calls)) calls
  refine DeskStream.Since.of_steps (P := fun calls => P (r.run calls)) h0 (fun calls c => ?_) calls
  rw [run_concat]
  exact h calls c

end Since

/-! ## A pass -/

theorem mem_evicted_iff (h : Keyed r.entries) {p : Peer} :
    p ∈ (r.evictStale now).2 ↔
      ∃ e, r.find? p.id = some e ∧ e.peer = p ∧
        p.isManual = false ∧ e.lastSeen + r.staleTimeout < now := by
  rw [snd_evictStale]
  simp only [List.mem_map, List.mem_filter, isStale, Bool.and_eq_true, Bool.not_eq_true',
    decide_eq_true_eq]
  constructor
  · rintro ⟨x, ⟨hx, hm, hs⟩, rfl⟩
    refine ⟨x.2, ?_, rfl, hm, by omega⟩
    rw [h.own x hx]
    exact h.lookup_eq_some_iff.2 hx
  · rintro ⟨e, he, rfl, hm, hs⟩
    exact ⟨(_, e), ⟨h.lookup_eq_some_iff.1 he, hm, Nat.lt_sub_of_add_lt (Nat.add_comm .. ▸ hs)⟩, rfl⟩

theorem evicted_nodup (h : Keyed r.entries) : ((r.evictStale now).2.map (·.id)).Nodup := by
  rw [snd_evictStale, List.map_map]
  have hids : (r.entries.filter (r.isStale now ·.2)).map ((·.id) ∘ (·.2.peer)) =
      (r.entries.filter (r.isStale now ·.2)).map (·.1) :=
    List.map_congr_left (h.filter _).own
  rw [hids]
  exact (h.filter _).nodup

theorem find?_evictStale_of_mem (h : Keyed r.entries) {p : Peer}
    (hp : p ∈ (r.evictStale now).2) : (r.evictStale now).1.find? p.id = none := by
  obtain ⟨e, he, rfl, hm, hs⟩ := (mem_evicted_iff h).1 hp
  change (r.step (.evictStale now)).find? _ = none
  rw [find?_step h, Call.act, he]
  refine Option.filter_some_neg ?_
  simp [hm]
  omega

theorem find?_evictStale_of_not_mem (h : Keyed r.entries)
    (hp : ∀ p ∈ (r.evictStale now).2, p.id ≠ id) :
    (r.evictStale now).1.find? id = r.find? id := by
  change (r.step (.evictStale now)).find? id = _
  rw [find?_step h, Call.act]
  cases he : r.find? id with
  | none => rfl
  | some e =>
    have hid : e.peer.id = id := h.own _ (mem_of_lookup he)
    have hn : e.peer ∉ (r.evictStale now).2 := fun hm => hp _ hm hid
    rw [mem_evicted_iff h, hid] at hn
    refine Option.filter_some_pos ?_
    rw [Bool.or_eq_true, decide_eq_true_eq]
    by_contra hs
    rw [not_or, Bool.not_eq_true] at hs
    exact hn ⟨e, he, rfl, hs.1, by omega⟩

/-! ## What one call does to a stay -/

theorem present_step (h : Keyed r.entries) (c : Call) :
    ((r.step c).get? id).isSome ↔ c.Brings id ∨ (r.get? id).isSome ∧ ¬ r.Takes id c := by
  simp only [get?, Option.isSome_map]
  cases c with
  | upsert s now =>
    rw [find?_step h, Call.act, Call.Brings, Takes]
    split <;> simp [*]
  | addManual name hostname port now =>
    rw [find?_step h, Call.act, Call.Brings, Takes]
    split <;> simp [*]
  | remove id' =>
    rw [find?_step h, Call.act, Call.Brings, Takes]
    split <;> simp [*]
  | evictStale now =>
    rw [Call.Brings, Takes, false_or, step]
    by_cases hp : ∃ p ∈ (r.evictStale now).2, p.id = id
    · obtain ⟨p, hm, rfl⟩ := hp
      rw [find?_evictStale_of_mem h hm]
      exact iff_of_false Bool.false_ne_true fun hn => hn.2 ⟨p, hm, rfl⟩
    · have hk : ∀ p ∈ (r.evictStale now).2, p.id ≠ id := fun p hm he => hp ⟨p, hm, he⟩
      rw [find?_evictStale_of_not_mem h hk, and_iff_left hp]

/-- There is a host with the id, and it was entered by the user. -/
def Marked (id : String) (r : Registry) : Prop := ∃ p, r.get? id = some p ∧ p.isManual = true

theorem marked_iff : r.Marked id ↔ (r.find? id).any (·.peer.isManual) = true := by
  rw [Marked, get?]
  cases r.find? id <;> simp

theorem marked_step (h : Keyed r.entries) (c : Call) :
    (r.step c).Marked id ↔ c.Enters id ∨ r.Marked id ∧ c ≠ .remove id := by
  rw [marked_iff, marked_iff, find?_step h]
  cases c with
  | upsert s now =>
    rw [Call.act, Call.Enters]
    split
    · subst id
      simp [sighted]
    · simp
  | addManual name hostname port now =>
    rw [Call.act, Call.Enters]
    split <;> simp [*, Peer.manual]
  | remove id' =>
    rw [Call.act, Call.Enters]
    split
    · simp [*]
    · simp [*, Ne.symm]
  | evictStale now =>
    rw [Call.act, Call.Enters]
    cases r.find? id with
    | none => simp
    | some e =>
      rw [Option.filter_some]
      split
      · simp
      · simp_all

/-! ## The last sighting -/

/-- When the call sights the host with the id. -/
def Call.sightedAt? (id : String) : Call → Option Nat
  | .upsert s now => if id = s.peerId then some now else none
  | .addManual .. | .remove _ | .evictStale _ => none

/-- When the host with the id was sighted last. -/
def lastSighting (id : String) (calls : List Call) : Option Nat :=
  (calls.filterMap (Call.sightedAt? id)).getLast?

theorem lastSighting_concat :
    lastSighting id (calls ++ [c]) = (c.sightedAt? id).or (lastSighting id calls) := by
  simp only [lastSighting, List.filterMap_append, List.getLast?_append]
  cases h : c.sightedAt? id <;> simp only [List.filterMap_cons, List.filterMap_nil, h] <;> rfl

/-- The time kept with an advertised host is that of its last sighting. -/
theorem lastSighting_run (timeout : Nat) (calls : List Call) {e : Entry}
    (he : (({ staleTimeout := timeout } : Registry).run calls).find? id = some e)
    (hm : e.peer.isManual = false) : lastSighting id calls = some e.lastSeen := by
  induction calls using List.reverseRecOn generalizing e with
  | nil => cases he
  | append_singleton calls c ih =>
    rw [run_concat, find?_step (Keyed.nil.run calls), staleTimeout_run] at he
    rw [lastSighting_concat]
    cases c with
    | upsert s now =>
      rw [Call.act] at he
      rw [Call.sightedAt?]
      split at he
      · cases he
        rw [if_pos ‹_›, sighted, Option.some_or]
      · rw [if_neg ‹_›, Option.none_or, ih he hm]
    | addManual name hostname port now =>
      rw [Call.act] at he
      split at he
      · -- Entered by the user, so not an advertised host.
        cases he
        cases hm
      · rw [Call.sightedAt?, Option.none_or, ih he hm]
    | remove id' =>
      rw [Call.act] at he
      split at he
      · cases he
      · rw [Call.sightedAt?, Option.none_or, ih he hm]
    | evictStale now =>
      rw [Call.act, Option.filter_eq_some_iff] at he
      rw [Call.sightedAt?, Option.none_or, ih he.1 hm]

/-! ## Stays and passes over any calls -/

/-- What a pass does after the calls: it returns, once each, the advertised hosts that were sighted
last more than the timeout ago, and takes out those. -/
structure Pass (timeout : Nat) (calls : List Call) (r : Registry) (now : Nat) : Prop where
  returned : ∀ p, p ∈ (r.evictStale now).2 ↔ r.get? p.id = some p ∧ p.isManual = false ∧
    ∃ seen, lastSighting p.id calls = some seen ∧ seen + timeout < now
  once : ((r.evictStale now).2.map (·.id)).Nodup
  gone : ∀ p ∈ (r.evictStale now).2, (r.evictStale now).1.find? p.id = none
  untouched : ∀ id, (∀ p ∈ (r.evictStale now).2, p.id ≠ id) →
    (r.evictStale now).1.find? id = r.find? id

theorem pass_run (timeout : Nat) (calls : List Call) (now : Nat) :
    Pass timeout calls (({ staleTimeout := timeout } : Registry).run calls) now where
  returned p := by
    rw [mem_evicted_iff (Keyed.nil.run calls), staleTimeout_run, get?, Option.map_eq_some_iff]
    constructor
    · rintro ⟨e, he, rfl, hm, hs⟩
      exact ⟨⟨e, he, rfl⟩, hm, _, lastSighting_run timeout calls he hm, hs⟩
    · rintro ⟨⟨e, he, rfl⟩, hm, seen, hl, hs⟩
      rw [lastSighting_run timeout calls he hm, Option.some.injEq] at hl
      exact ⟨e, he, rfl, hm, hl ▸ hs⟩
  once := evicted_nodup (Keyed.nil.run calls)
  gone _ := find?_evictStale_of_mem (Keyed.nil.run calls)
  untouched _ := find?_evictStale_of_not_mem (Keyed.nil.run calls)

/-- A host is there since a call that brings it in, as long as none takes it out; passes take out
just the advertised hosts that are overdue; and a host that the user entered is there, so marked,
until it is removed. -/
theorem stay_iff_since (timeout : Nat) (calls : List Call) :
    let start : Registry := { staleTimeout := timeout }
    let r := start.run calls
    (∀ id, (r.get? id).isSome ↔ start.Since (Call.Brings id) (Takes · id) calls) ∧
      (∀ now, Pass timeout calls r now) ∧
      ∀ id, r.Marked id ↔ start.Since (Call.Enters id) (fun _ c => c = .remove id) calls := by
  intro start r
  have hk : ∀ calls, Keyed (start.run calls).entries := Keyed.nil.run
  refine ⟨fun id => ?_, pass_run timeout calls, fun id => ?_⟩
  · refine since_iff (P := fun r => (r.get? id).isSome) ?_ ?_ calls
    · exact Bool.false_ne_true
    · exact fun calls => present_step (hk calls)
  · refine since_iff (P := Marked id) ?_ ?_ calls
    · rintro ⟨p, hp, -⟩
      cases hp
    · exact fun calls => marked_step (hk calls)

end DeskStream.Registry
