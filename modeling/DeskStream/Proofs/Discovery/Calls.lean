import DeskStream.Discovery.Registry
import Mathlib.Data.List.Nodup
/-!
# What calls do to the hosts

The hosts stand by id, each under its own and no id twice (`Keyed`). A call does to the host under
an id what `Call.act` says, whatever other hosts there are (`find?_step`), and it either publishes
what it leaves or leaves everything as it was (`step_eq`).
-/

namespace DeskStream.Registry

/-! ## Entries by id -/

/-- No id stands twice, and each host stands under its own. -/
structure Keyed (entries : List (String × Entry)) : Prop where
  nodup : (entries.map (·.1)).Nodup
  own : ∀ x ∈ entries, x.2.peer.id = x.1

section Entries
variable {entries : List (String × Entry)} {id id' : String} {e : Entry} {x : String × Entry}

theorem lookup_cons_entry :
    (x :: entries).lookup id = if id = x.1 then some x.2 else entries.lookup id := by
  rw [List.lookup_cons]
  by_cases h : id = x.1
  · rw [if_pos h, beq_iff_eq.2 h]
  · rw [if_neg h, beq_eq_false_iff_ne.2 h]

theorem any_key_iff : entries.any (·.1 == id) = true ↔ id ∈ entries.map (·.1) := by
  simp [List.any_eq_true, List.mem_map]

theorem lookup_eq_none_iff : entries.lookup id = none ↔ id ∉ entries.map (·.1) := by
  rw [List.lookup_eq_none_iff]
  constructor
  · rintro h hm
    obtain ⟨x, hx, rfl⟩ := List.mem_map.1 hm
    simpa using h x hx
  · rintro h x hx
    refine bne_iff_ne.2 ?_
    rintro rfl
    exact h (List.mem_map_of_mem hx)

theorem map_fst_put :
    (put entries id e).map (·.1) =
      if id ∈ entries.map (·.1) then entries.map (·.1) else entries.map (·.1) ++ [id] := by
  rw [put]
  by_cases h : id ∈ entries.map (·.1)
  · rw [if_pos (any_key_iff.2 h), if_pos h, List.map_map]
    refine List.map_congr_left fun x _ => ?_
    simp only [Function.comp_apply]
    split
    · exact (eq_of_beq ‹_›).symm
    · rfl
  · rw [if_neg (mt any_key_iff.1 h), if_neg h, List.map_append]
    rfl

theorem mem_put (h : x ∈ put entries id e) : x = (id, e) ∨ x ∈ entries := by
  rw [put] at h
  split at h
  · obtain ⟨old, ho, rfl⟩ := List.mem_map.1 h
    split
    · exact .inl rfl
    · exact .inr ho
  · simpa [or_comm] using h

theorem lookup_replace :
    (entries.map fun old => if old.1 == id then (id, e) else old).lookup id' =
      if id' = id then (entries.lookup id').map fun _ => e else entries.lookup id' := by
  induction entries with
  | nil => simp
  | cons old entries ih =>
    rw [List.map_cons, lookup_cons_entry, lookup_cons_entry, ih]
    by_cases ho : old.1 = id
    · subst id
      by_cases hi : id' = old.1 <;> simp [hi]
    · by_cases hi : id' = old.1
      · simp [hi, ho]
      · simp [hi, ho]

theorem lookup_put :
    (put entries id e).lookup id' = if id' = id then some e else entries.lookup id' := by
  rw [put]
  split
  · rename_i h
    rw [lookup_replace]
    split
    · subst id'
      cases hl : entries.lookup id with
      | some _ => rfl
      | none => exact absurd (any_key_iff.1 h) (lookup_eq_none_iff.1 hl)
    · rfl
  · rename_i h
    have hn := lookup_eq_none_iff.2 (mt any_key_iff.2 h)
    rw [List.lookup_append, lookup_cons_entry, List.lookup_nil]
    split
    · subst id'
      rw [hn, Option.none_or]
    · rw [Option.or_none]

theorem mem_of_lookup (h : entries.lookup id = some e) : (id, e) ∈ entries := by
  obtain ⟨before, after, rfl, -⟩ := List.lookup_eq_some_iff.1 h
  simp

theorem lookup_of_mem (hn : (entries.map (·.1)).Nodup) (h : (id, e) ∈ entries) :
    entries.lookup id = some e := by
  induction entries with
  | nil => cases h
  | cons x entries ih =>
    rw [List.map_cons, List.nodup_cons] at hn
    rw [lookup_cons_entry]
    rcases List.mem_cons.1 h with rfl | h
    · rw [if_pos rfl]
    · have hne : id ≠ x.1 := fun hx => hn.1 (hx ▸ List.mem_map_of_mem (f := (·.1)) h)
      rw [if_neg hne, ih hn.2 h]

namespace Keyed

theorem lookup_eq_some_iff (h : Keyed entries) :
    entries.lookup id = some e ↔ (id, e) ∈ entries :=
  ⟨mem_of_lookup, lookup_of_mem h.nodup⟩

theorem nil : Keyed [] := ⟨List.nodup_nil, fun _ hx => nomatch hx⟩

theorem put (h : Keyed entries) (hid : e.peer.id = id) : Keyed (put entries id e) where
  nodup := by
    rw [map_fst_put]
    split
    · exact h.nodup
    · rename_i hn
      refine List.nodup_append.2 ⟨h.nodup, List.nodup_singleton _, ?_⟩
      rintro a ha b hb rfl
      exact hn (List.mem_singleton.1 hb ▸ ha)
  own x hx := by
    rcases mem_put hx with rfl | hx
    · exact hid
    · exact h.own x hx

theorem filter (h : Keyed entries) (p : String × Entry → Bool) : Keyed (entries.filter p) where
  nodup := h.nodup.sublist (List.filter_sublist.map _)
  own x hx := h.own x (List.mem_filter.1 hx).1

/-- What a test by id and host leaves under an id. -/
theorem lookup_filter (h : Keyed entries) (p : String × Entry → Bool) :
    (entries.filter p).lookup id = (entries.lookup id).filter fun e => p (id, e) := by
  refine Option.ext fun e => ?_
  rw [(h.filter p).lookup_eq_some_iff, List.mem_filter, Option.filter_eq_some_iff,
    h.lookup_eq_some_iff]

end Keyed
end Entries

/-! ## Calls -/

/-- What can be asked of a registry, and when. -/
inductive Call where
  | upsert (s : Sighting) (now : Nat)
  | addManual (name hostname : String) (port : UInt16) (now : Nat)
  | remove (id : String)
  | evictStale (now : Nat)
  deriving Repr, DecidableEq

/-- A call is made. -/
def step (r : Registry) : Call → Registry
  | .upsert s now => (r.upsert s now).1
  | .addManual name hostname port now => (r.addManual name hostname port now).1
  | .remove id => (r.remove id).1
  | .evictStale now => (r.evictStale now).1

/-- Calls are made one after another. -/
def run (r : Registry) (calls : List Call) : Registry := calls.foldl step r

/-- What a sighting leaves in the place of what was there. -/
def sighted (s : Sighting) (now : Nat) (old : Option Entry) : Entry :=
  ⟨{ s.toPeer with isManual := old.any (·.peer.isManual) }, now⟩

/-- What a call does to the host under an id, given the stale timeout. -/
def Call.act (timeout : Nat) (id : String) (old : Option Entry) : Call → Option Entry
  | .upsert s now => if id = s.peerId then some (sighted s now old) else old
  | .addManual name hostname port now =>
    if id = Peer.manualId hostname port then some ⟨Peer.manual name hostname port, now⟩ else old
  | .remove id' => if id = id' then none else old
  | .evictStale now => old.filter fun e => e.peer.isManual || decide (now ≤ e.lastSeen + timeout)

section Calls
variable {r : Registry} {s : Sighting} {name hostname id : String} {port : UInt16} {now : Nat}

theorem fst_upsert :
    (r.upsert s now).1 =
      { r with entries := put r.entries s.peerId (sighted s now (r.find? s.peerId)) }.publish := by
  rw [upsert]
  split <;>
  · rename_i h
    rw [h]
    rfl

theorem remove_of_none (h : r.find? id = none) : r.remove id = (r, none) := by
  rw [remove, h]

theorem remove_of_some {e : Entry} (h : r.find? id = some e) :
    r.remove id = ({ r with entries := r.entries.filter (·.1 != id) }.publish, some e.peer) := by
  rw [remove, h]

theorem snd_evictStale : (r.evictStale now).2 = (r.entries.filter (r.isStale now ·.2)).map (·.2.peer) := by
  rw [evictStale, List.partition_eq_filter_filter]

theorem fst_evictStale :
    (r.evictStale now).1 =
      if r.entries.filter (r.isStale now ·.2) = [] then r
      else { r with entries := r.entries.filter (!r.isStale now ·.2) }.publish := by
  rw [evictStale, List.partition_eq_filter_filter]
  simp only [List.isEmpty_iff]
  rfl

theorem not_isStale {e : Entry} :
    (!r.isStale now e) = (e.peer.isManual || decide (now ≤ e.lastSeen + r.staleTimeout)) := by
  rw [isStale, Bool.not_and, Bool.not_not]
  congr 1
  rw [← decide_not]
  exact decide_eq_decide.2 (by omega)

/-- A call publishes what it leaves, or it leaves everything as it was. -/
theorem step_eq (r : Registry) (c : Call) :
    r.step c = r ∨ r.step c = { r with entries := (r.step c).entries }.publish := by
  cases c with
  | upsert s now => exact .inr (by rw [step, fst_upsert]; rfl)
  | addManual name hostname port now => exact .inr rfl
  | remove id =>
    cases h : r.find? id with
    | none => exact .inl (by rw [step, remove_of_none h])
    | some e => exact .inr (by rw [step, remove_of_some h]; rfl)
  | evictStale now =>
    rw [step, fst_evictStale]
    split
    · exact .inl rfl
    · exact .inr rfl

theorem staleTimeout_step (r : Registry) (c : Call) : (r.step c).staleTimeout = r.staleTimeout := by
  rcases step_eq r c with h | h
  · rw [h]
  · rw [h]
    rfl

/-- The entries after a call, whether it published or not. -/
theorem entries_step (r : Registry) (c : Call) :
    (r.step c).entries =
      match c with
      | .upsert s now => put r.entries s.peerId (sighted s now (r.find? s.peerId))
      | .addManual name hostname port now =>
        put r.entries (Peer.manualId hostname port) ⟨Peer.manual name hostname port, now⟩
      | .remove id => r.entries.filter (·.1 != id)
      | .evictStale now => r.entries.filter (!r.isStale now ·.2) := by
  cases c with
  | upsert s now => rw [step, fst_upsert]; rfl
  | addManual name hostname port now => rfl
  | remove id =>
    cases h : r.find? id with
    | none =>
      rw [step, remove_of_none h]
      refine (List.filter_eq_self.2 fun x hx => ?_).symm
      exact bne_iff_ne.2 fun he => lookup_eq_none_iff.1 h (he ▸ List.mem_map_of_mem (f := (·.1)) hx)
    | some e => rw [step, remove_of_some h]; rfl
  | evictStale now =>
    rw [step, fst_evictStale]
    split
    · rename_i h
      refine (List.filter_eq_self.2 fun x hx => ?_).symm
      simpa using List.filter_eq_nil_iff.1 h x hx
    · rfl

theorem Keyed.step (h : Keyed r.entries) (c : Call) : Keyed (r.step c).entries := by
  rw [entries_step]
  cases c with
  | upsert s now => exact h.put rfl
  | addManual name hostname port now => exact h.put rfl
  | remove id => exact h.filter _
  | evictStale now => exact h.filter _

/-- A call does to the host under an id the same whatever other hosts there are. -/
theorem find?_step (h : Keyed r.entries) (c : Call) (id : String) :
    (r.step c).find? id = c.act r.staleTimeout id (r.find? id) := by
  rw [find?, entries_step]
  cases c with
  | upsert s now =>
    rw [Call.act, lookup_put]
    split
    · subst id; rfl
    · rfl
  | addManual name hostname port now => exact lookup_put
  | remove id' =>
    rw [Call.act, h.lookup_filter]
    split
    · subst id
      exact Option.filter_eq_none_iff.2 (by simp)
    · rename_i hne
      change _ = r.entries.lookup id
      cases r.entries.lookup id with
      | none => rfl
      | some e => exact Option.filter_some_pos (bne_iff_ne.2 hne)
  | evictStale now =>
    rw [Call.act, h.lookup_filter]
    simp only [not_isStale]
    rfl

end Calls

/-! ## Runs -/

section Runs
variable {r : Registry} {before after : List Call} {c : Call}

theorem run_append : r.run (before ++ after) = (r.run before).run after := List.foldl_append

theorem run_concat : r.run (before ++ [c]) = (r.run before).step c := by
  rw [run_append]
  rfl

theorem Keyed.run (h : Keyed r.entries) (calls : List Call) : Keyed (r.run calls).entries := by
  induction calls generalizing r with
  | nil => exact h
  | cons c calls ih => exact ih (h.step c)

theorem staleTimeout_run (r : Registry) (calls : List Call) :
    (r.run calls).staleTimeout = r.staleTimeout := by
  induction calls generalizing r with
  | nil => rfl
  | cons c calls ih => exact (ih _).trans (staleTimeout_step r c)

end Runs
end DeskStream.Registry
