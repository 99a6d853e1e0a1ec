import DeskStream.Proofs.Discovery.Calls
import Mathlib.Data.String.Basic
/-!
# The list that readers get

After any calls the list that readers get is the hosts that are there, each once, strictly in order
of name and id, and watchers were told the same list (`Shown`). A list once published stays as it
is (`published_run`).
-/

namespace DeskStream.Registry

variable {r : Registry} {a b : Entry}

/-! ## The order of a list -/

/-- Strictly in order of name, then of id. -/
def Entry.Before (a b : Entry) : Prop :=
  a.peer.name < b.peer.name ∨ a.peer.name = b.peer.name ∧ a.peer.id < b.peer.id

namespace Entry

theorem le_iff :
    a.le b = true ↔
      a.peer.name < b.peer.name ∨ a.peer.name = b.peer.name ∧ a.peer.id ≤ b.peer.id := by
  simp only [Entry.le, Bool.or_eq_true, decide_eq_true_eq, Bool.and_eq_true, beq_iff_eq,
    Bool.not_eq_true', decide_eq_false_iff_not, not_lt]

theorem le_trans (a b c : Entry) (hab : a.le b = true) (hbc : b.le c = true) : a.le c = true := by
  rw [le_iff] at *
  rcases hab with hab | ⟨hab, ia⟩ <;> rcases hbc with hbc | ⟨hbc, ib⟩
  · exact .inl (hab.trans hbc)
  · exact .inl (hbc ▸ hab)
  · exact .inl (hab ▸ hbc)
  · exact .inr ⟨hab.trans hbc, ia.trans ib⟩

theorem le_total (a b : Entry) : (a.le b || b.le a) = true := by
  rw [Bool.or_eq_true, le_iff, le_iff]
  rcases lt_trichotomy a.peer.name b.peer.name with h | h | h
  · exact .inl (.inl h)
  · rcases Std.le_total (a := a.peer.id) (b := b.peer.id) with hi | hi
    · exact .inl (.inr ⟨h, hi⟩)
    · exact .inr (.inr ⟨h.symm, hi⟩)
  · exact .inr (.inl h)

theorem before_of_le (h : a.le b = true) (hne : a.peer.id ≠ b.peer.id) : a.Before b :=
  (le_iff.1 h).imp_right fun hi => ⟨hi.1, lt_of_le_of_ne hi.2 hne⟩

end Entry

theorem pairwise_before {entries : List Entry} (hn : (entries.map (·.peer.id)).Nodup) :
    (entries.mergeSort Entry.le).Pairwise Entry.Before := by
  have hle : (entries.mergeSort Entry.le).Pairwise fun a b => a.le b = true :=
    List.pairwise_mergeSort Entry.le_trans Entry.le_total entries
  have hid : ((entries.mergeSort Entry.le).map (·.peer.id)).Nodup :=
    ((List.mergeSort_perm entries _).map _).nodup_iff.2 hn
  rw [List.nodup_iff_pairwise_ne, List.pairwise_map] at hid
  exact (hle.and hid).imp fun h => Entry.before_of_le h.1 h.2

/-! ## What is published is up to date -/

/-- The list published last is what is there now, and readers and watchers have it. -/
structure Current (r : Registry) : Prop where
  snapshot : r.snapshot = (r.entries.map (·.2)).mergeSort Entry.le
  watched : r.watched = r.snapshot
  latest : r.published.getLast? = some r.snapshot

theorem current_publish (r : Registry) : Current r.publish :=
  ⟨rfl, rfl, List.getLast?_concat⟩

theorem Current.step (h : Current r) (call : Call) : Current (r.step call) := by
  rcases step_eq r call with hs | hs
  · rwa [hs]
  · rw [hs]
    exact current_publish _

theorem Current.run (h : Current r) (calls : List Call) : Current (r.run calls) := by
  induction calls generalizing r with
  | nil => exact h
  | cons call calls ih => exact ih (h.step call)

theorem published_step (r : Registry) (call : Call) : r.published <+: (r.step call).published := by
  rcases step_eq r call with hs | hs
  · exact hs.symm ▸ List.prefix_rfl
  · rw [hs]
    exact List.prefix_append _ _

/-- Lists that were published stay as they are. -/
theorem published_run (r : Registry) (calls : List Call) :
    r.published <+: (r.run calls).published := by
  induction calls generalizing r with
  | nil => exact List.prefix_rfl
  | cons call calls ih => exact (published_step r call).trans (ih _)

/-! ## What readers get -/

/-- Readers and watchers have the hosts that are there. -/
structure Shown (r : Registry) : Prop where
  /-- A host stands under its own id. -/
  own : ∀ id e, r.find? id = some e → e.peer.id = id
  /-- The list has what is stored, and nothing else. -/
  mem_iff : ∀ e, e ∈ r.snapshot ↔ r.find? e.peer.id = some e
  perm : r.snapshot.Perm (r.entries.map (·.2))
  /-- No id is listed twice. -/
  once : (r.snapshot.map (·.peer.id)).Nodup
  sorted : r.snapshot.Pairwise Entry.Before
  watched : r.watched = r.snapshot
  /-- The list was published, and none after it. -/
  latest : r.published.getLast? = some r.snapshot

theorem Keyed.mem_values_iff {entries : List (String × Entry)} (h : Keyed entries) {e : Entry} :
    e ∈ entries.map (·.2) ↔ entries.lookup e.peer.id = some e := by
  rw [h.lookup_eq_some_iff]
  constructor
  · intro he
    obtain ⟨x, hx, rfl⟩ := List.mem_map.1 he
    rwa [h.own x hx]
  · exact fun he => List.mem_map_of_mem (f := (·.2)) he

theorem Keyed.ids_nodup {entries : List (String × Entry)} (h : Keyed entries) :
    ((entries.map (·.2)).map (·.peer.id)).Nodup := by
  have hids : (entries.map (·.2)).map (·.peer.id) = entries.map (·.1) := by
    rw [List.map_map]
    exact List.map_congr_left h.own
  rw [hids]
  exact h.nodup

theorem Current.shown (h : Current r) (hk : Keyed r.entries) : Shown r where
  own id e he := hk.own _ (mem_of_lookup he)
  mem_iff e := by
    rw [h.snapshot, List.mem_mergeSort, hk.mem_values_iff]
    rfl
  perm := h.snapshot ▸ List.mergeSort_perm _ _
  once := by
    rw [h.snapshot]
    exact ((List.mergeSort_perm _ _).map _).nodup_iff.2 hk.ids_nodup
  sorted := h.snapshot ▸ pairwise_before hk.ids_nodup
  watched := h.watched
  latest := h.latest

/-- After any calls readers and watchers have the hosts that are there, in strict order, and no
later call changes a list that was published before it. -/
theorem shown_run (timeout : Nat) (before after : List Call) :
    let r := ({ staleTimeout := timeout } : Registry).run before
    Shown r ∧ r.published <+: (r.run after).published := by
  intro r
  have hc : Current ({ staleTimeout := timeout } : Registry) :=
    ⟨List.mergeSort_nil.symm, rfl, rfl⟩
  exact ⟨(hc.run before).shown (Keyed.nil.run before), published_run r after⟩

end DeskStream.Registry
