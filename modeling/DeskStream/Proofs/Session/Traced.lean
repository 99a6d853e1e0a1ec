import DeskStream.Proofs.Session.Parcels
import Mathlib.Data.List.Induction
/-!
# What was written, and why

Parcels go on under numbers of their own, and whatever is on its way or has left a mark has one (`Traced`). So every
message that links took is traced back to the one parcel that was written in it, and no parcel is written twice.
-/

namespace DeskStream.Session

open Wire SendMark

variable {start s s' : Session} {m : Moment} {e : Event} {t : Nat} {task : Task} {kind : PacketKind} {payload : Bytes}
  {p : Parcel} {d : Delivery} {events : List (Moment × Event)} {marks : List SendMark}

/-! ## Sends and marks have parcels -/

theorem isSending_of_origin? {o : Origin} (h : origin? task = some o) : task.isSending := by
  cases task <;> first | rfl | cases h

/-- A packet on its way after a step has just begun, or was on its way for the same. -/
theorem Dispatch.sending (hd : Dispatch s m s' e marks) (hn : s.Numbered) (hn' : s'.Numbered) {x : Nat × Task}
    (hx : x ∈ s'.tasks) {o : Origin} (ho : origin? x.2 = some o) :
    x.2.isSend ∨ ∃ task, s.task? x.1 = some task ∧ origin? task = some o := by
  have same {but : Option Nat} (ha : Around but s s') (hb : but ≠ some x.1) :
      x.2.isSend ∨ ∃ task, s.task? x.1 = some task ∧ origin? task = some o := by
    rcases ha.fresh x hx hb (isSending_of_origin? ho) with hx | hs
    · exact .inr ⟨x.2, hn.task?_of_mem hx, ho⟩
    · exact .inl hs
  cases hd with
  | aside h => exact same h.around (by simp)
  | connect _ ha => exact same ha (by simp)
  | @wait t origin kind payload h h' ha | @hand t origin kind payload _ _ h _ _ _ h' ha =>
    by_cases hxt : x.1 = t
    · obtain ⟨u, task⟩ := x
      obtain rfl : u = t := hxt
      obtain rfl := hn'.eq_of_mem (hn'.task?_of_mem h') hx
      exact .inr ⟨_, h, ho⟩
    · exact same ha (by simpa using Ne.symm hxt)
  | refuse _ h' ha | unsealed _ _ _ h' ha | taken _ h' ha | failed _ _ _ h' ha =>
    exact same ha (by simpa using Ne.symm (h'.absent x hx))

/-- What a mark is about was on its way. -/
theorem Dispatch.marked (hd : Dispatch s m s' e marks) {mark : SendMark} (h : mark ∈ marks) :
    ∃ task o, s.task? mark.send = some task ∧ origin? task = some o := by
  cases hd with
  | aside | connect | wait => cases h
  | refuse ht =>
    obtain rfl := List.mem_singleton.1 h
    rcases ht with ht | ht <;> exact ⟨_, _, ht, rfl⟩
  | hand ht =>
    obtain rfl := List.mem_singleton.1 h
    exact ⟨_, _, ht, rfl⟩
  | failed _ _ ht =>
    obtain rfl := List.mem_singleton.1 h
    exact ⟨_, _, ht, rfl⟩
  | unsealed _ ht | taken ht =>
    simp only [List.mem_cons, List.not_mem_nil, or_false] at h
    rcases h with rfl | rfl <;> exact ⟨_, _, ht, rfl⟩

theorem Life.past (hl : Life start events t kind payload) (hn : (start.run events).Numbered) :
    t < (start.run events).spawned := by
  cases hl with
  | waiting h =>
    rcases h with h | h <;> exact hn.lt _ (task?_mem h)
  | writing h => exact hn.lt _ (task?_mem h)
  | refused h | failed _ _ h | sent h => exact h.past

theorem Life.isSending (hl : Life start events t kind payload) (h : (start.run events).task? t = some task) :
    task.isSending := by
  cases hl with
  | waiting h' => rcases h' with h' | h' <;> cases h.symm.trans h' <;> rfl
  | writing h' => cases h.symm.trans h'; rfl
  | refused h' | failed _ _ h' | sent h' => cases h.symm.trans h'.task?

/-- After a run every send that has begun is that of a parcel, and lives the life of one. -/
structure Traced (start : Session) (events : List (Moment × Event)) : Prop where
  nodup : ((start.parcels events).map Parcel.send).Nodup
  life : ∀ p ∈ start.parcels events, Life start events p.send p.kind p.payload
  sending : ∀ x ∈ (start.run events).tasks, ∀ o, origin? x.2 = some o →
    ∃ p ∈ start.parcels events, p.send = x.1 ∧ p.origin = o
  marked : ∀ mark ∈ start.journal events, ∃ p ∈ start.parcels events, p.send = mark.send

namespace Traced

theorem nil (h : start.tasks = []) : Traced start [] where
  nodup := List.nodup_nil
  life := nofun
  sending x hx := by
    rw [show (start.run []).tasks = [] from h] at hx
    cases hx
  marked := nofun

/-- The number of a parcel that begins is that of no other. -/
theorem fresh (ht : Traced start events) (hi : Inv (start.run events)) (m : Moment)
    (hp : (start.run events).parcel? e = some p) : ∀ q ∈ start.parcels events, q.send ≠ p.send := by
  intro q hq hqp
  have hl := ht.life q hq
  rw [hqp] at hl
  rcases ((begun_step hi m e).new p hp).2 with hnew | ⟨task, htask, hs⟩
  · have := hl.past hi.numbered
    omega
  · rw [hl.isSending htask] at hs
    cases hs

theorem concat (ht : Traced start events) (hi : Inv (start.run events)) (m : Moment) (e : Event) :
    Traced start (events ++ [(m, e)]) := by
  have hb := begun_step hi m e
  have hd := dispatch_step hi m e
  have hn := (inv_step hi m e).numbered
  have hparcels := parcels_concat start events m e
  have hmem {q : Parcel} : q ∈ start.parcels (events ++ [(m, e)]) ↔
      q ∈ start.parcels events ∨ (start.run events).parcel? e = some q := by
    rw [hparcels, List.mem_append, Option.mem_toList]
  have hkept {u : Nat} {o : Origin} (h : ∃ task, (start.run events).task? u = some task ∧ origin? task = some o) :
      ∃ p ∈ start.parcels (events ++ [(m, e)]), p.send = u ∧ p.origin = o := by
    obtain ⟨task, htask, ho⟩ := h
    obtain ⟨q, hq, hqu⟩ := ht.sending _ (task?_mem htask) o ho
    exact ⟨q, hmem.2 (.inl hq), hqu⟩
  refine ⟨?_, ?_, ?_, ?_⟩
  · rw [hparcels]
    cases hp : (start.run events).parcel? e with
    | none => simpa using ht.nodup
    | some p =>
      rw [List.map_append]
      refine List.nodup_append.2 ⟨ht.nodup, List.nodup_singleton _, ?_⟩
      rintro a ha b hb rfl
      obtain ⟨q, hq, hqa⟩ := List.mem_map.1 ha
      exact ht.fresh hi m hp q hq (hqa.trans (List.mem_singleton.1 hb))
  · intro q hq
    rcases hmem.1 hq with hq | hq
    · exact (ht.life q hq).step hi m e
    · obtain ⟨hentry, -⟩ := hb.new q hq
      have hbegun : (start.run (events ++ [(m, e)])).task? q.send = some (.send q.origin q.kind q.payload) := by
        rw [run_concat]
        exact hn.task?_of_mem hentry
      refine .waiting (.inl hbegun) ?_
      -- What has just begun has left no marks: those there are have parcels, or are about what was on its way.
      rw [marksOf_concat, List.append_eq_nil_iff, List.filter_eq_nil_iff, List.filter_eq_nil_iff]
      constructor
      · intro mark hmark
        obtain ⟨r, hr, hrm⟩ := ht.marked mark hmark
        exact fun hm => ht.fresh hi m hq r hr (hrm.trans (of_decide_eq_true hm))
      · intro mark hmark
        obtain ⟨task, o, htask, ho⟩ := hd.marked hmark
        obtain ⟨r, hr, hrm, -⟩ := ht.sending _ (task?_mem htask) o ho
        exact fun hm => ht.fresh hi m hq r hr (hrm.trans (of_decide_eq_true hm))
  · intro x hx o ho
    rw [run_concat] at hx
    rcases hd.sending hi.numbered hn hx ho with hs | h
    · rcases hb.old x hx hs with hx | ⟨p, hp, rfl⟩
      · exact hkept ⟨x.2, hi.numbered.task?_of_mem hx, ho⟩
      · cases ho
        exact ⟨p, hmem.2 (.inr hp), rfl, rfl⟩
    · exact hkept h
  · intro mark hmark
    rw [journal_concat] at hmark
    rcases List.mem_append.1 hmark with hmark | hmark
    · obtain ⟨q, hq, hqm⟩ := ht.marked mark hmark
      exact ⟨q, hmem.2 (.inl hq), hqm⟩
    · obtain ⟨task, o, htask, ho⟩ := hd.marked hmark
      obtain ⟨q, hq, hqm, -⟩ := hkept ⟨task, htask, ho⟩
      exact ⟨q, hq, hqm⟩

end Traced

theorem traced_run (hi : Inv start) (h : start.tasks = []) (events : List (Moment × Event)) : Traced start events := by
  induction events using List.reverseRecOn with
  | nil => exact .nil h
  | append_singleton events x ih => exact ih.concat (inv_run hi events) x.1 x.2

/-! ## What links took -/

/-- What a link took, and the parcel that was written in it. -/
structure Posting where
  delivery : Delivery
  parcel : Parcel

/-- A delivery with the parcel of its number, if that is among those given. -/
def post? (parcels : List Parcel) (d : Delivery) : Option Posting :=
  (parcels.find? (·.send = d.send)).map fun p => ⟨d, p⟩

/-- What links took in a run, in order, each with its parcel. -/
def postings (start : Session) (events : List (Moment × Event)) : List Posting :=
  (deliveries (start.journal events)).filterMap (post? (start.parcels events))

theorem mem_deliveries {log : List SendMark} : d ∈ deliveries log ↔ .taken d ∈ log := by
  constructor
  · intro h
    obtain ⟨mark, hm, hd⟩ := List.mem_filterMap.1 h
    cases mark <;> cases hd
    exact hm
  · intro h
    exact List.mem_filterMap.2 ⟨_, h, rfl⟩

theorem post?_eq_some {parcels : List Parcel} {x : Posting} (h : post? parcels d = some x) :
    x.delivery = d ∧ x.parcel ∈ parcels ∧ x.parcel.send = d.send := by
  obtain ⟨p, hp, rfl⟩ := Option.map_eq_some_iff.1 h
  exact ⟨rfl, List.mem_of_find?_eq_some hp, by simpa using List.find?_some hp⟩

theorem exists_post? {parcels : List Parcel} (h : ∃ p ∈ parcels, p.send = d.send) : ∃ x, post? parcels d = some x := by
  obtain ⟨p, hp, hd⟩ := h
  cases hf : parcels.find? (·.send = d.send) with
  | none => simpa [hd] using List.find?_eq_none.1 hf p hp
  | some q => exact ⟨⟨d, q⟩, by rw [post?, hf]; rfl⟩

/-- Parcels that are begun later do not count. -/
theorem post?_append {parcels : List Parcel} (h : ∃ p ∈ parcels, p.send = d.send) (more : List Parcel) :
    post? (parcels ++ more) d = post? parcels d := by
  obtain ⟨x, hx⟩ := exists_post? h
  obtain ⟨p, hp, -⟩ := Option.map_eq_some_iff.1 hx
  rw [post?, List.find?_append, hp, Option.some_or, post?, hp]

/-- A send leaves at most one message with links. -/
theorem Life.once (hl : Life start events t kind payload) : (deliveriesOf t (start.journal events)).length ≤ 1 := by
  rw [deliveriesOf_eq]
  cases hl with
  | waiting _ hm | writing _ _ hm | refused _ hm | failed _ _ _ hm | sent _ _ _ hm => rw [hm]; simp

theorem Life.handedIn (hl : Life start events t kind payload) (hd : .taken d ∈ start.journal events) (ht : d.send = t) :
    start.HandedIn events kind payload d := by
  have hf : SendMark.taken d ∈ (start.journal events).filter (·.send = t) := mem_marksOf.2 ⟨hd, ht⟩
  cases hl with
  | waiting _ hm | writing _ _ hm | refused _ hm | failed _ _ _ hm => simp [hm] at hf
  | @sent d' _ _ hh hm =>
    rw [hm] at hf
    obtain rfl : d = d' := by simpa using hf
    exact hh

namespace Traced

theorem delivered (ht : Traced start events) (hd : d ∈ deliveries (start.journal events)) :
    ∃ p ∈ start.parcels events, p.send = d.send :=
  ht.marked _ (mem_deliveries.1 hd)

/-- Every message is traced back. -/
theorem map_delivery (ht : Traced start events) :
    (start.postings events).map Posting.delivery = deliveries (start.journal events) := by
  have hpost : ∀ d ∈ deliveries (start.journal events),
      (post? (start.parcels events) d).map Posting.delivery = some d := by
    intro d hd
    obtain ⟨x, hx⟩ := exists_post? (ht.delivered hd)
    rw [hx, Option.map_some, (post?_eq_some hx).1]
  rw [postings, List.map_filterMap, List.filterMap_congr hpost, List.filterMap_some]

theorem mem_postings {x : Posting} (hx : x ∈ start.postings events) :
    .taken x.delivery ∈ start.journal events ∧ x.parcel ∈ start.parcels events ∧ x.parcel.send = x.delivery.send := by
  obtain ⟨d, hd, hpost⟩ := List.mem_filterMap.1 hx
  obtain ⟨rfl, hp, hs⟩ := post?_eq_some hpost
  exact ⟨mem_deliveries.1 hd, hp, hs⟩

/-- A number is that of one parcel. -/
theorem unique (ht : Traced start events) {q : Parcel} (hp : p ∈ start.parcels events) (hq : q ∈ start.parcels events)
    (h : p.send = q.send) : p = q :=
  List.inj_on_of_nodup_map ht.nodup hp hq h

theorem post?_eq (ht : Traced start events) (hp : p ∈ start.parcels events) (h : p.send = d.send) :
    post? (start.parcels events) d = some ⟨d, p⟩ := by
  obtain ⟨⟨d', q⟩, hx⟩ := exists_post? ⟨p, hp, h⟩
  obtain ⟨rfl, hq, hs⟩ := post?_eq_some hx
  rw [hx, ht.unique hp hq (h.trans hs.symm)]

theorem mem_postings_of_taken (ht : Traced start events) (hd : .taken d ∈ start.journal events)
    (hp : p ∈ start.parcels events) (h : p.send = d.send) : ⟨d, p⟩ ∈ start.postings events :=
  List.mem_filterMap.2 ⟨d, mem_deliveries.2 hd, ht.post?_eq hp h⟩

/-- What is in the message is the packet of its parcel. -/
theorem handedIn (ht : Traced start events) {x : Posting} (hx : x ∈ start.postings events) :
    start.HandedIn events x.parcel.kind x.parcel.payload x.delivery := by
  obtain ⟨hd, hp, hs⟩ := mem_postings hx
  exact (ht.life _ hp).handedIn hd hs.symm

/-- No parcel is written twice. -/
theorem nodup_postings (ht : Traced start events) : ((start.postings events).map Posting.parcel).Nodup := by
  have hsends : ((deliveries (start.journal events)).map Delivery.send).Nodup := by
    rw [List.nodup_iff_count_le_one]
    intro t
    rw [List.count, List.countP_map, List.countP_eq_length_filter]
    change (deliveriesOf t (start.journal events)).length ≤ 1
    by_cases h : ∃ p ∈ start.parcels events, p.send = t
    · obtain ⟨p, hp, rfl⟩ := h
      exact (ht.life p hp).once
    · -- Nothing goes on under this number.
      have hnone : deliveriesOf t (start.journal events) = [] := by
        refine List.filter_eq_nil_iff.2 fun d hd hdt => h ?_
        obtain ⟨p, hp, hpd⟩ := ht.delivered hd
        exact ⟨p, hp, hpd.trans (of_decide_eq_true hdt)⟩
      rw [hnone]
      exact Nat.zero_le 1
  have hsame : ((start.postings events).map Posting.parcel).map Parcel.send =
      (deliveries (start.journal events)).map Delivery.send := by
    rw [← ht.map_delivery, List.map_map, List.map_map]
    exact List.map_congr_left fun x hx => (mem_postings hx).2.2
  exact List.Nodup.of_map Parcel.send (hsame ▸ hsends)

/-- One more step adds what links take in it. -/
theorem postings_concat (ht : Traced start events) (hi : Inv (start.run events)) (m : Moment) (e : Event) :
    start.postings (events ++ [(m, e)]) =
      start.postings events ++
        (deliveries ((start.run events).marks m e)).filterMap (post? (start.parcels events)) := by
  have hd := dispatch_step hi m e
  rw [postings, journal_concat, deliveries_append, List.filterMap_append, parcels_concat]
  congr 1
  · exact List.filterMap_congr fun d hd => post?_append (ht.delivered hd) _
  · refine List.filterMap_congr fun d hdel => post?_append ?_ _
    obtain ⟨task, o, htask, ho⟩ := hd.marked (mem_deliveries.1 hdel)
    obtain ⟨p, hp, hps, -⟩ := ht.sending _ (task?_mem htask) o ho
    exact ⟨p, hp, hps⟩

end Traced

end DeskStream.Session
