import DeskStream.Proofs.Session.Dispatch
import DeskStream.Proofs.Session.Farewell
import DeskStream.Proofs.Session.Presentation
/-!
# The order of what is written

Links take what is handed to them, one message at a time. From an accepted connect to the next, numbers
are taken one after the other, and a message that is being written has the latest of those that were
not given up: so links take messages in the order of their numbers (`Period`). The one exception is a
message that was being written when the connect was accepted; its link is of an earlier generation.
-/

namespace DeskStream.Session

open Wire SendMark

variable {s s' : Session} {m : Moment} {e : Event} {t : Nat} {log : List SendMark} {but : Option Nat}

/-! ## What links take -/

theorem written_step (hi : Inv s) (m : Moment) (e : Event) :
    (s.step m e).written = s.written ++ (deliveries (s.marks m e)).map Delivery.item := by
  have hd := dispatch_step hi m e
  generalize s.step m e = s', s.marks m e = marks at hd ⊢
  cases hd with
  | aside h => simpa [tally] using congrArg Tally.written h.tally
  | connect _ _ hy | wait _ _ _ hy | refuse _ _ _ hy | unsealed _ _ _ _ _ hy | hand _ _ _ _ _ _ hy
    | taken _ _ _ hy | failed _ _ _ _ _ hy => simpa [Delivery.item, tally] using congrArg Tally.written hy

/-- What was written is what links took, no more and no less. -/
theorem written_run (hi : Inv s) (events : List (Moment × Event)) :
    (s.run events).written = s.written ++ (deliveries (s.journal events)).map Delivery.item := by
  induction events generalizing s with
  | nil => simp [run, journal]
  | cons x events ih =>
    have := ih (inv_step hi x.1 x.2)
    rw [written_step hi] at this
    simpa [run, journal] using this

/-! ## One write at a time -/

/-- At most one message is being written, and on no link to come. -/
structure Orderly (s : Session) : Prop where
  one : ∀ x ∈ s.tasks, ∀ y ∈ s.tasks, x.2.isWrite → y.2.isWrite → x = y
  past : ∀ t origin l n message, (t, .write origin l n message) ∈ s.tasks → l.generation ≤ s.generation

theorem isWriting_eq_false (h : s.isWriting = false) : ∀ x ∈ s.tasks, x.2.isWrite = false := by
  rintro ⟨t, task⟩ hx
  have := List.any_eq_false.1 h _ hx
  cases task <;> simp_all [Task.isWrite]

theorem Around.write (ha : Around but s s') {x : Nat × Task} (hx : x ∈ s'.tasks) (hw : x.2.isWrite)
    (hb : but ≠ some x.1) : x ∈ s.tasks := by
  obtain ⟨t, task⟩ := x
  cases task <;> simp only [Task.isWrite, Bool.false_eq_true] at hw
  exact (ha.fresh _ hx hb rfl).resolve_right Bool.false_ne_true

/-- A write either was there before, or a queued packet had its turn, when there was no other write, and its
message was handed to the installed link. -/
theorem Dispatch.begun {marks : List SendMark} (h : Dispatch s m s' e marks) (hn : s'.Numbered) {x : Nat × Task}
    (hx : x ∈ s'.tasks) (hw : x.2.isWrite) :
    x ∈ s.tasks ∨ s.isWriting = false ∧ e = .run x.1 ∧ marks = [.numbered x.1 s.sequence] ∧
      ∃ origin kind payload l message, s.task? x.1 = some (.queued origin kind payload) ∧ s.link = some l ∧
        s.message m ⟨kind, m.wall, s.sequence, payload⟩ = .ok message ∧ x.2 = .write origin l s.sequence message := by
  have same {but : Option Nat} (ha : Around but s s') (hb : but = some x.1 → False) : x ∈ s.tasks :=
    ha.write hx hw hb
  cases h with
  | aside h => exact .inl (same h.around (by simp))
  | connect _ ha => exact .inl (same ha (by simp))
  | wait _ h' ha =>
    refine .inl (same ha ?_)
    rintro ⟨⟩
    have := hn.eq_of_mem (hn.task?_of_mem h') hx
    simp [this, Task.isWrite] at hw
  | refuse _ h' ha | unsealed _ _ _ h' ha | taken _ h' ha | failed _ _ _ h' ha =>
    refine .inl (same ha ?_)
    rintro ⟨⟩
    exact h'.absent x hx rfl
  | @hand t origin kind payload l message h hw' hl hm h' ha =>
    by_cases hxt : x.1 = t
    · obtain ⟨u, task⟩ := x
      obtain rfl : u = t := hxt
      exact .inr ⟨hw', rfl, rfl, origin, kind, payload, l, message, h, hl, hm,
        hn.eq_of_mem (hn.task?_of_mem h') hx⟩
    · refine .inl (same ha ?_)
      rintro ⟨⟩
      exact hxt rfl

/-- A write either was there before, or is the one that was just begun, when there was no other. -/
theorem Dispatch.write {marks : List SendMark} (h : Dispatch s m s' e marks) (hn : s'.Numbered) {x : Nat × Task}
    (hx : x ∈ s'.tasks) (hw : x.2.isWrite) :
    x ∈ s.tasks ∨ s.isWriting = false ∧ ∃ origin l message, x.2 = .write origin l s.sequence message ∧
      s.link = some l ∧ marks = [.numbered x.1 s.sequence] := by
  rcases h.begun hn hx hw with h | ⟨hw, -, hm, origin, -, -, l, message, -, hl, -, he⟩
  · exact .inl h
  · exact .inr ⟨hw, origin, l, message, he, hl, hm⟩

/-- Unless a number is taken and nothing else happens, no write begins. -/
theorem Dispatch.write_before {marks : List SendMark} (h : Dispatch s m s' e marks) (hn : s'.Numbered)
    (hm : ∀ t n, marks ≠ [.numbered t n]) : ∀ x ∈ s'.tasks, x.2.isWrite → x ∈ s.tasks := by
  intro x hx hw
  rcases h.write hn hx hw with hx | ⟨_, _, _, _, _, _, he⟩
  · exact hx
  · exact absurd he (hm _ _)

theorem Orderly.step (ho : Orderly s) (hi : Inv s) (m : Moment) (e : Event) : Orderly (s.step m e) := by
  have hd := dispatch_step hi m e
  have hn := (inv_step hi m e).numbered
  constructor
  · intro x hx y hy hxw hyw
    rcases hd.write hn hx hxw with hx' | ⟨hw, _, _, _, _, _, hxm⟩
    · rcases hd.write hn hy hyw with hy' | ⟨hw, -⟩
      · exact ho.one x hx' y hy' hxw hyw
      · simp [isWriting_eq_false hw x hx'] at hxw
    · rcases hd.write hn hy hyw with hy' | ⟨_, _, _, _, _, _, hym⟩
      · simp [isWriting_eq_false hw y hy'] at hyw
      · -- Both were begun in this step.
        have hxy : x.1 = y.1 := by simpa using hxm.symm.trans hym
        exact List.inj_on_of_nodup_map hn.nodup hx hy hxy
  · intro t origin l n message hx
    have hg := generation_le_step s m e
    rcases hd.write hn hx rfl with hx | ⟨_, _, _, _, he, hl, _⟩
    · exact Nat.le_trans (ho.past _ _ _ _ _ hx) hg
    · cases he
      exact Nat.le_trans (Nat.le_of_eq (hi.linked _ hl).1) hg

theorem Orderly.run (ho : Orderly s) (hi : Inv s) (events : List (Moment × Event)) : Orderly (s.run events) := by
  induction events generalizing s with
  | nil => exact ho
  | cons x events ih => exact ih (ho.step hi x.1 x.2) (inv_step hi x.1 x.2)

/-! ## A period -/

/-- What links took since a connect: first perhaps a message that was already being written, and then
those that have numbers of the period, in that order. -/
structure Ordered (s now : Session) (log : List SendMark) (late own : List Delivery) : Prop where
  split : deliveries log = late ++ own
  few : late.length ≤ 1
  late_link : ∀ d ∈ late, d.link.generation < s.generation
  own_link : ∀ d ∈ own, s.generation ≤ d.link.generation
  own_numbers : (own.map (·.sequence)).Sublist ((numbers log).map (·.2))
  /-- A message that is being written comes next. -/
  writing : ∀ t origin l n message, (t, .write origin l n message) ∈ now.tasks →
    l.generation < s.generation ∧ deliveries log = [] ∨
      s.generation ≤ l.generation ∧ (own.map (·.sequence) ++ [n]).Sublist ((numbers log).map (·.2))

/-- What holds of a session some time after a connect. -/
structure Period (s now : Session) (log : List SendMark) : Prop where
  sequence : now.sequence = UInt32.ofNat (1 + (numbers log).length)
  numbered : (numbers log).map (·.2) = (List.range' 1 (numbers log).length).map UInt32.ofNat
  sent : now.stats.packetsSent = (deliveries log).length
  ordered : ∃ late own, Ordered s now log late own

variable {now now' : Session} {late own : List Delivery} {marks : List SendMark}

/-- Nothing is taken, and what is being written was already. -/
theorem Ordered.keep (h : Ordered s now log late own) (hm : deliveries marks = [])
    (hw : ∀ x ∈ now'.tasks, x.2.isWrite → x ∈ now.tasks) : Ordered s now' (log ++ marks) late own := by
  have hsub : ((numbers log).map (·.2)).Sublist ((numbers (log ++ marks)).map (·.2)) := by
    rw [numbers_append, List.map_append]
    exact List.sublist_append_left ..
  have hdel : deliveries (log ++ marks) = deliveries log := by simp [hm]
  refine ⟨hdel.trans h.split, h.few, h.late_link, h.own_link, h.own_numbers.trans hsub, ?_⟩
  intro t origin l n message hx
  rw [hdel]
  exact (h.writing t origin l n message (hw _ hx rfl)).imp_right fun hn => ⟨hn.1, hn.2.trans hsub⟩

/-- A message begins to be written under a new number. -/
theorem Ordered.hand (h : Ordered s now log late own) (n : UInt32) (hw : ∀ x ∈ now'.tasks, x.2.isWrite →
      ∃ origin l message, x.2 = .write origin l n message ∧ s.generation ≤ l.generation) :
    Ordered s now' (log ++ [.numbered t n]) late own := by
  have hnum : (numbers (log ++ [.numbered t n])).map (·.2) = (numbers log).map (·.2) ++ [n] := by
    simp
  refine ⟨by simpa using h.split, h.few, h.late_link, h.own_link, ?_, ?_⟩
  · rw [hnum]
    exact h.own_numbers.trans (List.sublist_append_left ..)
  · intro t origin l n' message hx
    obtain ⟨_, _, _, he, hl⟩ := hw _ hx rfl
    cases he
    rw [hnum]
    exact .inr ⟨hl, h.own_numbers.append (.refl _)⟩

/-- The message that was being written is taken, and no other is. -/
theorem Ordered.taken (h : Ordered s now log late own) {origin : Origin} {l : Link} {n : UInt32} {message : Bytes}
    (hx : (t, .write origin l n message) ∈ now.tasks) (r : Except ClientError UInt32)
    (hw : ∀ x ∈ now'.tasks, x.2.isWrite = false) :
    ∃ late own, Ordered s now' (log ++ [.taken ⟨t, l, n, message⟩, .ended t r]) late own := by
  have hnum : numbers (log ++ [.taken ⟨t, l, n, message⟩, .ended t r]) = numbers log := by simp
  have hdel : deliveries (log ++ [.taken ⟨t, l, n, message⟩, .ended t r]) =
      deliveries log ++ [⟨t, l, n, message⟩] := by simp
  have none_left : ∀ t origin l n message, (t, Task.write origin l n message) ∉ now'.tasks :=
    fun _ _ _ _ _ hx => by simpa [Task.isWrite] using hw _ hx
  rcases h.writing t origin l n message hx with ⟨hl, hd⟩ | ⟨hl, hs⟩
  · refine ⟨[⟨t, l, n, message⟩], [], by simp [hd], Nat.le_refl _, by simpa using hl, by simp, by simp, ?_⟩
    exact fun _ _ _ _ _ hx => (none_left _ _ _ _ _ hx).elim
  · refine ⟨late, own ++ [⟨t, l, n, message⟩], ?_, h.few, h.late_link, ?_, ?_, ?_⟩
    · rw [hdel, h.split, List.append_assoc]
    · intro d hd
      rcases List.mem_append.1 hd with hd | hd
      · exact h.own_link d hd
      · rw [List.mem_singleton.1 hd]
        exact hl
    · rw [hnum]
      simpa using hs
    · exact fun _ _ _ _ _ hx => (none_left _ _ _ _ _ hx).elim

/-- A number is taken: the next one. -/
theorem Period.number (hp : Period s now log) (hs : now'.sequence = now.sequence + 1)
    (hm : (numbers marks).map (·.2) = [now.sequence]) :
    now'.sequence = UInt32.ofNat (1 + (numbers (log ++ marks)).length) ∧
      (numbers (log ++ marks)).map (·.2) =
        (List.range' 1 (numbers (log ++ marks)).length).map UInt32.ofNat := by
  have hlen : (numbers (log ++ marks)).length = (numbers log).length + 1 := by
    have := congrArg List.length hm
    rw [List.length_map] at this
    simp [this]
  rw [hlen, List.range'_1_concat, numbers_append, List.map_append, List.map_append, hm, hp.numbered, hs, hp.sequence]
  exact ⟨by simp [UInt32.ofNat_add, UInt32.add_assoc], rfl⟩

/-- No number is taken and nothing delivered. -/
theorem Period.keep (hp : Period s now log) (hy : now'.tally = now.tally)
    (hm : numbers marks = [] ∧ deliveries marks = [])
    (hw : ∀ x ∈ now'.tasks, x.2.isWrite → x ∈ now.tasks) : Period s now' (log ++ marks) := by
  obtain ⟨late, own, hord⟩ := hp.ordered
  refine ⟨?_, ?_, ?_, late, own, hord.keep hm.2 hw⟩
  · rw [numbers_append, hm.1, List.append_nil, ← hp.sequence]
    exact congrArg Tally.sequence hy
  · rw [numbers_append, hm.1, List.append_nil, hp.numbered]
  · rw [deliveries_append, hm.2, List.append_nil, ← hp.sent]
    exact congrArg Tally.sent hy

theorem Period.step (hp : Period s now log) (ho : Orderly now) (hi : Inv now) (hg : s.generation ≤ now.generation)
    (m : Moment) {e : Event} (hn : ∀ t call peer, e = .run t → ¬ now.Accepts t call peer) :
    Period s (now.step m e) (log ++ now.marks m e) := by
  have hd := dispatch_step hi m e
  have hnum := (inv_step hi m e).numbered
  generalize now.step m e = now', now.marks m e = marks at hd hnum ⊢
  obtain ⟨late, own, hord⟩ := hp.ordered
  have before := hd.write_before hnum
  have begun {x : Nat × Task} (hx : x ∈ now'.tasks) (hw : x.2.isWrite) := hd.write hnum hx hw
  have next (hs : now'.sequence = now.sequence + 1)
      (hm : (numbers marks).map (·.2) = [now.sequence]) := hp.number hs hm
  cases hd with
  | aside h => exact hp.keep h.tally ⟨rfl, rfl⟩ (before (by simp))
  | connect h => exact absurd h (hn _ _ _ rfl)
  | wait _ _ _ hy | refuse _ _ _ hy | failed _ _ _ _ _ hy => exact hp.keep hy ⟨rfl, rfl⟩ (before (by simp))
  | unsealed why h hw h' ha hy =>
    obtain ⟨hs, hq⟩ := next (congrArg Tally.sequence hy) rfl
    refine ⟨hs, hq, ?_, late, own, hord.keep rfl (before (by simp))⟩
    simpa [tally, hp.sent] using congrArg Tally.sent hy
  | hand h hw hl hm h' ha hy =>
    obtain ⟨hs, hq⟩ := next (congrArg Tally.sequence hy) rfl
    refine ⟨hs, hq, ?_, late, own, hord.hand _ ?_⟩
    · simpa [tally, hp.sent] using congrArg Tally.sent hy
    · intro x hx hxw
      rcases begun hx hxw with hx | ⟨_, origin, l, message, he, hl, _⟩
      · simp [isWriting_eq_false hw x hx] at hxw
      · exact ⟨origin, l, message, he, (hi.linked l hl).1 ▸ hg⟩
  | @taken t origin l n message h h' ha hy =>
    have hx := task?_mem h
    refine ⟨?_, ?_, ?_, hord.taken hx _ ?_⟩
    · simpa [tally, hp.sequence] using congrArg Tally.sequence hy
    · simpa using hp.numbered
    · simpa [tally, hp.sent] using congrArg Tally.sent hy
    · -- There was one write, and it is over.
      intro x hx'
      by_contra hw
      rw [Bool.not_eq_false] at hw
      obtain rfl := ho.one x (before (by simp) x hx' hw) _ hx hw rfl
      exact h'.absent _ hx' rfl

theorem Period.run (hp : Period s now log) (ho : Orderly now) (hi : Inv now) (hg : s.generation ≤ now.generation)
    {after : List (Moment × Event)} (hu : now.Unconnected after) :
    Period s (now.run after) (log ++ now.journal after) := by
  induction after generalizing now log with
  | nil => simpa [journal, Session.run] using hp
  | cons x after ih =>
    have hg' := Nat.le_trans hg (generation_le_step now x.1 x.2)
    have := ih (hp.step ho hi hg x.1 hu.1) (ho.step hi x.1 x.2) (inv_step hi x.1 x.2) hg' hu.2
    rwa [List.append_assoc] at this

/-- A period begins with an accepted connect. -/
theorem Accepts.period {call : Nat} {peer : Peer} (h : s.Accepts t call peer) (hi : Inv s) (ho : Orderly s)
    (m : Moment) : Period (s.step m (.run t)) (s.step m (.run t)) [] := by
  have hy := h.tally hi m
  refine ⟨congrArg Tally.sequence hy, rfl, congrArg Tally.sent hy, [], [], rfl, by simp, by simp, by simp, by simp, ?_⟩
  intro u origin l n message hx
  -- What is being written was begun before.
  have hw := (h.around hi m).write hx rfl (by simp)
  exact .inl ⟨by rw [h.generation hi m]; exact Nat.lt_succ_of_le (ho.past _ _ _ _ _ hw), rfl⟩

/-- Numbers of less than a full round come one after the other. -/
theorem toNat_numbers {k : Nat} (hk : k < UInt32.size) :
    ((List.range' 1 k).map UInt32.ofNat).map UInt32.toNat = List.range' 1 k := by
  rw [List.map_map]
  conv_rhs => rw [← List.map_id (List.range' 1 k)]
  refine List.map_congr_left fun i hi => ?_
  have := (List.mem_range'_1.1 hi).2
  exact UInt32.toNat_ofNat_of_lt' (by omega)

theorem increasing_of_sublist {k : Nat} (hk : k < UInt32.size) {ns : List UInt32}
    (h : ns.Sublist ((List.range' 1 k).map UInt32.ofNat)) : ns.Pairwise (· < ·) := by
  have hs : (ns.map UInt32.toNat).Sublist (List.range' 1 k) := toNat_numbers hk ▸ h.map _
  have := (List.pairwise_lt_range' (s := 1) (n := k)).sublist hs
  rw [List.pairwise_map] at this
  exact this.imp UInt32.lt_iff_toNat_lt.2

/-- The sends of a period, up to some time after the connect that begins it. -/
structure Sequenced (s : Session) (after : List (Moment × Event)) : Prop where
  /-- Numbers are taken one after the other, from one on. -/
  numbered : (numbers (s.journal after)).map (·.2.toNat) = List.range' 1 (numbers (s.journal after)).length
  /-- The count is that of the messages that links took in the period. -/
  sent : (s.run after).stats.packetsSent = (deliveries (s.journal after)).length
  /-- On the links of the period numbers increase. At most one message is taken besides, by a link of an earlier
  one; it was already being written. -/
  increasing : ∃ late own, deliveries (s.journal after) = late ++ own ∧ late.length ≤ 1 ∧
    (∀ d ∈ late, d.link.generation < s.generation) ∧ (∀ d ∈ own, s.generation ≤ d.link.generation) ∧
    (own.map (·.sequence)).Pairwise (· < ·)

theorem Period.sequenced {after : List (Moment × Event)} (hp : Period s (s.run after) (s.journal after))
    (hk : (numbers (s.journal after)).length < UInt32.size) : Sequenced s after := by
  obtain ⟨late, own, ho⟩ := hp.ordered
  refine ⟨?_, hp.sent, late, own, ho.split, ho.few, ho.late_link, ho.own_link, ?_⟩
  · have := congrArg (List.map UInt32.toNat) hp.numbered
    rwa [List.map_map, toNat_numbers hk] at this
  · exact increasing_of_sublist hk (hp.numbered ▸ ho.own_numbers)

end DeskStream.Session
