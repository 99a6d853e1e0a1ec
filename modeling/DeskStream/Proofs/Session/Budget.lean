import DeskStream.Proofs.Session.DialMarks
import DeskStream.Session.Ready
import Mathlib.Data.List.Perm.Subperm
/-!
# The dial budget

A loss, however many reports of it there are, begins one timer at most, and a timer leads to one call of the connector
at most (`Budget`): calls are paid for by accepted connects and by lost links. After a call has failed there is
nothing left that could call again (`Bare.dialLog`). `dial_budget` says it of every run.
-/

namespace DeskStream

namespace DialMark

/-- The timers that began with the loss of this link and led to a call of the connector. -/
def redialsFor (l : Link) (log : List DialMark) : List Nat :=
  (redials log).filter fun t => t ∈ begun (log.filter (·.lost? = some l))

theorem countP_isDial (log : List DialMark) : log.countP isDial = log.count .called + (redials log).length := by
  induction log with
  | nil => rfl
  | cons μ log ih =>
    rw [List.countP_cons, List.count_cons, ih, redials, redials, List.filterMap_cons]
    cases μ <;> simp [redialled?, isDial] <;> omega

/-- A loss begins one timer at most. -/
theorem length_begun_le (log : List DialMark) : (begun log).length ≤ (losses log).length := by
  rw [begun, losses, List.length_filterMap_eq_countP, List.length_filterMap_eq_countP]
  refine List.countP_mono_left fun μ _ h => ?_
  cases μ with
  | lost => rfl
  | _ => exact h

theorem length_redials_le {log : List DialMark} (once : (redials log).Nodup)
    (h : ∀ t ∈ redials log, t ∈ begun log) : (redials log).length ≤ (losses log).length :=
  Nat.le_trans (List.subperm_of_subset once h).length_le (length_begun_le log)

/-- However many timers there are, those that began with one loss lead to one call at most. -/
theorem length_redialsFor_le {log : List DialMark} (once : (redials log).Nodup) (apart : (losses log).Nodup)
    (l : Link) : (redialsFor l log).length ≤ 1 := by
  have hsub : redialsFor l log ⊆ begun (log.filter (·.lost? = some l)) := by
    intro t ht
    simpa using (List.mem_filter.1 ht).2
  have hcount : (losses (log.filter (·.lost? = some l))).length ≤ 1 := by
    have h : losses (log.filter (·.lost? = some l)) = (losses log).filter (· = l) := by
      rw [losses, losses, List.filterMap_filter, List.filter_filterMap]
      refine List.filterMap_congr fun μ _ => ?_
      cases μ.lost? with
      | none => rfl
      | some k => by_cases hk : k = l <;> simp [hk, Option.filter]
    rw [h]
    have := List.nodup_iff_count_le_one.1 apart l
    rwa [List.count_eq_length_filter] at this
  have hle := (List.subperm_of_subset (once.filter _) hsub).length_le
  exact Nat.le_trans hle (Nat.le_trans (length_begun_le _) hcount)

end DialMark

namespace Session

open DialMark

variable {s start : Session} {t instant : Nat} {l : Link} {m : Moment} {e : Event} {log : List DialMark}
  {events : List (Moment × Event)}

/-! ## The account of a run -/

/-- In a run, a timer began with the loss of a link. -/
structure BeganAt (start : Session) (before : List (Moment × Event)) (m : Moment) (e : Event) (l : Link)
    (x : Nat × Task) : Prop where
  mark : .lost l m.mono (some x.1) ∈ (start.run before).dialMarks m e
  fresh : ∀ y ∈ (start.run before).tasks, y.1 ≠ x.1
  there : x ∈ ((start.run before).step m e).tasks

/-- Calls of the connector are paid for by accepted connects and by timers, and timers by lost links. -/
structure Budget (start : Session) (events : List (Moment × Event)) : Prop where
  dialled : (start.run events).dialled.length = (start.dialLog events).countP isDial
  called : (start.dialLog events).count .called ≤ (start.dialLog events).count .accepted
  /-- A timer has led to no call yet. -/
  pending : ∀ x ∈ (start.run events).tasks, x.2.isTimer → x.1 ∉ redials (start.dialLog events) ∧
    ∃ before m e after l, events = before ++ (m, e) :: after ∧ start.BeganAt before m e l x
  answering : ∀ t ∈ redials (start.dialLog events), t ∈ begun (start.dialLog events)
  once : (redials (start.dialLog events)).Nodup
  past : ∀ l ∈ losses (start.dialLog events), l.generation < (start.run events).generation
  apart : (losses (start.dialLog events)).Nodup
  numbered : ∀ t ∈ begun (start.dialLog events),
    t < (start.run events).spawned ∧ start.config.autoReconnect = true

theorem BeganAt.mem_dialLog {before after : List (Moment × Event)} {x : Nat × Task}
    (h : start.BeganAt before m e l x) :
    .lost l m.mono (some x.1) ∈ start.dialLog (before ++ (m, e) :: after) := by
  rw [dialLog_append]
  exact List.mem_append_right _ (List.mem_append_left _ h.mark)

/-- A timer that has begun led to no call before. -/
theorem Budget.new (hb : Budget start events) (h : (start.run events).spawned ≤ t) :
    t ∉ redials (start.dialLog events) := by
  intro ht
  have := (hb.numbered t (hb.answering t ht)).1
  omega

theorem Budget.pending_concat (hb : Budget start events) (hi : Inv (start.run events)) (m : Moment) (e : Event)
    {x : Nat × Task} (hx : x ∈ ((start.run events).step m e).tasks) (ht : x.2.isTimer) :
    x.1 ∉ redials (start.dialLog (events ++ [(m, e)])) ∧
      ∃ before m' e' after l, events ++ [(m, e)] = before ++ (m', e') :: after ∧ start.BeganAt before m' e' l x := by
  have hc := course_step hi m e
  have hn := hi.numbered
  have hn' := (inv_step hi m e).numbered
  rw [dialLog_concat, redials_append, List.mem_append, not_or]
  obtain ⟨hr, hold | ⟨⟨l, hl⟩, hf⟩⟩ := hc.timers hn hx ht
  · obtain ⟨hp, before, m', e', after, l, rfl, hbegan⟩ := hb.pending x hold ht
    exact ⟨⟨hp, hr⟩, before, m', e', after ++ [(m, e)], l, by simp, hbegan⟩
  · have hp := hb.new (hc.begun hn hn' (mem_begun hl)).1
    exact ⟨⟨hp, hr⟩, events, m, e, [], l, rfl, ⟨hl, hf, hx⟩⟩

/-- A call for a reconnect is the first that its timer leads to, and the timer began with a loss. -/
theorem Budget.redials_concat (hb : Budget start events) (hi : Inv (start.run events)) (m : Moment) (e : Event) :
    (∀ t ∈ redials (start.dialLog (events ++ [(m, e)])), t ∈ begun (start.dialLog (events ++ [(m, e)]))) ∧
      (redials (start.dialLog (events ++ [(m, e)]))).Nodup := by
  rw [dialLog_concat, redials_append, begun_append]
  rcases (course_step hi m e).redials with hr | ⟨t, hr, htimer⟩ <;> rw [hr]
  · rw [List.append_nil]
    exact ⟨fun t ht => List.mem_append_left _ (hb.answering t ht), hb.once⟩
  · obtain ⟨hp, before, m', e', after, l, rfl, hbegan⟩ := hb.pending _ htimer rfl
    refine ⟨?_, List.concat_eq_append ▸ (List.nodup_concat ..).2 ⟨hp, hb.once⟩⟩
    intro u hu
    refine List.mem_append_left _ ?_
    rcases List.mem_append.1 hu with hu | hu
    · exact hb.answering u hu
    · rw [List.mem_singleton.1 hu]
      exact mem_begun hbegan.mem_dialLog

/-- A link that is lost is of the present generation, and those lost before are of earlier ones. -/
theorem Budget.losses_concat (hb : Budget start events) (hi : Inv (start.run events)) (m : Moment) (e : Event) :
    (∀ l ∈ losses (start.dialLog (events ++ [(m, e)])), l.generation < ((start.run events).step m e).generation) ∧
      (losses (start.dialLog (events ++ [(m, e)]))).Nodup := by
  have hg := generation_le_step (start.run events) m e
  rw [dialLog_concat, losses_append]
  rcases (course_step hi m e).losses with hl | ⟨l, hl, hlink, hlt⟩ <;> rw [hl]
  · rw [List.append_nil]
    exact ⟨fun l hl => Nat.lt_of_lt_of_le (hb.past l hl) hg, hb.apart⟩
  · have hpresent := (hi.linked l hlink).1
    refine ⟨?_, List.concat_eq_append ▸ (List.nodup_concat ..).2 ⟨fun hm => ?_, hb.apart⟩⟩
    · intro k hk
      rcases List.mem_append.1 hk with hk | hk
      · exact Nat.lt_of_lt_of_le (hb.past k hk) hg
      · rwa [List.mem_singleton.1 hk, hpresent]
    · have := hb.past l hm
      omega

theorem Budget.concat (hb : Budget start events) (hi : Inv (start.run events)) (m : Moment) (e : Event) :
    Budget start (events ++ [(m, e)]) := by
  have hc := course_step hi m e
  have hrun : start.run (events ++ [(m, e)]) = (start.run events).step m e := run_concat ..
  refine ⟨?_, ?_, ?_, (hb.redials_concat hi m e).1, (hb.redials_concat hi m e).2, ?_, (hb.losses_concat hi m e).2, ?_⟩
  · rw [hrun, hc.dialled, hb.dialled, dialLog_concat, List.countP_append]
  · rw [dialLog_concat, List.count_append, List.count_append]
    exact Nat.add_le_add hb.called hc.called
  · rw [hrun]
    intro x hx ht
    exact hb.pending_concat hi m e hx ht
  · rw [hrun]
    exact (hb.losses_concat hi m e).1
  · rw [hrun, dialLog_concat, begun_append]
    have hs := spawned_le_step hi m e
    intro t ht
    rcases List.mem_append.1 ht with ht | ht
    · obtain ⟨hlt, hr⟩ := hb.numbered t ht
      exact ⟨Nat.lt_of_lt_of_le hlt hs, hr⟩
    · obtain ⟨-, hlt, hr⟩ := hc.begun hi.numbered (inv_step hi m e).numbered ht
      have hconfig : (start.run events).config = start.config := config_run start events
      exact ⟨hlt, hconfig ▸ hr⟩

theorem budget_run (hi : Inv start) (hd : start.dialled = []) (ht : start.tasks = [])
    (events : List (Moment × Event)) : Budget start events := by
  induction events using List.reverseRecOn with
  | nil =>
    refine ⟨by simp [run, hd, dialLog], Nat.le_refl _, ?_, ?_, List.nodup_nil, ?_, List.nodup_nil, ?_⟩
    · intro x hx
      rw [run, List.foldl_nil, ht] at hx
      cases hx
    · intro t ht
      cases ht
    · intro l hl
      cases hl
    · intro t ht
      cases ht
  | append_singleton events x ih => exact ih.concat (inv_run hi events) x.1 x.2

/-! ## After a failure -/

/-- Where nothing is connected or under way, the connector is not called until a connect is accepted. -/
theorem Bare.dialLog (hb : Bare s) {mid post : List DialMark} (h : s.dialLog events = mid ++ post)
    (ha : .accepted ∉ mid) : ∀ μ ∈ mid, μ.isDial = false := by
  induction events generalizing s mid with
  | nil =>
    have hnil : mid = [] := (List.append_eq_nil_iff.1 h.symm).1
    simp [hnil]
  | cons x events ih =>
    intro μ hμ
    rcases (course_step hb.inv x.1 x.2).of_bare hb with ⟨rest, hr⟩ | ⟨hb', hd⟩
    · -- The first mark there is would be an accepted connect.
      rw [Session.dialLog, hr, List.cons_append] at h
      cases mid with
      | nil => cases hμ
      | cons ν mid =>
        rw [List.cons_append, List.cons.injEq] at h
        exact absurd (h.1 ▸ List.mem_cons_self) ha
    · rcases List.append_eq_append_iff.1 h with ⟨c, rfl, hc⟩ | ⟨c, hm, -⟩
      · rcases List.mem_append.1 hμ with hμ | hμ
        · exact hd μ hμ
        · exact ih hb' hc (fun hc => ha (List.mem_append_right _ hc)) μ hμ
      · exact hd μ (hm ▸ List.mem_append_left _ hμ)

/-! ## Every run -/

/-- An activity that begins to sleep is not woken before its time has passed. -/
def Punctual (start : Session) (events : List (Moment × Event)) : Prop :=
  ∀ before m e between m' t after task n, events = before ++ (m, e) :: (between ++ (m', .intervalOver t) :: after) →
    (start.run before).task? t = none →
    ((start.run before).step m e).task? t = some task → ((start.run before).step m e).sleep? task = some n →
    m.mono + 1000000 * n ≤ m'.mono

/-- A call for a reconnect answers a loss before it, after the interval. -/
theorem Budget.answered (hi : Inv start) (hd : start.dialled = []) (ht : start.tasks = []) {pre post : List DialMark}
    (h : start.dialLog events = pre ++ .redialled t instant :: post) :
    ∃ l since, .lost l since (some t) ∈ pre ∧
      (start.Punctual events → since + 1000000 * start.config.reconnectInterval ≤ instant) := by
  obtain ⟨earlier, m', e', after, a, b, rfl, hm, rfl, -⟩ := dialLog_split h
  have hie := inv_run hi earlier
  have hmark : .redialled t instant ∈ (start.run earlier).dialMarks m' e' := by simp [hm]
  obtain ⟨rfl, rfl, htimer⟩ := (course_step hie m' e').of_redialled hmark
  obtain ⟨-, before, m, e, between, l, rfl, hbegan⟩ := (budget_run hi hd ht earlier).pending _ (task?_mem htimer) rfl
  refine ⟨l, m.mono, List.mem_append_left _ hbegan.mem_dialLog, fun hp => ?_⟩
  have hib := inv_run hi before
  have habsent : (start.run before).task? t = none := by
    cases h : (start.run before).task? t with
    | none => rfl
    | some task => exact absurd rfl (hbegan.fresh (t, task) (task?_mem h))
  have hthere := (inv_step hib m e).numbered.task?_of_mem hbegan.there
  have hconfig : ((start.run before).step m e).config = start.config :=
    (config_step ..).trans (config_run start before)
  refine hp before m e between m' t after _ _ (by simp) habsent hthere ?_
  rw [sleep?, hconfig]

/-- Without reconnecting there are no timers to lead to calls. -/
theorem Budget.length_redials_le (hb : Budget start events) :
    (redials (start.dialLog events)).length ≤
      if start.config.autoReconnect then (losses (start.dialLog events)).length else 0 := by
  split
  · exact DialMark.length_redials_le hb.once hb.answering
  · rename_i hr
    refine Nat.le_of_eq (List.length_eq_zero_iff.2 (List.eq_nil_iff_forall_not_mem.2 fun t ht => hr ?_))
    exact (hb.numbered t (hb.answering t ht)).2

theorem Budget.exhausted (hi : Inv start) {pre mid post : List DialMark}
    (h : start.dialLog events = pre ++ .failed :: (mid ++ post)) (ha : .accepted ∉ mid) :
    ∀ μ ∈ mid, μ.isDial = false := by
  obtain ⟨before, m, e, after, a, b, -, hm, -, hpost⟩ := dialLog_split h
  obtain ⟨rfl, hb⟩ := (course_step (inv_run hi before) m e).of_failed hm
  exact hb.dialLog hpost.symm ha

/-- In every run the connector is called at most once for each accepted connect and, only if reconnecting is
configured, once for each lost link. No link is lost twice, whoever reports it and however often, and its loss leads to
at most one call, which answers it after the reconnect interval, as long as sleep is punctual. Once a call has failed
that was not superseded, there is none until a connect is accepted. -/
theorem dial_budget (config : SessionConfig) (ring : KeyRing) (format : PcmFormat) (events : List (Moment × Event)) :
    let start := ofConfig config ring format
    let s := start.run events
    let log := start.dialLog events
    s.dialled.length = log.countP isDial ∧
      s.dialled.length ≤ log.count .accepted + (if config.autoReconnect then (losses log).length else 0) ∧
      ((losses log).Nodup ∧ ∀ l, (redialsFor l log).length ≤ 1) ∧
      (∀ pre t instant post, log = pre ++ .redialled t instant :: post → ∃ l since, .lost l since (some t) ∈ pre ∧
        (start.Punctual events → since + 1000000 * config.reconnectInterval ≤ instant)) ∧
      ∀ pre mid post, log = pre ++ .failed :: (mid ++ post) → .accepted ∉ mid → ∀ μ ∈ mid, μ.isDial = false := by
  intro start s log
  have hi : Inv start := (bare_ofConfig config ring format).inv
  have hb : Budget start events := budget_run hi rfl rfl events
  refine ⟨hb.dialled, ?_, ⟨hb.apart, length_redialsFor_le hb.once hb.apart⟩, ?_, ?_⟩
  · have hcalled : log.count .called ≤ log.count .accepted := hb.called
    have hdialled : s.dialled.length = log.count .called + (redials log).length :=
      hb.dialled.trans (countP_isDial log)
    have hredials := hb.length_redials_le
    exact Nat.le_trans (Nat.le_of_eq hdialled) (Nat.add_le_add hcalled hredials)
  · intro pre t instant post h
    exact Budget.answered hi rfl rfl h
  · intro pre mid post h
    exact Budget.exhausted hi h

/-- One failed send drops the link. -/
def fragile : SessionConfig := { encrypt := false, sendAuthToken := false, sendFailureThreshold := 1 }

/-- A link is found gone by its receive loop and by a write. -/
def dropped : List (Moment × Event) :=
  atOnce [.callConnect 0 (.manual "desk" "desk.local" 9000), .run 0, .dialDone 0 (.ok ()), .callSend 1 .control [1],
    .run 2, .run 2, .linkEnded 1 "reset", .writeDone 2 (.error .connectionClosed)]

/-- A second after the moment at which clocks stand still. -/
def later : Moment := { still with mono := 1000000000 }

/-- A second later a reconnect is tried, which fails. -/
def retried : List (Moment × Event) :=
  dropped ++ (later, .intervalOver 4) :: [(later, .dialDone 4 (.error .timeout))]

/-- Nothing sleeps longer than a second, and what slept was woken a second after all that went before. -/
theorem punctual_retried : (ofConfig fragile ⟨none, none⟩ .s16le).Punctual retried := by
  intro before m e between m' t after task n he _ _ hsleep
  have hmem : (m', Event.intervalOver t) ∈ retried := by simp [he]
  have hwoken : m' = later ∧ t = 4 := by simpa [retried, dropped, atOnce] using hmem
  obtain ⟨rfl, rfl⟩ := hwoken
  have hbefore : dropped = before ++ (m, e) :: between := by
    have hsplit : dropped ++ (later, .intervalOver 4) :: [(later, .dialDone 4 (.error .timeout))] =
        (before ++ (m, e) :: between) ++ (later, .intervalOver 4) :: after := by
      rw [List.append_assoc, List.cons_append]
      exact he
    exact ((List.append_cons_inj_of_notMem (by simp [dropped, atOnce]) (by simp)).1 hsplit).1
  have hm : m = still := by
    have : (m, e) ∈ dropped := by simp [hbefore]
    obtain ⟨_, _, h⟩ := List.mem_map.1 this
    exact (congrArg Prod.fst h).symm
  have hn : n = 1000 := by
    cases task with
    | timer g =>
      have hc := (config_step ((ofConfig fragile ⟨none, none⟩ .s16le).run before) m e).trans (config_run ..)
      rw [sleep?, hc] at hsleep
      exact (Option.some.inj hsleep).symm
    | _ => cases hsleep
  rw [hm, hn]
  exact Nat.le_of_eq rfl

/-- Both of them told of the one loss, and it was answered once, after a second. -/
theorem dial_budget_retried :
    let start := ofConfig fragile ⟨none, none⟩ .s16le
    let log := start.dialLog retried
    log = [.accepted, .called, .lost ⟨0, 1⟩ 0 (some 4), .redialled 4 1000000000, .failed] ∧
      start.Punctual retried ∧ (start.run retried).dialled.length = 2 ∧ redialsFor ⟨0, 1⟩ log = [4] ∧
      ∃ l since, .lost l since (some 4) ∈ [DialMark.accepted, .called, .lost ⟨0, 1⟩ 0 (some 4)] ∧
        since + 1000000 * fragile.reconnectInterval ≤ 1000000000 := by
  intro start log
  have hlog : log = [.accepted, .called, .lost ⟨0, 1⟩ 0 (some 4), .redialled 4 1000000000, .failed] := by
    decide +kernel
  obtain ⟨hdialled, -, -, hanswered, -⟩ := dial_budget fragile ⟨none, none⟩ .s16le retried
  obtain ⟨l, since, hl, hlate⟩ := hanswered [.accepted, .called, .lost ⟨0, 1⟩ 0 (some 4)] 4 1000000000 [.failed] hlog
  refine ⟨hlog, punctual_retried, ?_, ?_, l, since, hl, hlate punctual_retried⟩
  · refine hdialled.trans ?_
    change log.countP isDial = 2
    rw [hlog]
    rfl
  · rw [hlog]
    decide

end Session
end DeskStream
