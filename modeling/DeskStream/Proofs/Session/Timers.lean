import DeskStream.Proofs.Session.Dialling
import DeskStream.Proofs.Session.SendFailures
/-!
# Reconnect timers

A reconnect timer begins when the installed link is lost (`Lost`), whoever reports it first, and at no other time.
What follows is told apart by what it does to timers and to calls of the connector: most operations begin neither
and leave a session with nothing under way as it is (`Steady`).
-/

namespace DeskStream

/-- A reconnect that waits for its interval to pass. -/
def Task.isTimer : Task → Bool
  | .timer _ => true
  | _ => false

theorem Task.isTimer_of_isPlain {task : Task} (h : task.isPlain) : task.isTimer = false := by
  cases task <;> simp_all [isPlain, isTimer]

theorem Task.isTimer_of_isJoin {task : Task} (h : task.isJoin) : task.isTimer = false := by
  cases task <;> simp_all [isJoin, isTimer]

theorem Task.told_of_isTimer {link : Nat} {task : Task} (h : (task.told link).isTimer) : task.told link = task := by
  cases task <;> simp_all [isTimer, told]

namespace Session

open Wire

variable {s s₁ s' s'' : Session} {t : Nat} {l : Link} {m : Moment} {e : Event} {old new task : Task}

/-! ## Nothing begins -/

/-- No timer begins and the connector is not called, and where nothing is connected or under way nothing comes to
be. -/
structure Steady (s s' : Session) : Prop where
  timers : ∀ x ∈ s'.tasks, x.2.isTimer → x ∈ s.tasks
  dialled : s'.dialled = s.dialled
  bare : Bare s → Bare s'

theorem Steady.refl (s : Session) : Steady s s := ⟨fun _ hx _ => hx, rfl, id⟩

theorem Steady.trans (h : Steady s s') (h' : Steady s' s'') : Steady s s'' where
  timers x hx ht := h.timers x (h'.timers x hx ht) ht
  dialled := h'.dialled.trans h.dialled
  bare := h'.bare ∘ h.bare

theorem Bare.of_core (hb : Bare s) (h : s'.core = s.core) : Bare s' := by
  refine hb.withState ?_
  have hs : s'.state = s.state := congrArg Core.state h
  rw [h, hs]
  rfl

theorem Steady.of_core (h : s'.core = s.core) (hd : s'.dialled = s.dialled) : Steady s s' where
  timers x hx _ := by
    have ht : s'.tasks = s.tasks := congrArg Core.tasks h
    exact ht ▸ hx
  dialled := hd
  bare hb := hb.of_core h

theorem Steady.congr (h : Steady s s') (hc : s''.core = s'.core) (hd : s''.dialled = s'.dialled) : Steady s s'' :=
  h.trans (.of_core hc hd)

theorem Steady.spawn (s : Session) (hp : task.isPlain) : Steady s (s.spawn task) where
  timers x hx ht := by
    rcases mem_spawn.1 hx with hx | rfl
    · exact hx
    · cases (Task.isTimer_of_isPlain hp).symm.trans ht
  dialled := rfl
  bare hb := hb.spawn hp

theorem Steady.put (s : Session) (t : Nat) (hp : new.isPlain ∨ new.isJoin) : Steady s (s.put t new) where
  timers x hx ht := by
    rcases mem_put hx with hx | rfl
    · exact hx
    · rcases hp with hp | hp
      · cases (Task.isTimer_of_isPlain hp).symm.trans ht
      · cases (Task.isTimer_of_isJoin hp).symm.trans ht
  dialled := rfl
  bare hb := hb.put t hp

theorem Steady.erase (s : Session) (t : Nat) : Steady s (s.erase t) where
  timers _ hx _ := (mem_erase.1 hx).1
  dialled := rfl
  bare hb := hb.erase t

theorem Steady.answer (s : Session) (t call : Nat) (o : Outcome) : Steady s (s.answer t call o) :=
  (Steady.erase s t).congr rfl rfl

theorem Steady.transition (s : Session) (g : Nat) (allowed : ConnectionState → Bool) (next : ConnectionState) :
    Steady s (s.transition g allowed next) where
  timers x hx _ := by simpa using hx
  dialled := dialled_transition ..
  bare hb := hb.withState (transition_core ..)

theorem Steady.letGo (s : Session) : Steady s s.letGo where
  timers x hx ht := by
    rcases letGo_tasks s with h | ⟨n, h⟩ <;> rw [h] at hx
    · exact hx
    · obtain ⟨y, hy, rfl⟩ := List.mem_map.1 hx
      rwa [Task.told_of_isTimer ht]
  dialled := (Calm.letGo s).dialled
  bare hb := hb.inv.bare_letGo

theorem steady_release (s : Session) : Steady s s.release := by
  have h : Steady s { s with pipeline := s.pipeline.reset, ring := s.ring.logout } := .of_core rfl rfl
  exact h.trans (.transition ..)

theorem steady_disconnect (s : Session) (t call : Nat) : Steady s (s.disconnect t call) := by
  have h := Steady.letGo s
  rcases disconnect_cases s t call with ⟨l, -, he⟩ | ⟨-, -, he⟩ | ⟨-, -, he⟩ <;> rw [he]
  · exact (h.trans (.put _ t (.inr rfl))).congr rfl rfl
  · exact h.trans (.answer ..)
  · exact (h.trans (steady_release _)).trans (.answer ..)

theorem steady_joined (s : Session) (t call : Nat) : Steady s (s.joined t call) :=
  (steady_release s).trans (.answer ..)

theorem steady_concludeSend (s : Session) (t : Nat) (origin : Origin) (r : Except ClientError UInt32) :
    Steady s (s.concludeSend t origin r) :=
  (Steady.erase s t).congr (concludeSend_core ..) (dialled_concludeSend ..)

theorem steady_beginSend (s : Session) (t : Nat) (origin : Origin) (kind : PacketKind) (payload : Bytes) :
    Steady s (s.beginSend t origin kind payload) := by
  unfold beginSend
  split
  · exact .put s t (.inl rfl)
  · exact steady_concludeSend ..

theorem steady_beginWrite (s : Session) (m : Moment) (t : Nat) (origin : Origin) (kind : PacketKind)
    (payload : Bytes) : Steady s (s.beginWrite m t origin kind payload) := by
  unfold beginWrite
  split
  · exact steady_concludeSend ..
  · have h : Steady s { s with sequence := s.sequence + 1 } := .of_core rfl rfl
    simp only
    split
    · exact h.trans (steady_concludeSend ..)
    · exact h.trans (.put _ t (.inl rfl))

theorem steady_receive (s : Session) (m : Moment) (g : Nat) (message : Bytes) :
    Steady s (s.receive m g message) := by
  unfold receive
  split
  · exact .of_core rfl rfl
  · split
    · exact .of_core rfl rfl
    · rename_i p _
      have h : Steady s { s with metrics := s.metrics.record p m.wall m.mono } := .of_core rfl rfl
      unfold packet
      cases p.kind with
      | video | audio =>
        have h' : Steady s { s with
          metrics := s.metrics.record p m.wall m.mono, pipeline := (s.pipeline.submit p).1 } := .of_core rfl rfl
        simp only [media]
        split
        · exact .of_core rfl rfl
        · exact h'.trans (.transition ..)
      | keepAlive => exact h.trans (.spawn _ rfl)
      | control | auth | input => exact .of_core rfl rfl

/-- With an attempt of the present generation there is something under way. -/
theorem not_bare_of_attempt (h : s.task? t = some task) (ha : task.isAttempt s.generation) : ¬ Bare s :=
  fun hb => Nat.ne_of_gt (count_pos_of_mem (task?_mem h) ha) hb.attempts

/-- The receive loop of a new link is no timer, and the attempt ends or turns into a send. -/
theorem timers_install (hs : s.state.isAttempting) (hg : l.generation = s.generation) (call : Option Nat)
    {x : Nat × Task} (hx : x ∈ (s.install t call l).tasks) (ht : x.2.isTimer) : x ∈ s.tasks := by
  have hlinked : x ∈ (s.linked l).tasks := by
    rcases install_core (t := t) call hs hg with ⟨payload, he⟩ | hc
    · rw [he] at hx
      exact (Steady.put (s.linked l) t (.inl rfl)).timers x hx ht
    · rw [show (s.install t call l).tasks = _ from congrArg Core.tasks hc] at hx
      exact (mem_erase.1 hx).1
  rcases mem_spawn.1 hlinked with hx | rfl
  · exact hx
  · cases ht

theorem steady_dialDone (hi : Inv s) {call : Option Nat} {g : Nat} {peer : Peer}
    (h : s.task? t = some (.dial call g peer)) (result : Except TransportError Unit) :
    Steady s (s.dialDone t call g result) := by
  by_cases hg : s.generation = g
  · subst hg
    have ha : (Task.dial call s.generation peer).isAttempt s.generation := by simp
    refine ⟨?_, dialled_dialDone .., fun hb => absurd hb (not_bare_of_attempt h ha)⟩
    cases result with
    | error e =>
      have hs : Steady s ((s.failAttempt s.generation e.message).erase t) :=
        (Steady.transition ..).trans (.erase ..)
      cases call <;> exact hs.timers
    | ok _ =>
      let s₁ := { s with links := s.links + 1, metrics := s.metrics.newLink }
      have hs : s₁.state.isAttempting := (hi.attempts_of_task h ha).1
      simp only [dialDone, if_true]
      intro x hx ht
      exact timers_install (s := s₁) hs rfl call hx ht
  · exact (Steady.erase s t).congr (dialDone_core_of_stale hg t call result) (dialled_dialDone ..)

/-- After the present call of the connector has failed nothing is under way. -/
theorem bare_of_failed (hi : Inv s) {call : Option Nat} {peer : Peer}
    (h : s.task? t = some (.dial call s.generation peer)) (e : TransportError) :
    Bare (s.dialDone t call s.generation (.error e)) := by
  have ha := hi.attempts_of_task h (by simp)
  have hb : Bare ((s.erase t).failAttempt s.generation e.message) :=
    (Steady.transition ..).bare (hi.erase_attempt ha)
  refine hb.of_core ?_
  cases call <;> simp only [dialDone, failAttempt, transition, answer, Session.erase] <;> split <;> rfl

/-! ## The connector is called -/

/-- What dials is a timer no more. -/
theorem timers_dial {call : Option Nat} {g : Nat} {peer : Peer} {x : Nat × Task}
    (hx : x ∈ (s.dial t call g peer).tasks) (ht : x.2.isTimer) : x ∈ s.tasks ∧ x.1 ≠ t := by
  have htasks {s' : Session} (hc : (s.dial t call g peer).core = s'.core) : x ∈ s'.tasks := by
    rwa [show (s.dial t call g peer).tasks = _ from congrArg Core.tasks hc] at hx
  rcases dial_core s t call g peer with hc | hc
  · have hput := htasks hc
    have hne : x.1 ≠ t := by
      intro he
      rw [eq_of_mem_put hput he] at ht
      cases ht
    rcases mem_put hput with hx | rfl
    · exact ⟨hx, hne⟩
    · exact absurd rfl hne
  · obtain ⟨hx, hne⟩ := mem_erase.1 (htasks hc)
    exact ⟨(Steady.transition ..).timers x hx ht, hne⟩

theorem Dials.length (h : Dials s s') : ∃ n ≤ 1, s'.dialled.length = s.dialled.length + n := by
  cases h with
  | none h => exact ⟨0, Nat.zero_le _, by rw [h]; rfl⟩
  | once peer _ h => exact ⟨1, Nat.le_refl _, by rw [h, List.length_append]; rfl⟩

/-- An accepted connect begins no timer. -/
theorem Accepts.timers {call : Nat} {peer : Peer} (h : Accepts s t call peer) (hi : Inv s) (m : Moment) :
    ∀ x ∈ (s.step m (.run t)).tasks, x.2.isTimer → x ∈ s.tasks := by
  intro x hx ht
  rw [h.step hi m] at hx
  exact (timers_dial hx ht).1

/-- When its interval has passed the connector is called for the reconnect, or nothing begins. -/
theorem intervalOver_cases (s : Session) {g : Nat} (h : s.task? t = some (.timer g)) :
    Steady s (s.intervalOver t g) ∨
      g = s.generation ∧ (s.intervalOver t g).dialled.length = s.dialled.length + 1 ∧
        ∀ x ∈ (s.intervalOver t g).tasks, x.2.isTimer → x ∈ s.tasks ∧ x.1 ≠ t := by
  by_cases hg : s.generation = g
  · subst hg
    have timers : ∀ x ∈ (s.intervalOver t s.generation).tasks, x.2.isTimer → x ∈ s.tasks ∧ x.1 ≠ t := by
      intro x hx ht
      rw [intervalOver, if_pos rfl] at hx
      split at hx
      · exact mem_erase.1 hx
      · let s₁ := { s with stats := { s.stats with reconnectAttempts := s.stats.reconnectAttempts + 1 } }
        exact timers_dial (s := s₁) hx ht
    cases dials_intervalOver s t s.generation with
    | none hd =>
      have ha : (Task.timer s.generation).isAttempt s.generation := by simp
      exact .inl ⟨fun x hx ht => (timers x hx ht).1, hd, fun hb => absurd hb (not_bare_of_attempt h ha)⟩
    | once peer _ hd => exact .inr ⟨rfl, by rw [hd, List.length_append]; rfl, timers⟩
  · rw [intervalOver, if_neg hg]
    exact .inl (.erase s t)

/-! ## The installed link is lost -/

/-- The installed link is lost, and a timer begins if reconnecting is configured. -/
structure Lost (s s' : Session) (l : Link) : Prop where
  installed : s.link = some l
  gone : s'.link = none
  generation : s.generation < s'.generation
  dialled : s'.dialled = s.dialled
  timers : ∀ x ∈ s'.tasks, x.2.isTimer → x ∈ s.tasks ∨ x.1 = s.spawned + 1 ∧ s.config.autoReconnect = true

/-- What a failure comes to that is reported of a link: the installed link is lost, or nothing is. -/
inductive Report (s s' : Session) : Prop where
  | ignored (h : Steady s s') (hl : s'.link = s.link)
  | lost (l : Link) (h : Lost s s' l)

theorem lost_lose (hl : s.link = some l) (reason : String) (loss : Loss) :
    Lost s (s.lose l.generation reason loss) l := by
  have hc := lose_core hl reason loss
  have hg : (s.bereft l).generation = s.generation + 1 := generation_letGo s
  have hb : Steady s (s.bereft l) := (Steady.letGo s).trans (.spawn _ rfl)
  have hn : (s.bereft l).spawned = s.spawned + 1 := by
    simp [bereft, Session.letGo, hl, supersede, cancel, Session.spawn]
  have hlink : (s.bereft l).link = none := by
    simp [bereft, Session.letGo, hl, supersede, cancel, Session.spawn]
  refine ⟨hl, ?_, ?_, dialled_lose .., ?_⟩
  · refine (congrArg Core.link hc).trans ?_
    split <;> exact hlink
  · rw [show (s.lose l.generation reason loss).generation = _ from congrArg Core.generation hc]
    split <;> exact Nat.lt_of_lt_of_eq (Nat.lt_succ_self _) hg.symm
  · intro x hx ht
    rw [show (s.lose l.generation reason loss).tasks = _ from congrArg Core.tasks hc] at hx
    split at hx
    · rename_i hr
      rcases mem_spawn.1 hx with hx | rfl
      · exact .inl (hb.timers x hx ht)
      · exact .inr ⟨hn, hr⟩
    · exact .inl (hb.timers x hx ht)

theorem report_lose (s : Session) (g : Nat) (reason : String) (loss : Loss) : Report s (s.lose g reason loss) := by
  by_cases hg : ∀ l, s.link = some l → l.generation ≠ g
  · rw [lose_other hg]
    exact .ignored (.refl s) rfl
  · push Not at hg
    obtain ⟨l, hl, rfl⟩ := hg
    exact .lost l (lost_lose hl reason loss)

/-- A change before the report that leaves link, numbers and configuration alone. -/
theorem Report.before (h : Report s₁ s') (hs : Steady s s₁) (hl : s₁.link = s.link)
    (hg : s₁.generation = s.generation) (hn : s₁.spawned = s.spawned) (hc : s₁.config = s.config) : Report s s' := by
  cases h with
  | ignored h hl' => exact .ignored (hs.trans h) (hl'.trans hl)
  | lost l h =>
    refine .lost l ⟨hl ▸ h.installed, h.gone, hg ▸ h.generation, h.dialled.trans hs.dialled, ?_⟩
    intro x hx ht
    rw [← hn, ← hc]
    exact (h.timers x hx ht).imp_left fun hx => hs.timers x hx ht

/-- A change after the report that leaves link and generation alone. -/
theorem Report.after (h : Report s s₁) (hs : Steady s₁ s') (hl : s'.link = s₁.link)
    (hg : s'.generation = s₁.generation) : Report s s' := by
  cases h with
  | ignored h hl' => exact .ignored (h.trans hs) (hl.trans hl')
  | lost l h =>
    refine .lost l ⟨h.installed, hl.trans h.gone, hg ▸ h.generation, hs.dialled.trans h.dialled, ?_⟩
    intro x hx ht
    exact h.timers x (hs.timers x hx ht) ht

theorem report_linkEnded (s : Session) (t g : Nat) (reason : String) : Report s (s.linkEnded t g reason) :=
  (report_lose (s.erase t) g reason .io).before (.erase s t) rfl rfl rfl rfl

theorem report_countFailure (s : Session) (g : Nat) : Report s (s.countFailure g) := by
  have h {n : Nat} : Steady s { s with failures := n } := .of_core rfl rfl
  unfold countFailure
  simp only
  split
  · exact (report_lose { s with failures := 0 } ..).before h rfl rfl rfl rfl
  · exact .ignored h rfl

theorem report_writeDone (s : Session) (t : Nat) (origin : Origin) (l : Link) (n : UInt32) (message : Bytes)
    (result : Except TransportError Unit) : Report s (s.writeDone t origin l n message result) := by
  have link (s : Session) (r : Except ClientError UInt32) : (s.concludeSend t origin r).link = s.link :=
    congrArg Standing.link (standing_concludeSend ..)
  unfold writeDone
  cases result with
  | ok _ =>
    have h : Steady s { s with
      failures := 0
      stats := { s.stats with packetsSent := s.stats.packetsSent + 1 }
      written := s.written ++ [(l.number, message)] } := .of_core rfl rfl
    exact .ignored (h.trans (steady_concludeSend ..)) (link ..)
  | error e =>
    let s₁ := { s with stats := { s.stats with sendFailures := s.stats.sendFailures + 1 } }
    have h : Steady s s₁ := .of_core rfl rfl
    simp only
    split
    · have hr := (report_countFailure s₁ l.generation).before h rfl rfl rfl rfl
      exact hr.after (steady_concludeSend ..) (link ..) (generation_concludeSend ..)
    · exact .ignored (h.trans (steady_concludeSend ..)) (link ..)

end Session
end DeskStream
