import DeskStream.Proofs.Session.Operations
/-!
# State, link and attempts agree

After any run of a held session, outside a disconnect, the state says exactly what there is
(`coherent_run`), and an attempt that there is leads on (`Inv.leads`).
-/

namespace DeskStream.Session

variable {s s' : Session} {t : Nat}

/-- An attempt that can be completed: the connector's answer ends the attempting, and an interval that
passes leads to a connector call unless it does so too. -/
inductive Leads (s : Session) (t : Nat) : Prop where
  | dial (call : Option Nat) (peer : Peer) (h : s.task? t = some (.dial call s.generation peer))
      (answered : ∀ m result, (s.step m (.dialDone t result)).state.isAttempting = false)
  | timer (h : s.task? t = some (.timer s.generation))
      (elapsed : ∀ m, (s.step m (.intervalOver t)).state.isAttempting →
        ∃ peer, (s.step m (.intervalOver t)).task? t = some (.dial none s.generation peer))

/-- State, installed link and attempts agree. -/
structure Coherent (s : Session) : Prop where
  link : s.link.isSome ↔ s.state.isConnected
  current : ∀ l, s.link = some l → l.generation = s.generation
  attempting : s.state.isAttempting → s.attempts = 1 ∧ ∃ t, Leads s t
  idle : s.state.canConnect → s.attempts = 0

theorem state_dialDone (ha : Attempts s t) (call : Option Nat) (result : Except TransportError Unit) :
    (s.dialDone t call s.generation result).state.isAttempting = false := by
  cases result with
  | error e =>
    have : (s.dialDone t call s.generation (.error e)).state = (s.failAttempt s.generation e.message).state := by
      cases call <;> rfl
    rw [this, failAttempt_state ha.1]; rfl
  | ok _ =>
    let s' := { s with links := s.links + 1, metrics := s.metrics.newLink }
    have hst : (s'.install t call ⟨s.links, s.generation⟩).state = .connected := by
      rcases install_core (s := s') (t := t) call (l := ⟨s.links, s.generation⟩) ha.1 rfl with
        ⟨payload, he⟩ | hc
      · rw [he]; rfl
      · exact congrArg Core.state hc
    simp only [dialDone, if_true]
    rw [hst]; rfl

theorem task?_intervalOver (hi : Inv s) (ha : Attempts s t)
    (hs : (s.intervalOver t s.generation).state.isAttempting) :
    ∃ peer, (s.intervalOver t s.generation).task? t = some (.dial none s.generation peer) := by
  obtain ⟨peer, hp⟩ := Option.isSome_iff_exists.1 ha.2.1
  let s' := { s with stats := { s.stats with reconnectAttempts := s.stats.reconnectAttempts + 1 } }
  have he : s.intervalOver t s.generation = s'.dial t none s'.generation peer := by simp [intervalOver, hp, s']
  rw [he] at hs ⊢
  rcases dial_core s' t none s'.generation peer with hc | hc
  · obtain ⟨-, -, -, old, h, -⟩ := ha
    refine ⟨peer, ?_⟩
    have ht : (s'.dial t none s'.generation peer).tasks = _ := congrArg Core.tasks hc
    rw [task?, ht]
    exact (hi.numbered.put t _).task?_of_mem (mem_put_self h _)
  · have hst : (s'.dial t none s'.generation peer).state = _ := congrArg Core.state hc
    change _ = (s'.failAttempt s'.generation _).state at hst
    rw [hst, failAttempt_state (s := s') ha.1] at hs
    exact absurd hs (by simp [ConnectionState.isAttempting])

/-- A connection attempt of the present generation leads on. -/
theorem Inv.leads (hi : Inv s) (h : 0 < s.attempts) : ∃ t, Leads s t := by
  obtain ⟨⟨t, task⟩, hx, hg⟩ := List.countP_pos_iff.1 h
  have ht := hi.numbered.task?_of_mem hx
  have ha := hi.attempts_of_task ht hg
  refine ⟨t, ?_⟩
  cases task <;> simp only [Task.isAttempt, Task.attempt?, reduceCtorEq, decide_false, Bool.false_eq_true,
    Option.some.injEq, decide_eq_true_eq] at hg <;> subst hg
  · exact .dial _ _ ht fun m result => by
      simpa only [step, ht] using state_dialDone ha _ result
  · exact .timer ht fun m hs => by
      simp only [step, ht] at hs ⊢
      exact task?_intervalOver hi ha hs

theorem Inv.coherent (hi : Inv s) (he : Engaged s) (hj : s.isLeaving = false) : Coherent s where
  link := by
    refine ⟨?_, (he hj).1⟩
    intro h
    obtain ⟨l, hl⟩ := Option.isSome_iff_exists.1 h
    exact (hi.linked l hl).2.1
  current l hl := (hi.linked l hl).1
  attempting h := ⟨(hi.attempting ((he hj).2 h)).1, hi.leads ((he hj).2 h)⟩
  idle h := (hi.idle h).2

/-- After any run of a held session, unless a disconnect is under way: a link is installed exactly when
the state claims one, and it is of the present generation; a state of attempting has one attempt, which
can be completed; and a session that may connect has none. -/
theorem coherent_run (config : SessionConfig) (ring : KeyRing) (format : PcmFormat) {events : List (Moment × Event)}
    (hold : ∀ x ∈ events, x.2 ≠ .letGo) (hj : ((ofConfig config ring format).run events).isLeaving = false) :
    Coherent ((ofConfig config ring format).run events) := by
  have hb := bare_ofConfig config ring format
  obtain ⟨hi, he⟩ := kept_run hb.inv (engaged_of_canConnect rfl) hold
  exact hi.coherent he hj

/-- A link that has come up and is lost again. -/
def dropout : List (Moment × Event) :=
  atOnce [.callConnect 0 (.manual "desk" "desk.local" 9000), .run 0, .dialDone 0 (.ok ()), .linkEnded 1 "reset"]

/-- The reconnect is the one attempt. -/
theorem coherent_run_dropout : (plain.run dropout).state = .reconnecting ∧ Coherent (plain.run dropout) :=
  ⟨rfl, coherent_run _ _ _ (by simp [dropout, atOnce]) rfl⟩

end DeskStream.Session
