import DeskStream.Proofs.Session.Timers
/-!
# Marks of calls of the connector

What a step has to do with calls of the connector is written down as marks (`dialMarks`): that a connect is accepted,
that a call is made and for whom, that one fails, and that a link is lost. There are five ways that a step can go
(`course_step`), and no step is looked at again after that.
-/

namespace DeskStream

/-- What has to do with calls of the connector. -/
inductive DialMark where
  /-- A connect call is accepted. -/
  | accepted
  /-- The connector is called for a connect call. -/
  | called
  /-- A call of the connector fails while its attempt is the present one. -/
  | failed
  /-- The installed link is lost at an instant, and a timer begins if a reconnect is due. -/
  | lost (l : Link) (instant : Nat) (timer : Option Nat)
  /-- The connector is called at an instant for a reconnect, whose timer has run out. -/
  | redialled (timer instant : Nat)
  deriving Repr, DecidableEq

namespace DialMark

/-- A call of the connector. -/
def isDial : DialMark → Bool
  | called | redialled .. => true
  | _ => false

def lost? : DialMark → Option Link
  | lost l .. => some l
  | _ => none

/-- The timer that begins with a loss. -/
def begun? : DialMark → Option Nat
  | lost _ _ timer => timer
  | _ => none

def redialled? : DialMark → Option Nat
  | redialled timer _ => some timer
  | _ => none

/-- The links lost, in order. -/
def losses (log : List DialMark) : List Link := log.filterMap lost?

def begun (log : List DialMark) : List Nat := log.filterMap begun?

/-- The timers that led to a call of the connector. -/
def redials (log : List DialMark) : List Nat := log.filterMap redialled?

@[simp] theorem losses_append (log more : List DialMark) : losses (log ++ more) = losses log ++ losses more :=
  List.filterMap_append

@[simp] theorem begun_append (log more : List DialMark) : begun (log ++ more) = begun log ++ begun more :=
  List.filterMap_append

@[simp] theorem redials_append (log more : List DialMark) : redials (log ++ more) = redials log ++ redials more :=
  List.filterMap_append

theorem mem_begun {log : List DialMark} {l : Link} {instant t : Nat} (h : .lost l instant (some t) ∈ log) :
    t ∈ begun log :=
  List.mem_filterMap.2 ⟨_, h, rfl⟩

end DialMark

namespace Session

open DialMark

variable {s s' start : Session} {t instant : Nat} {l : Link} {m : Moment} {e : Event} {marks : List DialMark}
  {events : List (Moment × Event)}

/-! ## The log of a run -/

/-- The call of the connector in this step fails, and its attempt is the present one. -/
def failureMarks (s : Session) : Event → List DialMark
  | .dialDone t (.error _) =>
    match s.task? t with
    | some (.dial _ g _) => if s.generation = g then [.failed] else []
    | _ => []
  | _ => []

/-- The first timer there is that was not there before. -/
def newTimer? (s s' : Session) : Option Nat :=
  (s'.tasks.find? fun x => decide (s.spawned ≤ x.1) && x.2.isTimer).map (·.1)

/-- A receive loop tells how its link ended, or a write how it went. -/
def Event.isReport : Event → Bool
  | .linkEnded .. | .writeDone .. => true
  | _ => false

/-- The installed link is gone after a report. -/
def lossMarks (s : Session) (m : Moment) (e : Event) : List DialMark :=
  let s' := s.step m e
  match e.isReport, s.link, s'.link with
  | true, some l, none => [.lost l m.mono (s.newTimer? s')]
  | _, _, _ => []

/-- What a call of the connector in this step is for. -/
def dialMark (m : Moment) : Event → DialMark
  | .intervalOver t => .redialled t m.mono
  | _ => .called

/-- What a step has to do with calls of the connector, in order. -/
def dialMarks (s : Session) (m : Moment) (e : Event) : List DialMark :=
  (if s.admits e then [.accepted] else []) ++ s.failureMarks e ++ s.lossMarks m e ++
    List.replicate ((s.step m e).dialled.length - s.dialled.length) (dialMark m e)

def dialLog (s : Session) : List (Moment × Event) → List DialMark
  | [] => []
  | (m, e) :: events => s.dialMarks m e ++ (s.step m e).dialLog events

theorem dialLog_append (s : Session) (events more : List (Moment × Event)) :
    s.dialLog (events ++ more) = s.dialLog events ++ (s.run events).dialLog more := by
  induction events generalizing s with
  | nil => rfl
  | cons x events ih => simp [dialLog, ih, run]

theorem dialLog_concat (s : Session) (events : List (Moment × Event)) (m : Moment) (e : Event) :
    s.dialLog (events ++ [(m, e)]) = s.dialLog events ++ (s.run events).dialMarks m e := by
  simp [dialLog_append, dialLog]

/-- A mark in the log of a run is one of a step. -/
theorem dialLog_split {pre post : List DialMark} {μ : DialMark} (h : start.dialLog events = pre ++ μ :: post) :
    ∃ before m e after a b, events = before ++ (m, e) :: after ∧
      (start.run before).dialMarks m e = a ++ μ :: b ∧ pre = start.dialLog before ++ a ∧
      post = b ++ ((start.run before).step m e).dialLog after := by
  induction events generalizing start pre with
  | nil => simp [dialLog] at h
  | cons x events ih =>
    -- Either the mark is of this step, or of one to come.
    have later {c : List DialMark} (hp : pre = start.dialMarks x.1 x.2 ++ c)
        (hc : (start.step x.1 x.2).dialLog events = c ++ μ :: post) : ∃ before m e after a b,
          x :: events = before ++ (m, e) :: after ∧ (start.run before).dialMarks m e = a ++ μ :: b ∧
            pre = start.dialLog before ++ a ∧ post = b ++ ((start.run before).step m e).dialLog after := by
      obtain ⟨before, m, e, after, a, b, rfl, hm, rfl, hpost⟩ := ih hc
      exact ⟨x :: before, m, e, after, a, b, rfl, hm, by rw [hp, dialLog, List.append_assoc], hpost⟩
    rcases List.append_eq_append_iff.1 h with ⟨c, hp, hc⟩ | ⟨c, hm, hc⟩
    · exact later hp hc
    · cases c with
      | nil => exact later (c := []) (by rw [hm]; simp) hc.symm
      | cons ν c =>
        rw [List.cons_append, List.cons.injEq] at hc
        obtain ⟨rfl, hpost⟩ := hc
        exact ⟨[], x.1, x.2, events, pre, c, rfl, hm, rfl, hpost⟩

/-! ## What a step comes to -/

/-- What a step comes to, with its marks. -/
inductive Course (s : Session) (m : Moment) (s' : Session) : Event → List DialMark → Prop where
  | steady {e : Event} (h : Steady s s') : Course s m s' e []
  /-- A connect is accepted, and the connector is called unless keys are missing. -/
  | accepted {e : Event} (n : Nat) (hn : n ≤ 1) (timers : ∀ x ∈ s'.tasks, x.2.isTimer → x ∈ s.tasks)
    (dialled : s'.dialled.length = s.dialled.length + n) : Course s m s' e (.accepted :: List.replicate n .called)
  | failed {e : Event} (h : Steady s s') (bare : Bare s') : Course s m s' e [.failed]
  | lost {e : Event} (l : Link) (h : Lost s s' l) : Course s m s' e [.lost l m.mono (s.newTimer? s')]
  | redialled (t : Nat) (h : s.task? t = some (.timer s.generation))
    (timers : ∀ x ∈ s'.tasks, x.2.isTimer → x ∈ s.tasks ∧ x.1 ≠ t)
    (dialled : s'.dialled.length = s.dialled.length + 1) : Course s m s' (.intervalOver t) [.redialled t m.mono]

theorem lossMarks_of_link (h : (s.step m e).link = s.link) : s.lossMarks m e = [] := by
  unfold lossMarks
  simp only [h]
  cases s.link <;> cases e.isReport <;> rfl

theorem Course.of_steady (h : Steady s (s.step m e)) (ha : s.admits e = false) (hf : s.failureMarks e = [])
    (hl : s.lossMarks m e = []) : Course s m (s.step m e) e (s.dialMarks m e) := by
  have hm : s.dialMarks m e = [] := by simp [dialMarks, ha, hf, hl, h.dialled]
  rw [hm]
  exact .steady h

/-- A step that is not due. -/
theorem Course.rest (h : s.step m e = s) (ha : s.admits e = false) (hf : s.failureMarks e = []) :
    Course s m (s.step m e) e (s.dialMarks m e) := by
  refine .of_steady (by rw [h]; exact .refl s) ha hf (lossMarks_of_link ?_)
  rw [h]

theorem course_connect (hi : Inv s) (m : Moment) {call : Nat} {peer : Peer}
    (h : s.task? t = some (.connect call peer)) (hj : s.isLeaving = false) :
    Course s m (s.step m (.run t)) (.run t) (s.dialMarks m (.run t)) := by
  have hstep : s.step m (.run t) = s.connect t call peer := by simp [step, h, resume, hj]
  by_cases hs : s.state.canConnect
  · have ha : s.admits (.run t) = true := by simp [admits, h, hj, hs]
    obtain ⟨n, hn, hd⟩ := (dials_step s m (.run t)).length
    have hm : s.dialMarks m (.run t) = .accepted :: List.replicate n .called := by
      simp [dialMarks, ha, failureMarks, lossMarks, Event.isReport, dialMark, hd]
    rw [hm]
    exact .accepted n hn (Accepts.timers ⟨h, hj, hs⟩ hi m) hd
  · refine .of_steady ?_ (by simp [admits, h, hs]) rfl rfl
    rw [hstep]
    simp only [connect, hs]
    exact .answer ..

theorem course_run (hi : Inv s) (m : Moment) (t : Nat) :
    Course s m (s.step m (.run t)) (.run t) (s.dialMarks m (.run t)) := by
  by_cases hc : ∃ call peer, s.task? t = some (.connect call peer) ∧ s.isLeaving = false
  · obtain ⟨call, peer, h, hj⟩ := hc
    exact course_connect hi m h hj
  · have ha : s.admits (.run t) = false := by
      rw [admits_eq_false]
      rintro t call peer ⟨⟩ ha
      exact hc ⟨call, peer, ha.task, ha.turn⟩
    refine .of_steady ?_ ha rfl rfl
    have hm := move_step s m (.run t)
    generalize s.step m (.run t) = s' at hm ⊢
    cases hm with
    | rest => exact .refl s
    | call task hp => exact .spawn s hp
    | connect _ call peer h hj => exact absurd ⟨call, peer, h, hj⟩ hc
    | disconnect => exact steady_disconnect ..
    | joined => exact steady_joined ..
    | beginSend => exact steady_beginSend ..
    | beginWrite => exact steady_beginWrite ..
    | close => exact (Steady.erase s t).congr rfl rfl
    | unlisten => exact .erase s t

theorem course_dialDone (hi : Inv s) (m : Moment) (t : Nat) (result : Except TransportError Unit) :
    Course s m (s.step m (.dialDone t result)) (.dialDone t result) (s.dialMarks m (.dialDone t result)) := by
  by_cases hd : ∃ call g peer, s.task? t = some (.dial call g peer)
  · obtain ⟨call, g, peer, h⟩ := hd
    have hstep : s.step m (.dialDone t result) = s.dialDone t call g result := by simp only [step, h]
    have hs : Steady s (s.step m (.dialDone t result)) := hstep ▸ steady_dialDone hi h result
    by_cases hf : s.failureMarks (.dialDone t result) = []
    · exact .of_steady hs rfl hf rfl
    · cases result with
      | ok _ => exact absurd rfl hf
      | error why =>
        simp only [failureMarks, h, ite_eq_right_iff, reduceCtorEq, imp_false, Decidable.not_not] at hf
        subst hf
        have hm : s.dialMarks m (.dialDone t (.error why)) = [.failed] := by
          simp [dialMarks, admits, failureMarks, h, lossMarks, Event.isReport, hs.dialled]
        rw [hm]
        exact .failed hs (hstep ▸ bare_of_failed hi h why)
  · refine .rest (step_dialDone_idle hd ..) rfl ?_
    unfold failureMarks
    cases result with
    | ok _ => rfl
    | error why =>
      simp only
      split
      · exact absurd ⟨_, _, _, ‹_›⟩ hd
      · rfl

theorem course_intervalOver (s : Session) (m : Moment) (t : Nat) :
    Course s m (s.step m (.intervalOver t)) (.intervalOver t) (s.dialMarks m (.intervalOver t)) := by
  by_cases hd : ∃ g, s.task? t = some (.timer g)
  · obtain ⟨g, h⟩ := hd
    have hcases := s.intervalOver_cases h
    have hstep : s.step m (.intervalOver t) = s.intervalOver t g := by simp only [step, h]
    rw [← hstep] at hcases
    rcases hcases with hs | ⟨rfl, hd, timers⟩
    · exact .of_steady hs rfl rfl rfl
    · have hm : s.dialMarks m (.intervalOver t) = [.redialled t m.mono] := by
        simp [dialMarks, admits, failureMarks, lossMarks, Event.isReport, dialMark, hd]
      rw [hm]
      exact .redialled t h timers hd
  · exact .rest (step_intervalOver_idle hd m) rfl rfl

theorem Course.of_report (he : e.isReport) (h : Report s (s.step m e)) :
    Course s m (s.step m e) e (s.dialMarks m e) := by
  have ha : s.admits e = false := by
    cases e <;> first | rfl | cases he
  have hf : s.failureMarks e = [] := by
    cases e <;> first | rfl | cases he
  cases h with
  | ignored h hl => exact .of_steady h ha hf (lossMarks_of_link hl)
  | lost l h =>
    have hl : s.lossMarks m e = [.lost l m.mono (s.newTimer? (s.step m e))] := by
      simp only [lossMarks, he, h.installed, h.gone]
    have hm : s.dialMarks m e = [.lost l m.mono (s.newTimer? (s.step m e))] := by
      simp [dialMarks, ha, hf, hl, h.dialled]
    rw [hm]
    exact .lost l h

theorem course_step (hi : Inv s) (m : Moment) (e : Event) : Course s m (s.step m e) e (s.dialMarks m e) := by
  cases e with
  | run t => exact course_run hi m t
  | dialDone t result => exact course_dialDone hi m t result
  | intervalOver t => exact course_intervalOver s m t
  | writeDone t result =>
    refine .of_report rfl ?_
    simp only [step]
    split
    · exact report_writeDone ..
    · exact .ignored (.refl s) rfl
  | linkEnded t reason =>
    refine .of_report rfl ?_
    simp only [step]
    split
    · exact report_linkEnded ..
    · exact .ignored (.refl s) rfl
  | receive t message =>
    refine .of_steady ?_ rfl rfl rfl
    simp only [step]
    split
    · exact steady_receive ..
    · exact .refl s
  | callConnect | callDisconnect | callSend => exact .of_steady (.spawn s rfl) rfl rfl rfl
  | letGo => exact .of_steady (.letGo s) rfl rfl rfl
  | tick | work | pop | setVolume | authenticate | logout | free => exact .of_steady (.of_core rfl rfl) rfl rfl rfl

/-! ## What the marks of a step say -/

theorem Course.dialled (h : Course s m s' e marks) :
    s'.dialled.length = s.dialled.length + marks.countP isDial := by
  cases h with
  | steady h => simp [h.dialled]
  | accepted n _ _ hd => simp [hd, isDial, List.countP_replicate]
  | failed h => simp [h.dialled, isDial]
  | lost l h => simp [h.dialled, isDial]
  | redialled t _ _ hd => simp [hd, isDial]

/-- Only with an accepted connect is the connector called for one. -/
theorem Course.called (h : Course s m s' e marks) : marks.count .called ≤ marks.count .accepted := by
  cases h with
  | accepted n hn => simpa [List.count_cons, List.count_replicate] using hn
  | steady | failed | lost | redialled => simp

theorem Course.losses (h : Course s m s' e marks) :
    losses marks = [] ∨ ∃ l, losses marks = [l] ∧ s.link = some l ∧ s.generation < s'.generation := by
  cases h with
  | lost l h => exact .inr ⟨l, rfl, h.installed, h.generation⟩
  | accepted n => simp [DialMark.losses, lost?]
  | steady | failed | redialled => exact .inl rfl

theorem Course.redials (h : Course s m s' e marks) :
    redials marks = [] ∨ ∃ t, redials marks = [t] ∧ (t, .timer s.generation) ∈ s.tasks := by
  cases h with
  | redialled t h => exact .inr ⟨t, rfl, task?_mem h⟩
  | accepted n => simp [DialMark.redials, redialled?]
  | steady | failed | lost => exact .inl rfl

theorem Lost.newTimer?_eq (h : Lost s s' l) (hn : s.Numbered) {x : Nat × Task} (hx : x ∈ s'.tasks)
    (ht : x.2.isTimer) (hf : ∀ y ∈ s.tasks, y.1 ≠ x.1) : s.newTimer? s' = some x.1 := by
  have hnew {y : Nat × Task} (hy : y ∈ s'.tasks) (hty : y.2.isTimer) (hlt : s.spawned ≤ y.1) :
      y.1 = s.spawned + 1 := by
    rcases h.timers y hy hty with hy | hy
    · have := hn.lt y hy
      omega
    · exact hy.1
  have hx1 : x.1 = s.spawned + 1 := by
    rcases h.timers x hx ht with hx | hx
    · exact absurd rfl (hf x hx)
    · exact hx.1
  have hsome : (s'.tasks.find? fun x => decide (s.spawned ≤ x.1) && x.2.isTimer).isSome := by
    rw [List.find?_isSome]
    exact ⟨x, hx, by simp [ht, hx1]⟩
  obtain ⟨y, hy⟩ := Option.isSome_iff_exists.1 hsome
  have hp := List.find?_some hy
  simp only [Bool.and_eq_true, decide_eq_true_eq] at hp
  rw [newTimer?, hy, Option.map_some, hnew (List.mem_of_find?_eq_some hy) hp.2 hp.1, hx1]

/-- What begins with a loss is new, and reconnecting is configured. -/
theorem Course.begun (h : Course s m s' e marks) (hn : s.Numbered) (hn' : s'.Numbered) (ht : t ∈ begun marks) :
    s.spawned ≤ t ∧ t < s'.spawned ∧ s.config.autoReconnect = true := by
  cases h with
  | lost l h =>
    have hb : s.newTimer? s' = some t := by simpa [DialMark.begun, begun?] using ht
    obtain ⟨x, hx, rfl⟩ := Option.map_eq_some_iff.1 hb
    have hp := List.find?_some hx
    have hm := List.mem_of_find?_eq_some hx
    simp only [Bool.and_eq_true, decide_eq_true_eq] at hp
    refine ⟨hp.1, hn'.lt x hm, ?_⟩
    rcases h.timers x hm hp.2 with hold | hnew
    · have := hn.lt x hold
      omega
    · exact hnew.2
  | accepted n => simp [DialMark.begun, begun?] at ht
  | steady | failed | redialled => simp [DialMark.begun, begun?] at ht

/-- A timer was there before or begins with a loss, and it is none that leads to a call. -/
theorem Course.timers (h : Course s m s' e marks) (hn : s.Numbered) {x : Nat × Task} (hx : x ∈ s'.tasks)
    (ht : x.2.isTimer) : x.1 ∉ DialMark.redials marks ∧
      (x ∈ s.tasks ∨ (∃ l, .lost l m.mono (some x.1) ∈ marks) ∧ ∀ y ∈ s.tasks, y.1 ≠ x.1) := by
  cases h with
  | steady h => exact ⟨List.not_mem_nil, .inl (h.timers x hx ht)⟩
  | accepted n _ timers => exact ⟨by simp [DialMark.redials, redialled?], .inl (timers x hx ht)⟩
  | failed h => exact ⟨List.not_mem_nil, .inl (h.timers x hx ht)⟩
  | lost l h =>
    refine ⟨List.not_mem_nil, ?_⟩
    rcases h.timers x hx ht with hold | ⟨hx1, -⟩
    · exact .inl hold
    · right
      have hf : ∀ y ∈ s.tasks, y.1 ≠ x.1 := by
        intro y hy
        have := hn.lt y hy
        omega
      exact ⟨⟨l, by rw [h.newTimer?_eq hn hx ht hf]; exact List.mem_singleton.2 rfl⟩, hf⟩
  | redialled t _ timers =>
    obtain ⟨hold, hne⟩ := timers x hx ht
    exact ⟨by simpa [DialMark.redials, redialled?] using hne, .inl hold⟩

/-- A call for a reconnect is made when its timer has run out, and the timer is of the present generation. -/
theorem Course.of_redialled (h : Course s m s' e marks) (hm : .redialled t instant ∈ marks) :
    e = .intervalOver t ∧ instant = m.mono ∧ s.task? t = some (.timer s.generation) := by
  cases h with
  | redialled u h =>
    cases List.mem_singleton.1 hm
    exact ⟨rfl, rfl, h⟩
  | accepted n => simp at hm
  | steady | failed | lost => simp at hm

/-- A failure is the last mark of its step, and leaves nothing under way. -/
theorem Course.of_failed {a b : List DialMark} (h : Course s m s' e marks) (hm : marks = a ++ .failed :: b) :
    b = [] ∧ Bare s' := by
  have hmem : .failed ∈ marks := by simp [hm]
  cases h with
  | failed h hb =>
    have hlen := congrArg List.length hm
    simp only [List.length_append, List.length_cons, List.length_nil] at hlen
    exact ⟨List.length_eq_zero_iff.1 (by omega), hb⟩
  | accepted n => simp at hmem
  | steady | lost | redialled => simp at hmem

/-- Where nothing is connected or under way, the connector is not called but for an accepted connect. -/
theorem Course.of_bare (h : Course s m s' e marks) (hb : Bare s) :
    (∃ rest, marks = .accepted :: rest) ∨ Bare s' ∧ ∀ μ ∈ marks, μ.isDial = false := by
  cases h with
  | steady h => exact .inr ⟨h.bare hb, by simp⟩
  | accepted n => exact .inl ⟨_, rfl⟩
  | failed h hb' => exact .inr ⟨hb', by simp [isDial]⟩
  | lost l h => cases hb.link.symm.trans h.installed
  | redialled t h => exact absurd hb (not_bare_of_attempt h (by simp))

end Session
end DeskStream
