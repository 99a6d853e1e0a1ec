import DeskStream.Proofs.Session.Period
import DeskStream.Proofs.Session.Transitions
import Mathlib.Data.List.Induction
/-!
# Links dropped for send failures

One count serves all links of a session. It is cleared when a link takes a message, when a connect is
accepted, and at the threshold, but not when a link is lost and replaced, and a write may fail on a link
that is no longer installed. So a link may be dropped for failures of others before it (`link_dropped`).
-/

namespace DeskStream

/-- What the count of send failures is told. -/
inductive Verdict where
  /-- A connect is accepted. -/
  | fresh
  /-- A link has taken a message. -/
  | taken (link : Link)
  /-- A write has failed because its link did. -/
  | failed (link : Link)
  deriving Repr, DecidableEq

namespace Verdict

variable {log : List Verdict} {l : Link}

def extend (links : List Link) : Verdict → List Link
  | .failed l => links ++ [l]
  | .fresh | .taken _ => []

/-- The links of the failures since the last success or connect, oldest first. -/
def failing (log : List Verdict) : List Link := log.foldl extend []

def prolong (l : Link) (n : Nat) : Verdict → Nat
  | .failed l' => if l' = l then n + 1 else n
  | .taken l' => if l' = l then 0 else n
  | .fresh => n

/-- The count after a verdict. -/
def counted (threshold n : Nat) : Verdict → Nat
  | .failed _ => if threshold ≤ n + 1 then 0 else n + 1
  | .fresh | .taken _ => 0

/-- The failures on a link since the last success on it. -/
def streak (l : Link) (log : List Verdict) : Nat := log.foldl (prolong l) 0

@[simp] theorem failing_concat_failed : failing (log ++ [.failed l]) = failing log ++ [l] := by
  simp [failing, extend]

@[simp] theorem failing_concat_taken : failing (log ++ [.taken l]) = [] := by
  simp [failing, extend]

@[simp] theorem failing_concat_fresh : failing (log ++ [.fresh]) = [] := by
  simp [failing, extend]

/-- A success on another link ends the run of failures, but not the streak. -/
theorem count_failing_le (l : Link) (log : List Verdict) : (failing log).count l ≤ streak l log := by
  induction log using List.reverseRecOn with
  | nil => exact Nat.le_refl _
  | append_singleton log v ih =>
    cases v with
    | fresh | taken => simp
    | failed l' =>
      rw [failing_concat_failed, List.count_append]
      have hs : streak l (log ++ [.failed l']) = prolong l (streak l log) (.failed l') := by simp [streak]
      rw [hs, prolong]
      by_cases hl : l' = l
      · rw [hl, if_pos rfl, List.count_singleton_self]
        omega
      · rw [if_neg hl, List.count_singleton, if_neg (by simpa using hl)]
        omega

/-- The failures on a link and those on others. -/
theorem length_failing_le (l : Link) (log : List Verdict) :
    (failing log).length ≤ streak l log + (failing log).countP (· ≠ l) := by
  have hsplit := List.length_eq_countP_add_countP (· = l) (l := failing log)
  have hcount : (failing log).countP (· = l) = (failing log).count l :=
    List.countP_congr fun l' _ => by simp
  have := count_failing_le l log
  simp only [decide_not] at hsplit ⊢
  simp at hsplit
  omega

/-- The count is that of the failures in a row, but for those that have reached the threshold. -/
theorem foldl_counted {threshold : Nat} (h : 0 < threshold) (log : List Verdict) :
    log.foldl (counted threshold) 0 = (failing log).length % threshold := by
  induction log using List.reverseRecOn with
  | nil => exact (Nat.zero_mod _).symm
  | append_singleton log v ih =>
    rw [List.foldl_concat, ih]
    cases v with
    | fresh => rw [failing_concat_fresh, List.length_nil, Nat.zero_mod, counted]
    | taken l => rw [failing_concat_taken, List.length_nil, Nat.zero_mod, counted]
    | failed l =>
      have hlt := Nat.mod_lt (failing log).length h
      have hmod := Nat.mod_add_mod (failing log).length threshold 1
      rw [failing_concat_failed, List.length_append, List.length_singleton, counted, ← hmod]
      split
      · rw [show (failing log).length % threshold + 1 = threshold by omega, Nat.mod_self]
      · exact (Nat.mod_eq_of_lt (by omega)).symm

theorem le_mod_add_one_iff {threshold : Nat} (h : 0 < threshold) (n : Nat) :
    threshold ≤ n % threshold + 1 ↔ threshold ∣ n + 1 := by
  have hlt := Nat.mod_lt n h
  have hmod := Nat.mod_add_mod n threshold 1
  rw [Nat.dvd_iff_mod_eq_zero, ← hmod]
  constructor
  · intro hle
    rw [show n % threshold + 1 = threshold by omega, Nat.mod_self]
  · intro hzero
    by_contra hne
    rw [Nat.mod_eq_of_lt (by omega)] at hzero
    omega

end Verdict

namespace Session

open Wire Verdict

variable {s s' : Session} {t : Nat} {l : Link} {m : Moment} {log : List Verdict}

def verdicts (s : Session) : Event → List Verdict
  | .run t =>
    match s.task? t with
    | some (.connect ..) => if s.isLeaving = false ∧ s.state.canConnect then [.fresh] else []
    | _ => []
  | .writeDone t result =>
    match s.task? t, result with
    | some (.write _ l _ _), .ok () => [.taken l]
    | some (.write _ l _ _), .error e => if e.isLinkFailure then [.failed l] else []
    | _, _ => []
  | _ => []

/-- What a run tells the count, in order. -/
def verdictLog (s : Session) : List (Moment × Event) → List Verdict
  | [] => []
  | x :: events => s.verdicts x.2 ++ (s.step x.1 x.2).verdictLog events

theorem verdictLog_append (s : Session) (events more : List (Moment × Event)) :
    s.verdictLog (events ++ more) = s.verdictLog events ++ (s.run events).verdictLog more := by
  induction events generalizing s with
  | nil => rfl
  | cons x events ih => simp [verdictLog, ih, run]

/-! ## The installed link and the count -/

structure Standing where
  link : Option Link
  failures : Nat

def standing (s : Session) : Standing := ⟨s.link, s.failures⟩

@[simp] theorem standing_transition (s : Session) (g : Nat) (allowed : ConnectionState → Bool)
    (next : ConnectionState) : (s.transition g allowed next).standing = s.standing := by
  unfold transition
  split <;> rfl

@[simp] theorem standing_dial (s : Session) (t : Nat) (call : Option Nat) (g : Nat) (peer : Peer) :
    (s.dial t call g peer).standing = s.standing := by
  unfold dial
  split
  · cases call <;> exact standing_transition ..
  · rfl

@[simp] theorem standing_intervalOver (s : Session) (t g : Nat) : (s.intervalOver t g).standing = s.standing := by
  unfold intervalOver
  split
  · split
    · rfl
    · exact standing_dial ..
  · rfl

@[simp] theorem standing_release (s : Session) : s.release.standing = s.standing :=
  standing_transition ..

@[simp] theorem standing_concludeSend (s : Session) (t : Nat) (origin : Origin) (r : Except ClientError UInt32) :
    (s.concludeSend t origin r).standing = s.standing := by
  cases origin with
  | call | echo => cases r <;> rfl
  | auth call => cases call <;> rfl

@[simp] theorem standing_beginSend (s : Session) (t : Nat) (origin : Origin) (kind : PacketKind) (payload : Bytes) :
    (s.beginSend t origin kind payload).standing = s.standing := by
  unfold beginSend
  split
  · rfl
  · exact standing_concludeSend ..

@[simp] theorem standing_beginWrite (s : Session) (m : Moment) (t : Nat) (origin : Origin) (kind : PacketKind)
    (payload : Bytes) : (s.beginWrite m t origin kind payload).standing = s.standing := by
  unfold beginWrite
  split
  · exact standing_concludeSend ..
  · simp only
    split
    · exact standing_concludeSend ..
    · rfl

@[simp] theorem standing_receive (s : Session) (m : Moment) (g : Nat) (message : Bytes) :
    (s.receive m g message).standing = s.standing := by
  unfold receive
  split
  · rfl
  · split
    · rfl
    · rename_i p _
      unfold packet
      cases p.kind with
      | video | audio =>
        simp only [media]
        split
        · rfl
        · exact standing_transition ..
      | keepAlive | control | auth | input => rfl

theorem standing_lose (s : Session) (g : Nat) (reason : String) (loss : Loss) :
    (s.lose g reason loss).standing =
      if s.link.map (·.generation) = some g then { s.standing with link := none } else s.standing := by
  unfold lose
  cases hl : s.link with
  | none => rfl
  | some l =>
    simp only [Option.map_some, Option.some.injEq]
    split
    · cases loss with
      | io =>
        simp only
        split <;> exact (standing_transition ..).trans (standing_transition ..)
      | sendFailures =>
        simp only
        split <;> exact standing_transition ..
    · rfl

/-- The link is lost with its generation. -/
theorem link_lose (s : Session) (g : Nat) (reason : String) (loss : Loss) :
    (s.lose g reason loss).link = s.link ∨ s.generation < (s.lose g reason loss).generation := by
  by_cases hg : ∀ l, s.link = some l → l.generation ≠ g
  · rw [lose_other hg]
    exact .inl rfl
  · push Not at hg
    obtain ⟨l, hl, rfl⟩ := hg
    right
    have hc := congrArg Core.generation (lose_core hl reason loss)
    have hb : (s.bereft l).generation = s.generation + 1 := generation_letGo s
    change (s.lose l.generation reason loss).generation = _ at hc
    rw [hc]
    split
    · exact Nat.lt_of_lt_of_eq (Nat.lt_succ_self _) hb.symm
    · exact Nat.lt_of_lt_of_eq (Nat.lt_succ_self _) hb.symm

theorem failures_letGo (s : Session) : s.letGo.failures = s.failures := by
  unfold letGo
  split <;> rfl

theorem failures_disconnect (s : Session) (t call : Nat) : (s.disconnect t call).failures = s.failures := by
  rcases disconnect_cases s t call with ⟨l, -, he⟩ | ⟨-, -, he⟩ | ⟨-, -, he⟩ <;> rw [he]
  · exact failures_letGo s
  · exact failures_letGo s
  · exact (congrArg Standing.failures (standing_release _)).trans (failures_letGo s)

theorem failures_dialDone (s : Session) (t : Nat) (call : Option Nat) (g : Nat) (result : Except TransportError Unit) :
    (s.dialDone t call g result).failures = s.failures := by
  have transition (s : Session) (g : Nat) (allowed : ConnectionState → Bool) (next : ConnectionState) :
      (s.transition g allowed next).failures = s.failures := congrArg Standing.failures (standing_transition ..)
  unfold dialDone
  cases result with
  | error e => cases call <;> exact transition ..
  | ok _ =>
    simp only
    split
    · unfold install
      simp only
      split
      · exact transition ..
      · cases call <;> exact transition ..
    · cases call <;> rfl

theorem failures_connect (hi : Inv s) (t call : Nat) (peer : Peer) :
    (s.connect t call peer).failures = if s.state.canConnect then 0 else s.failures := by
  by_cases hs : s.state.canConnect
  · rw [connect_of_canConnect s t call peer hs (hi.idle hs).1, if_pos hs]
    exact congrArg Standing.failures (standing_dial ..)
  · rw [if_neg hs]
    simp [connect, hs, answer, Session.erase]

theorem standing_countFailure (s : Session) (g : Nat) :
    (s.countFailure g).standing =
      if s.config.sendThreshold ≤ s.failures + 1 then
        ⟨if s.link.map (·.generation) = some g then none else s.link, 0⟩
      else ⟨s.link, s.failures + 1⟩ := by
  unfold countFailure
  simp only
  split
  · rw [standing_lose]
    simp only
    split <;> rfl
  · rfl

theorem link_countFailure (s : Session) (g : Nat) :
    (s.countFailure g).link = s.link ∨ s.generation < (s.countFailure g).generation := by
  unfold countFailure
  simp only
  split
  · exact link_lose { s with failures := 0 } ..
  · exact .inl rfl

theorem standing_writeDone (s : Session) (t : Nat) (origin : Origin) (l : Link) (n : UInt32) (message : Bytes)
    (result : Except TransportError Unit) :
    (s.writeDone t origin l n message result).standing =
      match result with
      | .ok _ => ⟨s.link, 0⟩
      | .error e => if e.isLinkFailure then (s.countFailure l.generation).standing else s.standing := by
  unfold writeDone
  cases result with
  | ok _ => exact standing_concludeSend ..
  | error e =>
    simp only
    split
    · rw [standing_concludeSend, standing_countFailure, standing_countFailure]
    · exact standing_concludeSend ..

theorem link_writeDone (s : Session) (t : Nat) (origin : Origin) (l : Link) (n : UInt32) (message : Bytes)
    (result : Except TransportError Unit) :
    (s.writeDone t origin l n message result).link = s.link ∨
      s.generation < (s.writeDone t origin l n message result).generation := by
  have link (s : Session) (origin : Origin) (r : Except ClientError UInt32) :
      (s.concludeSend t origin r).link = s.link := congrArg Standing.link (standing_concludeSend ..)
  unfold writeDone
  cases result with
  | ok _ => exact .inl (link ..)
  | error e =>
    simp only
    split
    · rw [link, generation_concludeSend]
      exact link_countFailure { s with stats := { s.stats with sendFailures := s.stats.sendFailures + 1 } } _
    · exact .inl (link ..)

/-- The installed link leaves only with its generation. -/
theorem link_step (hi : Inv s) (hl : s.link = some l) (m : Moment) (e : Event) :
    (s.step m e).link = some l ∨ s.generation < (s.step m e).generation := by
  have same {s₁ : Session} (h : s₁.standing = s.standing) : s₁.link = some l :=
    (congrArg Standing.link h).trans hl
  have hm := move_step s m e
  generalize s.step m e = s' at hm ⊢
  cases hm with
  | connect t call peer h hj =>
    by_cases hs : s.state.canConnect
    · cases (hi.idle hs).1.symm.trans hl
    · left
      simp [connect, hs, answer, Session.erase, hl]
  | disconnect t call =>
    right
    rw [generation_disconnect]
    omega
  | joined => exact .inl (same (standing_release s))
  | beginSend => exact .inl (same (standing_beginSend ..))
  | beginWrite => exact .inl (same (standing_beginWrite ..))
  | dialDone t call g peer result h =>
    have hg : s.generation ≠ g := by
      rintro rfl
      have := count_pos_of_mem (p := Task.isAttempt s.generation) (task?_mem h) (by simp)
      exact absurd (hi.attempts_of_link hl) (Nat.ne_of_gt this)
    left
    exact (congrArg Core.link (dialDone_core_of_stale hg t call result)).trans hl
  | intervalOver => exact .inl (same (standing_intervalOver ..))
  | writeDone => exact (link_writeDone ..).imp_left (·.trans hl)
  | receive => exact .inl (same (standing_receive ..))
  | linkEnded t => exact (link_lose (s.erase t) ..).imp_left (·.trans hl)
  | letGo =>
    right
    rw [generation_letGo]
    omega
  | rest | call | close | unlisten | tick | work | pop | setVolume | authenticate | logout | free => exact .inl hl

/-- A message that is being written on a link of the present generation is written on the installed one. -/
def Settled (s : Session) : Prop :=
  ∀ t origin l n message, (t, .write origin l n message) ∈ s.tasks → l.generation = s.generation → s.link = some l

theorem Settled.step (hs : Settled s) (ho : Orderly s) (hi : Inv s) (m : Moment) (e : Event) :
    Settled (s.step m e) := by
  intro t origin l n message hx hg
  have hgrow := generation_le_step s m e
  have stays (hl : s.link = some l) (hle : l.generation ≤ s.generation) : (s.step m e).link = some l := by
    rcases link_step hi hl m e with h | h
    · exact h
    · omega
  rcases (dispatch_step hi m e).write (inv_step hi m e).numbered hx rfl with hx | ⟨-, _, l', _, he, hl, -⟩
  · have hle := ho.past _ _ _ _ _ hx
    exact stays (hs _ _ _ _ _ hx (by omega)) hle
  · cases he
    exact stays hl (Nat.le_of_eq (hi.linked l hl).1)

theorem Settled.run (hs : Settled s) (ho : Orderly s) (hi : Inv s) (events : List (Moment × Event)) :
    Settled (s.run events) := by
  induction events generalizing s with
  | nil => exact hs
  | cons x events ih => exact ih (hs.step ho hi x.1 x.2) (ho.step hi x.1 x.2) (inv_step hi x.1 x.2)

theorem failures_writeDone (s : Session) (t : Nat) (origin : Origin) (l : Link) (n : UInt32) (message : Bytes)
    (result : Except TransportError Unit) :
    (s.writeDone t origin l n message result).failures =
      match result with
      | .ok _ => 0
      | .error e => if e.isLinkFailure then counted s.config.sendThreshold s.failures (.failed l) else s.failures := by
  have h := congrArg Standing.failures (standing_writeDone s t origin l n message result)
  change (s.writeDone t origin l n message result).failures = _ at h
  rw [h]
  cases result with
  | ok _ => rfl
  | error e =>
    simp only
    split
    · rw [standing_countFailure, counted]
      split <;> rfl
    · rfl

theorem failures_resume (hi : Inv s) (m : Moment) {task : Task} (h : s.task? t = some task) :
    (s.resume m t task).failures = (s.verdicts (.run t)).foldl (counted s.config.sendThreshold) s.failures := by
  have same {s₁ : Session} (h : s₁.standing = s.standing) : s₁.failures = s.failures :=
    congrArg Standing.failures h
  simp only [verdicts, h]
  cases task with
  | connect call peer =>
    simp only [resume]
    cases hj : s.isLeaving with
    | true => simp
    | false =>
      simp only [Bool.false_eq_true, if_false, true_and]
      rw [failures_connect hi]
      split <;> rfl
  | disconnect call =>
    simp only [resume]
    split
    · rfl
    · exact failures_disconnect ..
  | join call link =>
    simp only [resume]
    split
    · rfl
    · exact same (standing_release s)
  | send => exact same (standing_beginSend ..)
  | queued =>
    simp only [resume]
    split
    · rfl
    · exact same (standing_beginWrite ..)
  | listen l cancelled =>
    simp only [resume]
    split <;> rfl
  | close | dial | write | timer => rfl

theorem failures_step (hi : Inv s) (m : Moment) (e : Event) :
    (s.step m e).failures = (s.verdicts e).foldl (counted s.config.sendThreshold) s.failures := by
  have same {s₁ : Session} (h : s₁.standing = s.standing) : s₁.failures = s.failures :=
    congrArg Standing.failures h
  cases e with
  | run t =>
    cases h : s.task? t with
    | none => simp [step, verdicts, h]
    | some task => simpa only [step, h] using failures_resume hi m h
  | dialDone t result =>
    simp only [step, verdicts]
    split
    · exact failures_dialDone ..
    · rfl
  | intervalOver t =>
    simp only [step, verdicts]
    split
    · exact same (standing_intervalOver ..)
    · rfl
  | writeDone t result =>
    cases h : s.task? t with
    | none => simp [step, verdicts, h]
    | some task =>
      cases task with
      | write origin l n message =>
        simp only [step, h, verdicts, failures_writeDone]
        cases result with
        | ok _ => rfl
        | error e =>
          simp only
          split <;> rfl
      | _ => simp [step, verdicts, h]
  | receive t message =>
    simp only [step, verdicts]
    split
    · exact same (standing_receive ..)
    · rfl
  | linkEnded t reason =>
    simp only [step, verdicts]
    split
    · rename_i l _
      have hl := congrArg Standing.failures (standing_lose (s.erase t) l.generation reason .io)
      refine Eq.trans hl ?_
      split <;> rfl
    · rfl
  | letGo => exact failures_letGo s
  | callConnect | callDisconnect | callSend | tick | work | pop | setVolume | authenticate | logout | free => rfl

/-- The count of a session is that of the verdicts of its run. -/
theorem failures_run (hi : Inv s) (events : List (Moment × Event)) :
    (s.run events).failures = (s.verdictLog events).foldl (counted s.config.sendThreshold) s.failures := by
  induction events generalizing s with
  | nil => rfl
  | cons x events ih =>
    have := ih (inv_step hi x.1 x.2)
    rw [failures_step hi, config_step] at this
    rw [verdictLog, List.foldl_append]
    exact this

/-! ## The drop -/

/-- The installed link leaves at the end of a write. -/
structure Severs (s : Session) (m : Moment) (t : Nat) (result : Except TransportError Unit) (l : Link) : Prop where
  installed : s.link = some l
  gone : (s.step m (.writeDone t result)).link ≠ some l

theorem verdicts_eq_failed {result : Except TransportError Unit} (h : s.verdicts (.writeDone t result) = [.failed l]) :
    ∃ origin n message e, s.task? t = some (.write origin l n message) ∧ result = .error e ∧ e.isLinkFailure := by
  simp only [verdicts] at h
  split at h
  · cases h
  · rename_i origin l' n message e ht
    split at h
    · rename_i he
      cases h
      exact ⟨origin, n, message, e, ht, rfl, he⟩
    · cases h
  · cases h

theorem link_dropped_of_failed (hl : s.link = some l) (h : s.verdicts (.writeDone t result) = [.failed l])
    (hf : s.config.sendThreshold ≤ s.failures + 1) : s.Severs m t result l := by
  obtain ⟨origin, n, message, e, ht, rfl, he⟩ := verdicts_eq_failed h
  refine ⟨hl, ?_⟩
  have hs := congrArg Standing.link (standing_writeDone s t origin l n message (.error e))
  simp only [he, if_true, standing_countFailure, if_pos hf, hl, Option.map_some] at hs
  have hstep : s.step m (.writeDone t (.error e)) = s.writeDone t origin l n message (.error e) := by
    simp only [step, ht]
  rw [hstep]
  intro hlink
  cases hs.symm.trans hlink

theorem Severs.failed {result : Except TransportError Unit} (h : s.Severs m t result l) (hi : Inv s) (hs : Settled s) :
    s.verdicts (.writeDone t result) = [.failed l] ∧ s.config.sendThreshold ≤ s.failures + 1 := by
  obtain ⟨hl, hgone⟩ := h
  have kept : (s.step m (.writeDone t result)).link ≠ s.link := fun he => hgone (he.trans hl)
  by_cases ht : ∃ origin l' n message, s.task? t = some (.write origin l' n message)
  · obtain ⟨origin, l', n, message, ht⟩ := ht
    have hstep : s.step m (.writeDone t result) = s.writeDone t origin l' n message result := by
      simp only [step, ht]
    rw [hstep] at kept
    have hlink := congrArg Standing.link (standing_writeDone s t origin l' n message result)
    cases result with
    | ok _ => exact absurd hlink kept
    | error e =>
      simp only at hlink
      split at hlink
      · rename_i he
        rw [standing_countFailure] at hlink
        split at hlink
        · rename_i hf
          simp only at hlink
          split at hlink
          · rename_i hg
            -- It is the link of the write that is installed.
            simp only [hl, Option.map_some, Option.some.injEq] at hg
            have hlinked := hs t origin l' n message (task?_mem ht) (hg.symm.trans (hi.linked l hl).1)
            obtain rfl : l' = l := Option.some.inj (hlinked.symm.trans hl)
            simp only [verdicts, ht, he, if_true]
            exact ⟨trivial, hf⟩
          · exact absurd hlink kept
        · exact absurd hlink kept
      · exact absurd hlink kept
  · exact absurd (congrArg link (step_writeDone_idle ht m result)) kept

theorem sendThreshold_pos (c : SessionConfig) : 0 < c.sendThreshold :=
  Nat.lt_of_lt_of_le Nat.zero_lt_one (Nat.le_max_right ..)

/-- In every run, a link is dropped for send failures exactly when a write on it fails and the failures since the
last success or accepted connect, on whichever links, come to a multiple of the threshold. Those on the link since
the last success on it reach the threshold only together with those on others. -/
theorem link_dropped (config : SessionConfig) (ring : KeyRing) (format : PcmFormat) (before : List (Moment × Event))
    (m : Moment) (t : Nat) (result : Except TransportError Unit) (l : Link) :
    let start := ofConfig config ring format
    let s := start.run before
    let log := start.verdictLog (before ++ [(m, .writeDone t result)])
    (s.Severs m t result l ↔
        s.link = some l ∧ s.verdicts (.writeDone t result) = [.failed l] ∧
          config.sendThreshold ∣ (failing log).length) ∧
      (s.Severs m t result l → config.sendThreshold ≤ streak l log + (failing log).countP (· ≠ l)) := by
  intro start s log
  have hi₀ : Inv start := (bare_ofConfig config ring format).inv
  have ho₀ : Orderly start := ⟨by simp [start, ofConfig], by simp [start, ofConfig]⟩
  have hs₀ : Settled start := by
    intro _ _ _ _ _ hx
    cases hx
  have hi : Inv s := inv_run hi₀ before
  have hs : Settled s := hs₀.run ho₀ hi₀ before
  have hpos := sendThreshold_pos config
  have hconfig : s.config = config := config_run start before
  have hlog : log = start.verdictLog before ++ s.verdicts (.writeDone t result) := by
    rw [show log = _ from verdictLog_append ..]
    simp [verdictLog, s]
  have hcount : s.failures = (failing (start.verdictLog before)).length % config.sendThreshold :=
    (failures_run hi₀ before).trans (foldl_counted hpos _)
  -- After a failure on the link, the threshold is reached when it divides the number of failures.
  have reached (hv : s.verdicts (.writeDone t result) = [.failed l]) :
      s.config.sendThreshold ≤ s.failures + 1 ↔ config.sendThreshold ∣ (failing log).length := by
    rw [hconfig, hcount, le_mod_add_one_iff hpos, hlog, hv, failing_concat_failed, List.length_append,
      List.length_singleton]
  have hiff : s.Severs m t result l ↔
      s.link = some l ∧ s.verdicts (.writeDone t result) = [.failed l] ∧
        config.sendThreshold ∣ (failing log).length := by
    constructor
    · intro h
      obtain ⟨hv, hf⟩ := h.failed hi hs
      exact ⟨h.installed, hv, (reached hv).1 hf⟩
    · rintro ⟨hl, hv, hd⟩
      exact link_dropped_of_failed hl hv ((reached hv).2 hd)
  refine ⟨hiff, ?_⟩
  intro h
  obtain ⟨-, hv, hd⟩ := hiff.1 h
  have hlen : 0 < (failing log).length := by
    rw [hlog, hv, failing_concat_failed, List.length_append, List.length_singleton]
    omega
  exact Nat.le_trans (Nat.le_of_dvd hlen hd) (length_failing_le l log)

/-- Two writes fail on a link that is then lost, and one on its successor. -/
def inherited : List (Moment × Event) :=
  atOnce [.callConnect 0 (.manual "desk" "desk.local" 9000), .run 0, .dialDone 0 (.ok ()),
    .callSend 1 .control [1], .run 2, .run 2, .writeDone 2 (.error .connectionClosed),
    .callSend 2 .control [2], .run 3, .run 3, .writeDone 3 (.error .connectionClosed),
    .linkEnded 1 "reset", .intervalOver 5, .dialDone 5 (.ok ()),
    .callSend 3 .control [3], .run 7, .run 7]

/-- The successor is dropped after one failure, below the threshold of three. -/
theorem link_dropped_inherited :
    let s := plain.run inherited
    let log := plain.verdictLog (inherited ++ [(still, .writeDone 7 (.error .connectionClosed))])
    s.Severs still 7 (.error .connectionClosed) ⟨1, 2⟩ ∧ s.config.sendThreshold = 3 ∧
      streak ⟨1, 2⟩ log = 1 ∧ (failing log).countP (· ≠ ⟨1, 2⟩) = 2 := by
  intro s log
  have h := (link_dropped { encrypt := false, sendAuthToken := false } ⟨none, none⟩ .s16le inherited still 7
    (.error .connectionClosed) ⟨1, 2⟩).1
  exact ⟨h.2 ⟨by decide +kernel, by decide +kernel, by decide +kernel⟩, by decide +kernel, by decide +kernel,
    by decide +kernel⟩

end Session
end DeskStream
