import DeskStream.Proofs.Session.SendFailures
/-!
# Where links are

Every link that the connector has handed over is installed, or closed, or about to be closed, and it
is in one of these places only (`Accounted`). A step moves at most one link, from one of them to the next
(`passage_step`).
-/

namespace DeskStream

/-- The link that the activity is to close. -/
def Task.closing? : Task → Option Nat
  | .close link => some link
  | _ => none

@[simp] theorem Task.closing?_told (link : Nat) (task : Task) : (task.told link).closing? = task.closing? := by
  cases task <;> rfl

namespace Session

open Wire

variable {s s' : Session} {t : Nat} {l : Link} {m : Moment} {e : Event} {old new task : Task}

/-- The links that are about to be closed. -/
def closing (s : Session) : List Nat := s.tasks.filterMap (·.2.closing?)

/-- The installed link, how many there have been, and those that were closed or are about to be. -/
structure Custody where
  link : Option Link
  links : Nat
  closed : List Nat
  closing : List Nat

def custody (s : Session) : Custody := ⟨s.link, s.links, s.closed, s.closing⟩

/-! ## The links about to be closed through changes of the table -/

/-- Nothing is closed under this number. -/
def Clear (s : Session) (t : Nat) : Prop := ∀ x ∈ s.tasks, x.1 = t → x.2.closing? = none

theorem Numbered.clear (hn : s.Numbered) (h : s.task? t = some task) (hc : task.closing? = none) : s.Clear t := by
  rintro ⟨u, other⟩ hx rfl
  rw [hn.eq_of_mem h hx]
  exact hc

theorem Clear.of_tasks (hc : s.Clear t) (ht : s'.tasks = s.tasks) : s'.Clear t := fun x hx => hc x (ht ▸ hx)

theorem closing_spawn (s : Session) (task : Task) :
    (s.spawn task).closing = s.closing ++ task.closing?.toList := by
  rw [closing, spawn, List.filterMap_append]
  cases h : task.closing? <;> simp [h, closing]

theorem closing_put (hc : s.Clear t) (h : new.closing? = none) : (s.put t new).closing = s.closing := by
  rw [closing, put, List.filterMap_map]
  refine List.filterMap_congr fun x hx => ?_
  by_cases hxt : x.1 = t
  · simp [hxt, h, hc x hx hxt]
  · simp [hxt]

theorem closing_erase (hc : s.Clear t) : (s.erase t).closing = s.closing := by
  rw [closing, erase, List.filterMap_filter]
  refine List.filterMap_congr fun x hx => ?_
  by_cases hxt : x.1 = t
  · simp [hxt, hc x hx hxt]
  · simp [hxt]

theorem closing_cancel (s : Session) (link : Nat) : (s.cancel link).closing = s.closing := by
  rw [closing, cancel_tasks, List.filterMap_map]
  exact List.filterMap_congr fun x _ => Task.closing?_told link x.2

/-- When a link has been closed, the others are still about to be. -/
theorem closing_perm (hn : s.Numbered) {n : Nat} (h : s.task? t = some (.close n)) :
    s.closing.Perm (n :: (s.erase t).closing) := by
  obtain ⟨a, b, he, ha⟩ := hn.split_erase h
  rw [closing, closing, he, ha, List.filterMap_append, List.filterMap_append]
  exact List.perm_middle

theorem custody_spawn (s : Session) (h : task.closing? = none) : (s.spawn task).custody = s.custody := by
  rw [custody, closing_spawn, h, Option.toList_none, List.append_nil]
  rfl

theorem custody_put (hc : s.Clear t) (h : new.closing? = none) : (s.put t new).custody = s.custody := by
  rw [custody, closing_put hc h]
  rfl

theorem custody_erase (hc : s.Clear t) : (s.erase t).custody = s.custody := by
  rw [custody, closing_erase hc]
  rfl

theorem custody_answer (hc : s.Clear t) (call : Nat) (o : Outcome) : (s.answer t call o).custody = s.custody :=
  custody_erase hc

/-! ## Operations that leave links where they are -/

@[simp] theorem custody_transition (s : Session) (g : Nat) (allowed : ConnectionState → Bool)
    (next : ConnectionState) : (s.transition g allowed next).custody = s.custody := by
  unfold transition
  split <;> rfl

theorem Clear.transition (hc : s.Clear t) (g : Nat) (allowed : ConnectionState → Bool) (next : ConnectionState) :
    (s.transition g allowed next).Clear t :=
  hc.of_tasks (by simp)

theorem custody_failAttempt (hc : s.Clear t) (g : Nat) (reason : String) (call : Option Nat) (o : Outcome) :
    ((s.failAttempt g reason).ended t call o).custody = s.custody := by
  have he := hc.transition g (·.isAttempting) (.error reason)
  cases call with
  | none => exact (custody_erase he).trans (custody_transition ..)
  | some call => exact (custody_answer he call o).trans (custody_transition ..)

theorem custody_dial (hc : s.Clear t) (call : Option Nat) (g : Nat) (peer : Peer) :
    (s.dial t call g peer).custody = s.custody := by
  unfold dial
  split
  · exact custody_failAttempt hc g _ call _
  · exact custody_put hc rfl

theorem custody_connect (hi : Inv s) (hc : s.Clear t) (call : Nat) (peer : Peer) :
    (s.connect t call peer).custody = s.custody := by
  by_cases hs : s.state.canConnect
  · -- Accepted, so there is no link to give up.
    have hl := (hi.idle hs).1
    rw [connect_of_canConnect s t call peer hs hl, custody_dial (s := s.accepted peer) hc, custody, custody, hl]
    rfl
  · simp only [connect, hs]
    exact custody_answer hc call _

theorem custody_intervalOver (hc : s.Clear t) (g : Nat) : (s.intervalOver t g).custody = s.custody := by
  unfold intervalOver
  split
  · split
    · exact custody_erase hc
    · let s' := { s with stats := { s.stats with reconnectAttempts := s.stats.reconnectAttempts + 1 } }
      exact custody_dial (s := s') hc none g _
  · exact custody_erase hc

@[simp] theorem custody_release (s : Session) : s.release.custody = s.custody := custody_transition ..

theorem custody_released (hc : s.Clear t) (call : Nat) (o : Outcome) :
    (s.release.answer t call o).custody = s.custody :=
  (custody_answer (hc.of_tasks (by simp [release])) call o).trans (custody_release s)

theorem custody_concludeSend (hc : s.Clear t) (origin : Origin) (r : Except ClientError UInt32) :
    (s.concludeSend t origin r).custody = s.custody := by
  have he := custody_erase hc
  cases origin with
  | call | echo => cases r <;> exact he
  | auth call => cases call <;> exact he

theorem custody_beginSend (hc : s.Clear t) (origin : Origin) (kind : PacketKind) (payload : Bytes) :
    (s.beginSend t origin kind payload).custody = s.custody := by
  unfold beginSend
  split
  · exact custody_put hc rfl
  · exact custody_concludeSend hc ..

theorem custody_beginWrite (hc : s.Clear t) (m : Moment) (origin : Origin) (kind : PacketKind) (payload : Bytes) :
    (s.beginWrite m t origin kind payload).custody = s.custody := by
  unfold beginWrite
  split
  · exact custody_concludeSend hc ..
  · simp only
    split
    · exact custody_concludeSend (s := { s with sequence := s.sequence + 1 }) hc ..
    · exact custody_put (s := { s with sequence := s.sequence + 1 }) hc rfl

theorem custody_receive (s : Session) (m : Moment) (g : Nat) (message : Bytes) :
    (s.receive m g message).custody = s.custody := by
  unfold receive
  split
  · rfl
  · split
    · rfl
    · rename_i p _
      unfold packet
      cases p.kind with
      | video | audio =>
        simp only [media]
        split
        · rfl
        · exact custody_transition ..
      | keepAlive => exact custody_spawn _ rfl
      | control | auth | input => rfl

/-! ## Operations that move a link -/

theorem Clear.spawn (hc : s.Clear t) (h : task.closing? = none) : (s.spawn task).Clear t := by
  intro x hx hxt
  rcases mem_spawn.1 hx with hx | rfl
  · exact hc x hx hxt
  · exact h

theorem custody_install (hc : s.Clear t) (call : Option Nat) (l : Link) :
    (s.install t call l).custody = { s.custody with link := some l } := by
  let s₁ := { s with link := some l }
  let s₂ := (s₁.spawn (.listen l false)).transition l.generation (·.isAttempting) .connected
  have hc₁ : s₁.Clear t := hc
  have hc₂ : s₂.Clear t := (hc₁.spawn rfl).transition _ _ _
  have h₂ : s₂.custody = { s.custody with link := some l } :=
    (custody_transition ..).trans (custody_spawn s₁ rfl)
  rw [← h₂]
  unfold install
  simp only
  split
  · exact custody_put hc₂ rfl
  · cases call with
    | none => exact custody_erase hc₂
    | some call => exact custody_answer hc₂ call _

theorem custody_letGo (s : Session) : s.letGo.custody = { s.custody with link := none } := by
  unfold letGo
  split
  · rfl
  · rw [custody, closing_cancel]
    rfl

theorem Clear.letGo (hc : s.Clear t) : s.letGo.Clear t := by
  rcases letGo_tasks s with h | ⟨n, h⟩
  · exact hc.of_tasks h
  · intro x hx hxt
    rw [h] at hx
    obtain ⟨y, hy, rfl⟩ := List.mem_map.1 hx
    simpa using hc y hy hxt

theorem custody_abandon (s : Session) (link : Nat) :
    (s.abandon link).custody = { s.custody with closing := s.closing ++ [link] } := by
  rw [abandon, custody, closing_spawn, closing_cancel]
  rfl

theorem custody_lose (s : Session) (reason : String) (loss : Loss) (hl : s.link = some l) :
    (s.lose l.generation reason loss).custody =
      { s.custody with link := none, closing := s.closing ++ [l.number] } := by
  refine Eq.trans ?_ (custody_abandon s.supersede l.number)
  simp only [lose, hl, if_true]
  cases loss <;> simp only <;> split
  · rw [custody_spawn _ rfl, custody_transition, custody_transition]
  · rw [custody_transition, custody_transition]
  · rw [custody_spawn _ rfl, custody_transition]
  · rw [custody_transition]

/-! ## How a link leaves -/

/-- With this event a link leaves the session: its attempt was superseded while it was being opened, its
receive loop finds it gone, a write on it fails at the threshold of send failures, or a disconnect call
has its turn. -/
inductive Leaves (s : Session) : Event → Nat → Prop where
  | superseded {t : Nat} {call : Option Nat} {g : Nat} {peer : Peer} (h : s.task? t = some (.dial call g peer))
    (stale : s.generation ≠ g) : Leaves s (.dialDone t (.ok ())) s.links
  | lost {t : Nat} {l : Link} (reason : String) (h : s.task? t = some (.listen l false))
    (installed : s.link = some l) : Leaves s (.linkEnded t reason) l.number
  | dropped {t : Nat} {origin : Origin} {l : Link} {n : UInt32} {message : Bytes} {error : TransportError}
    (h : s.task? t = some (.write origin l n message)) (installed : s.link = some l)
    (failure : error.isLinkFailure) (threshold : s.config.sendThreshold ≤ s.failures + 1) :
    Leaves s (.writeDone t (.error error)) l.number
  | disconnected {t call : Nat} {l : Link} (h : s.task? t = some (.disconnect call)) (turn : s.isLeaving = false)
    (installed : s.link = some l) : Leaves s (.run t) l.number

/-- The link with this number is installed. -/
def Installs (s : Session) (n : Nat) : Prop := ∃ l, s.link = some l ∧ l.number = n

/-- What a step does with links: it moves none, or one from one place to the next. -/
inductive Passage (s : Session) (e : Event) (s' : Session) : Prop where
  | kept (h : s'.custody = s.custody)
  | closed (n : Nat) (hp : s.closing.Perm (n :: s'.closing))
    (h : s'.custody = { s.custody with closed := s.closed ++ [n], closing := s'.closing })
  | installed (g : Nat) (hl : s.link = none)
    (h : s'.custody = { s.custody with link := some ⟨s.links, g⟩, links := s.links + 1 })
  | superseded (hw : s.Leaves e s.links)
    (h : s'.custody = { s.custody with links := s.links + 1, closed := s.closed ++ [s.links] })
  | abandoned (l : Link) (hl : s.link = some l) (hw : s.Leaves e l.number)
    (h : s'.custody = { s.custody with link := none, closing := s.closing ++ [l.number] })
  | disconnected (l : Link) (hl : s.link = some l) (hw : s.Leaves e l.number)
    (h : s'.custody = { s.custody with link := none, closed := s.closed ++ [l.number] })

theorem custody_countFailure (s : Session) (g : Nat) :
    (s.countFailure g).custody = s.custody ∨
      ∃ l, s.link = some l ∧ l.generation = g ∧ s.config.sendThreshold ≤ s.failures + 1 ∧
        (s.countFailure g).custody = { s.custody with link := none, closing := s.closing ++ [l.number] } := by
  unfold countFailure
  simp only
  split
  · rename_i hf
    by_cases hg : ∀ l, s.link = some l → l.generation ≠ g
    · left
      rw [lose_other (s := { s with failures := 0 }) hg]
      rfl
    · push Not at hg
      obtain ⟨l, hl, rfl⟩ := hg
      exact .inr ⟨l, hl, rfl, hf, custody_lose { s with failures := 0 } _ _ hl⟩
  · exact .inl rfl

theorem passage_writeDone (hi : Inv s) (hs : Settled s) {origin : Origin} {n : UInt32} {message : Bytes}
    (h : s.task? t = some (.write origin l n message)) (result : Except TransportError Unit) :
    Passage s (.writeDone t result) (s.writeDone t origin l n message result) := by
  have hc := hi.numbered.clear h rfl
  unfold writeDone
  cases result with
  | ok _ => exact .kept (custody_concludeSend (s := { s with
      failures := 0
      stats := { s.stats with packetsSent := s.stats.packetsSent + 1 }
      written := s.written ++ [(l.number, message)] }) hc ..)
  | error e =>
    let s₁ := { s with stats := { s.stats with sendFailures := s.stats.sendFailures + 1 } }
    simp only
    split
    · rename_i he
      have hi₁ : Inv s₁ := hi.of_core (by rfl)
      have hn := (kept_countFailure hi₁ l.generation).inv.numbered
      have hm := countFailure_mem (s := s₁) (task?_mem h) (by simp) l.generation
      -- The write is still there when its link is dropped.
      have hc₁ := hn.clear (hn.task?_of_mem hm) rfl
      rcases custody_countFailure s₁ l.generation with hk | ⟨l', hl, hg, hf, hk⟩
      · exact .kept ((custody_concludeSend hc₁ ..).trans hk)
      · have hset := hs t origin l n message (task?_mem h) (hg.symm.trans (hi.linked l' hl).1)
        obtain rfl : l' = l := Option.some.inj (hl.symm.trans hset)
        exact .abandoned l' hl (.dropped h hl he hf) ((custody_concludeSend hc₁ ..).trans hk)
    · exact .kept (custody_concludeSend (s := s₁) hc ..)

theorem passage_dialDone (hi : Inv s) {call : Option Nat} {g : Nat} {peer : Peer}
    (h : s.task? t = some (.dial call g peer)) (result : Except TransportError Unit) :
    Passage s (.dialDone t result) (s.dialDone t call g result) := by
  have hc := hi.numbered.clear h rfl
  cases result with
  | error e => exact .kept (custody_failAttempt hc g e.message call _)
  | ok _ =>
    by_cases hg : s.generation = g
    · subst hg
      have ha := hi.attempts_of_task h (by simp)
      let s₁ := { s with links := s.links + 1, metrics := s.metrics.newLink }
      refine .installed s.generation (ha.link hi) ?_
      simp only [dialDone, if_true]
      exact custody_install (s := s₁) hc call _
    · refine .superseded (.superseded h hg) ?_
      rw [dialDone_ok_of_stale hg]
      let s₁ := { s with
        links := s.links + 1
        metrics := s.metrics.newLink
        closed := s.closed ++ [s.links] }
      cases call with
      | none => exact custody_erase (s := s₁) hc
      | some call => exact custody_answer (s := s₁) hc call _

theorem passage_disconnect (hi : Inv s) {call : Nat} (h : s.task? t = some (.disconnect call))
    (hj : s.isLeaving = false) : Passage s (.run t) (s.disconnect t call) := by
  have hc := (hi.numbered.clear h rfl).letGo
  have hg := custody_letGo s
  rcases disconnect_cases s t call with ⟨l, hl, he⟩ | ⟨hl, -, he⟩ | ⟨hl, -, he⟩
  · refine .disconnected l hl (.disconnected h hj hl) ?_
    rw [he]
    have hp : (s.letGo.put t (.join call l.number)).custody = { s.custody with link := none } :=
      (custody_put hc rfl).trans hg
    change { (s.letGo.put t (.join call l.number)).custody with closed := s.closed ++ [l.number] } = _
    rw [hp]
  · refine .kept ?_
    rw [he, custody_answer hc, hg, custody, hl]
  · refine .kept ?_
    rw [he, custody_released hc, hg, custody, hl]

theorem passage_resume (hi : Inv s) (m : Moment) (h : s.task? t = some task) :
    Passage s (.run t) (s.resume m t task) := by
  cases task with
  | connect call peer =>
    simp only [resume]
    split
    · exact .kept rfl
    · exact .kept (custody_connect hi (hi.numbered.clear h rfl) call peer)
  | disconnect call =>
    simp only [resume]
    split
    · exact .kept rfl
    · rename_i hj
      exact passage_disconnect hi h (Bool.eq_false_iff.2 hj)
  | join call link =>
    simp only [resume]
    split
    · exact .kept rfl
    · exact .kept (custody_released (hi.numbered.clear h rfl) ..)
  | send => exact .kept (custody_beginSend (hi.numbered.clear h rfl) ..)
  | queued =>
    simp only [resume]
    split
    · exact .kept rfl
    · exact .kept (custody_beginWrite (hi.numbered.clear h rfl) ..)
  | close link => exact .closed link (closing_perm hi.numbered h) rfl
  | listen l cancelled =>
    simp only [resume]
    split
    · exact .kept (custody_erase (hi.numbered.clear h rfl))
    · exact .kept rfl
  | dial | write | timer => exact .kept rfl

theorem passage_linkEnded (hi : Inv s) (h : s.task? t = some (.listen l false)) (reason : String) :
    Passage s (.linkEnded t reason) (s.linkEnded t l.generation reason) := by
  have hl := hi.heard t l (task?_mem h)
  refine .abandoned l hl (.lost reason h hl) ?_
  have hc := hi.numbered.clear h rfl
  have hlose := custody_lose (s.erase t) reason .io hl
  rwa [custody_erase hc, closing_erase hc] at hlose

/-- A step of a held session. -/
theorem passage_step (hi : Inv s) (hs : Settled s) (m : Moment) (he : e ≠ .letGo) : Passage s e (s.step m e) := by
  cases e with
  | run t =>
    simp only [step]
    split
    · exact passage_resume hi m ‹_›
    · exact .kept rfl
  | dialDone t result =>
    simp only [step]
    split
    · exact passage_dialDone hi ‹_› result
    · exact .kept rfl
  | intervalOver t =>
    simp only [step]
    split
    · exact .kept (custody_intervalOver (hi.numbered.clear ‹_› rfl) _)
    · exact .kept rfl
  | writeDone t result =>
    simp only [step]
    split
    · exact passage_writeDone hi hs ‹_› result
    · exact .kept rfl
  | receive t message =>
    simp only [step]
    split
    · exact .kept (custody_receive ..)
    · exact .kept rfl
  | linkEnded t reason =>
    simp only [step]
    split
    · exact passage_linkEnded hi ‹_› reason
    · exact .kept rfl
  | callConnect | callDisconnect | callSend => exact .kept (custody_spawn _ rfl)
  | letGo => exact absurd rfl he
  | tick | work | pop | setVolume | authenticate | logout | free => exact .kept rfl

namespace Passage

variable {n : Nat}

/-- A link that is installed after a step was so before, or has just been handed over. -/
theorem link (h : Passage s e s') (hl : s'.link = some l) : s.link = some l ∨ l.number = s.links := by
  have hlink {c : Custody} (hc : s'.custody = c) : c.link = some l := (congrArg Custody.link hc).symm.trans hl
  cases h with
  | kept h => exact .inl (hlink h)
  | closed n hp h => exact .inl (hlink h)
  | installed g hl h => exact .inr (congrArg Link.number (Option.some.inj (hlink h))).symm
  | superseded hw h => exact .inl (hlink h)
  | abandoned l hl hw h => cases hlink h
  | disconnected l hl hw h => cases hlink h

theorem links_le (h : Passage s e s') : s.links ≤ s'.links := by
  have hlinks {c : Custody} (hc : s'.custody = c) : s'.links = c.links := congrArg Custody.links hc
  cases h with
  | kept h | closed _ _ h | abandoned _ _ _ h | disconnected _ _ _ h => exact Nat.le_of_eq (hlinks h).symm
  | installed _ _ h | superseded _ h => exact Nat.le_of_lt ((hlinks h).symm ▸ Nat.lt_succ_self _)

end Passage

/-! ## The account -/

namespace Custody

variable {c : Custody}

/-- Installed, closed and about to be closed, together. -/
def places (c : Custody) : List Nat := c.link.toList.map (·.number) ++ c.closed ++ c.closing

theorem places_closed (c : Custody) (n : Nat) : { c with closed := c.closed ++ [n] }.places.Perm (n :: c.places) := by
  simp only [places, List.append_assoc, List.singleton_append]
  rw [← List.append_assoc, ← List.append_assoc (c.link.toList.map _)]
  exact List.perm_middle

theorem places_closing (c : Custody) (n : Nat) :
    { c with closing := c.closing ++ [n] }.places.Perm (n :: c.places) := by
  rw [places, places, ← List.append_assoc]
  exact List.perm_append_singleton ..

theorem places_of_link (hl : c.link = some l) : c.places = l.number :: { c with link := none }.places := by
  simp [places, hl]

theorem places_of_none (hl : c.link = none) (l : Link) : { c with link := some l }.places = l.number :: c.places := by
  simp [places, hl]

end Custody

/-- Every link that was handed over is in one place, and in no other. -/
def Accounted (s : Session) : Prop := s.custody.places.Perm (List.range s.custody.links)

theorem Accounted.step (ha : Accounted s) (h : Passage s e s') : Accounted s' := by
  have more : ((s.links :: s.custody.places).Perm (List.range (s.links + 1))) := by
    rw [List.range_succ]
    exact (ha.cons _).trans (List.perm_append_singleton ..).symm
  cases h with
  | kept h => rwa [Accounted, h]
  | closed n hp h =>
    -- The link is closed that was about to be.
    rw [Accounted, h]
    refine .trans ?_ ha
    simp only [Custody.places, List.append_assoc]
    exact (hp.symm.append_left _).append_left _
  | installed g hl h =>
    rw [Accounted, h]
    exact .trans (.of_eq (Custody.places_of_none (c := s.custody) hl _)) more
  | superseded hw h =>
    rw [Accounted, h]
    exact (Custody.places_closed ..).trans more
  | abandoned l hl hw h =>
    rw [Accounted, h]
    rw [Accounted, Custody.places_of_link hl] at ha
    exact (Custody.places_closing ..).trans ha
  | disconnected l hl hw h =>
    rw [Accounted, h]
    rw [Accounted, Custody.places_of_link hl] at ha
    exact (Custody.places_closed ..).trans ha

/-- How often a link was closed, with the times it is about to be. -/
def closings (s : Session) (n : Nat) : Nat := (s.closed ++ s.closing).count n

namespace Accounted

variable {n : Nat}

theorem number_lt (ha : Accounted s) (hl : s.link = some l) : l.number < s.links := by
  rw [Accounted, Custody.places_of_link hl] at ha
  exact List.mem_range.1 (ha.subset List.mem_cons_self)

theorem closings_of_link (ha : Accounted s) (hl : s.link = some l) : s.closings l.number = 0 := by
  have hnodup := ha.nodup_iff.2 List.nodup_range
  rw [Custody.places_of_link hl, List.nodup_cons] at hnodup
  exact List.count_eq_zero.2 (by simpa [Custody.places, custody] using hnodup.1)

theorem closings_of_lt (ha : Accounted s) (hn : n < s.links) (hi : ¬ s.Installs n) : s.closings n = 1 := by
  have hcount : s.custody.places.count n = (List.range s.links).count n := ha.count_eq n
  rw [List.count_eq_one_of_mem List.nodup_range (List.mem_range.2 hn), Custody.places, List.append_assoc,
    List.count_append] at hcount
  have hlink : (s.custody.link.toList.map (·.number)).count n = 0 := by
    refine List.count_eq_zero.2 fun hm => hi ?_
    obtain ⟨l, hl, hn⟩ := List.mem_map.1 hm
    exact ⟨l, Option.mem_toList.1 hl, hn⟩
  rw [hlink, Nat.zero_add] at hcount
  exact hcount

end Accounted
end Session
end DeskStream
