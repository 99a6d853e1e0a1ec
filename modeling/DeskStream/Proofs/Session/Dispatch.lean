import DeskStream.Proofs.Session.Aside
/-!
# What becomes of sends

A send is looked at, queued, numbered, sealed, written and over, each in a step of its own or in that
of another. What a step does to sends is written down in marks (`marks`), those of a run in a journal
(`journal`). `Dispatch` says what a step comes to for the sends, and with which marks: one of them
goes on, and the others stay where they are.
-/

namespace DeskStream

open Wire

/-- A message that a link took, for a send. -/
structure Delivery where
  send : Nat
  link : Link
  sequence : UInt32
  message : Bytes
  deriving Repr, DecidableEq

/-- A delivery as it stands in the record of what was written. -/
def Delivery.item (d : Delivery) : Nat × Bytes := (d.link.number, d.message)

/-- What becomes of a send. -/
inductive SendMark where
  /-- It has taken a number. -/
  | numbered (send : Nat) (sequence : UInt32)
  /-- A link has taken its message. -/
  | taken (d : Delivery)
  /-- It is over. -/
  | ended (send : Nat) (result : Except ClientError UInt32)
  deriving DecidableEq

namespace SendMark

def send : SendMark → Nat
  | numbered t _ | ended t _ => t
  | taken d => d.send

def number? : SendMark → Option (Nat × UInt32)
  | numbered t n => some (t, n)
  | _ => none

def delivery? : SendMark → Option Delivery
  | taken d => some d
  | _ => none

/-- Which sends took which numbers. -/
def numbers (log : List SendMark) : List (Nat × UInt32) := log.filterMap number?

/-- What links took. -/
def deliveries (log : List SendMark) : List Delivery := log.filterMap delivery?

/-- What links took for a send. -/
def deliveriesOf (t : Nat) (log : List SendMark) : List Delivery := (deliveries log).filter (·.send = t)

variable (t : Nat) (n : UInt32) (d : Delivery) (r : Except ClientError UInt32) (log more : List SendMark)

@[simp] theorem send_numbered : (numbered t n).send = t := rfl
@[simp] theorem send_taken : (taken d).send = d.send := rfl
@[simp] theorem send_ended : (ended t r).send = t := rfl

@[simp] theorem numbers_nil : numbers [] = [] := rfl
@[simp] theorem numbers_numbered : numbers (.numbered t n :: log) = (t, n) :: numbers log := rfl
@[simp] theorem numbers_taken : numbers (.taken d :: log) = numbers log := rfl
@[simp] theorem numbers_ended : numbers (.ended t r :: log) = numbers log := rfl

@[simp] theorem numbers_append : numbers (log ++ more) = numbers log ++ numbers more := List.filterMap_append

@[simp] theorem deliveries_nil : deliveries [] = [] := rfl
@[simp] theorem deliveries_numbered : deliveries (.numbered t n :: log) = deliveries log := rfl
@[simp] theorem deliveries_taken : deliveries (.taken d :: log) = d :: deliveries log := rfl
@[simp] theorem deliveries_ended : deliveries (.ended t r :: log) = deliveries log := rfl

@[simp] theorem deliveries_append : deliveries (log ++ more) = deliveries log ++ deliveries more :=
  List.filterMap_append

end SendMark

namespace Session

open SendMark

variable {s s' : Session} {m : Moment} {e : Event} {t : Nat}

/-! ## What happens to sends -/

/-- The turn of a queued packet: it is refused, or numbered and perhaps not sealed. -/
def turnMarks (s : Session) (m : Moment) (t : Nat) (kind : PacketKind) (payload : Bytes) : List SendMark :=
  match s.link with
  | none => [.ended t (.error .notConnected)]
  | some _ =>
    .numbered t s.sequence ::
      match s.message m ⟨kind, m.wall, s.sequence, payload⟩ with
      | .error e => [.ended t (.error (.crypto e))]
      | .ok _ => []

/-- The end of a write. -/
def writeMarks (d : Delivery) : Except TransportError Unit → List SendMark
  | .ok () => [.taken d, .ended d.send (.ok d.sequence)]
  | .error e => [.ended d.send (.error (if e.isLinkFailure then .sendFailed e else .transport e))]

/-- What a step does to the sends. -/
def marks (s : Session) (m : Moment) : Event → List SendMark
  | .run t =>
    match s.task? t with
    | some (.send ..) => if s.state.isConnected then [] else [.ended t (.error .notConnected)]
    | some (.queued _ kind payload) => if s.isWriting then [] else s.turnMarks m t kind payload
    | _ => []
  | .writeDone t result =>
    match s.task? t with
    | some (.write _ link sequence message) => writeMarks ⟨t, link, sequence, message⟩ result
    | _ => []
  | _ => []

theorem marks_writeDone_idle (h : ¬ ∃ origin l n message, s.task? t = some (.write origin l n message)) (m : Moment)
    (result : Except TransportError Unit) : s.marks m (.writeDone t result) = [] := by
  simp only [marks]
  split
  · exact absurd ⟨_, _, _, _, ‹_›⟩ h
  · rfl

/-- What a run does to the sends, in order. -/
def journal (s : Session) : List (Moment × Event) → List SendMark
  | [] => []
  | x :: events => s.marks x.1 x.2 ++ (s.step x.1 x.2).journal events

theorem journal_append (s : Session) (events more : List (Moment × Event)) :
    s.journal (events ++ more) = s.journal events ++ (s.run events).journal more := by
  induction events generalizing s with
  | nil => rfl
  | cons x events ih => simp [journal, ih, run]

/-- No activity has this number, and none will. -/
structure Gone (s : Session) (t : Nat) : Prop where
  absent : ∀ x ∈ s.tasks, x.1 ≠ t
  past : t < s.spawned

/-- What a step comes to, as far as sends go, with its marks. -/
inductive Dispatch (s : Session) (m : Moment) (s' : Session) : Event → List SendMark → Prop where
  | aside {e : Event} (h : Aside s s') : Dispatch s m s' e []
  /-- The numbers begin anew. -/
  | connect {t call : Nat} {peer : Peer} (h : s.Accepts t call peer) (ha : Around none s s')
    (hy : s'.tally = ⟨1, 0, s.written⟩) : Dispatch s m s' (.run t) []
  | wait {t : Nat} {origin : Origin} {kind : PacketKind} {payload : Bytes}
    (h : s.task? t = some (.send origin kind payload)) (h' : (t, .queued origin kind payload) ∈ s'.tasks)
    (ha : Around (some t) s s') (hy : s'.tally = s.tally) : Dispatch s m s' (.run t) []
  | refuse {t : Nat} {origin : Origin} {kind : PacketKind} {payload : Bytes}
    (h : s.task? t = some (.send origin kind payload) ∨ s.task? t = some (.queued origin kind payload))
    (h' : s'.Gone t) (ha : Around (some t) s s') (hy : s'.tally = s.tally) :
    Dispatch s m s' (.run t) [.ended t (.error .notConnected)]
  | unsealed {t : Nat} {origin : Origin} {kind : PacketKind} {payload : Bytes} (why : CryptoError)
    (h : s.task? t = some (.queued origin kind payload)) (hw : s.isWriting = false)
    (h' : s'.Gone t) (ha : Around (some t) s s')
    (hy : s'.tally = { s.tally with sequence := s.sequence + 1 }) :
    Dispatch s m s' (.run t) [.numbered t s.sequence, .ended t (.error (.crypto why))]
  | hand {t : Nat} {origin : Origin} {kind : PacketKind} {payload : Bytes} {l : Link} {message : Bytes}
    (h : s.task? t = some (.queued origin kind payload)) (hw : s.isWriting = false) (hl : s.link = some l)
    (hm : s.message m ⟨kind, m.wall, s.sequence, payload⟩ = .ok message)
    (h' : (t, .write origin l s.sequence message) ∈ s'.tasks) (ha : Around (some t) s s')
    (hy : s'.tally = { s.tally with sequence := s.sequence + 1 }) :
    Dispatch s m s' (.run t) [.numbered t s.sequence]
  | taken {t : Nat} {origin : Origin} {l : Link} {n : UInt32} {message : Bytes}
    (h : s.task? t = some (.write origin l n message)) (h' : s'.Gone t) (ha : Around (some t) s s')
    (hy : s'.tally = { s.tally with
      sent := s.tally.sent + 1, written := s.written ++ [(l.number, message)] }) :
    Dispatch s m s' (.writeDone t (.ok ())) [.taken ⟨t, l, n, message⟩, .ended t (.ok n)]
  | failed {t : Nat} {origin : Origin} {l : Link} {n : UInt32} {message : Bytes} {error : TransportError}
    (why : ClientError) (hne : why ≠ .notConnected) (h : s.task? t = some (.write origin l n message))
    (h' : s'.Gone t) (ha : Around (some t) s s') (hy : s'.tally = s.tally) :
    Dispatch s m s' (.writeDone t (.error error)) [.ended t (.error why)]

/-! ## Each step -/

@[simp] theorem tally_concludeSend (s : Session) (t : Nat) (origin : Origin) (r : Except ClientError UInt32) :
    (s.concludeSend t origin r).tally = s.tally := by
  cases origin with
  | call | echo => cases r <;> rfl
  | auth call => cases call <;> rfl

theorem Around.concludeSend (s : Session) (t : Nat) (origin : Origin) (r : Except ClientError UInt32) :
    Around (some t) s (s.concludeSend t origin r) := by
  have hc := concludeSend_core s t origin r
  have ht : (s.concludeSend t origin r).tasks = (s.erase t).tasks := congrArg Core.tasks hc
  have hs : (s.concludeSend t origin r).spawned = (s.erase t).spawned := congrArg Core.spawned hc
  exact (Around.erase_self s t).trans (.of_tasks ht hs)

theorem gone_concludeSend (hn : s.Numbered) {task : Task} (h : s.task? t = some task) (origin : Origin)
    (r : Except ClientError UInt32) : (s.concludeSend t origin r).Gone t := by
  have hc := concludeSend_core s t origin r
  refine ⟨fun x hx => ?_, ?_⟩
  · rw [show (s.concludeSend t origin r).tasks = _ from congrArg Core.tasks hc] at hx
    exact (mem_erase.1 hx).2
  · rw [show (s.concludeSend t origin r).spawned = _ from congrArg Core.spawned hc]
    exact hn.lt _ (task?_mem h)

theorem Accepts.tally {call : Nat} {peer : Peer} (h : s.Accepts t call peer) (hi : Inv s) (m : Moment) :
    (s.step m (.run t)).tally = ⟨1, 0, s.written⟩ := by
  rw [h.step hi m]
  have hr : (s.accepted peer).Rests t := hi.numbered.rests h.task rfl
  exact (aside_dial hr ..).tally

/-- A step without marks of its own. -/
theorem dispatch_other (hi : Inv s) (m : Moment)
    (hs : ∀ t task, e = .run t ∨ (∃ r, e = .writeDone t r) → s.task? t = some task → task.isSending = false) :
    Dispatch s m (s.step m e) e [] := by
  by_cases h : ∃ t call peer, e = .run t ∧ s.Accepts t call peer
  · obtain ⟨t, call, peer, rfl, h⟩ := h
    exact .connect h (h.around hi m) (h.tally hi m)
  · exact .aside (aside_step hi m hs fun t call peer he ha => h ⟨t, call, peer, he, ha⟩)

theorem dispatch_beginSend (hi : Inv s) (m : Moment) {origin : Origin} {kind : PacketKind} {payload : Bytes}
    (h : s.task? t = some (.send origin kind payload)) :
    Dispatch s m (s.step m (.run t)) (.run t) (s.marks m (.run t)) := by
  simp only [step, marks, h, resume, beginSend]
  split
  · exact .wait h (mem_put_self h _) (.put_self ..) rfl
  · exact .refuse (.inl h) (gone_concludeSend hi.numbered h ..) (.concludeSend ..) (tally_concludeSend ..)

/-- The turn of a packet while a link is installed. -/
theorem beginWrite_of_link {l : Link} (hl : s.link = some l) (m : Moment) (t : Nat) (origin : Origin)
    (kind : PacketKind) (payload : Bytes) :
    s.beginWrite m t origin kind payload =
      match s.message m ⟨kind, m.wall, s.sequence, payload⟩ with
      | .error e => { s with sequence := s.sequence + 1 }.concludeSend t origin (.error (.crypto e))
      | .ok message => { s with sequence := s.sequence + 1 }.put t (.write origin l s.sequence message) := by
  unfold beginWrite
  split
  · simp_all
  · rename_i l' hl'
    obtain rfl : l' = l := Option.some.inj (hl'.symm.trans hl)
    rfl

theorem dispatch_beginWrite (hi : Inv s) (m : Moment) {origin : Origin} {kind : PacketKind} {payload : Bytes}
    (h : s.task? t = some (.queued origin kind payload)) :
    Dispatch s m (s.step m (.run t)) (.run t) (s.marks m (.run t)) := by
  cases hw : s.isWriting with
  | true =>
    have he : s.step m (.run t) = s ∧ s.marks m (.run t) = [] := by simp [step, marks, h, resume, hw]
    rw [he.1, he.2]
    exact .aside (.refl s)
  | false =>
    have he : s.step m (.run t) = s.beginWrite m t origin kind payload ∧
        s.marks m (.run t) = s.turnMarks m t kind payload := by simp [step, marks, h, resume, hw]
    rw [he.1, he.2]
    cases hl : s.link with
    | none =>
      simp only [beginWrite, turnMarks, hl]
      exact .refuse (.inr h) (gone_concludeSend hi.numbered h ..) (.concludeSend ..) (tally_concludeSend ..)
    | some l =>
      let s₁ := { s with sequence := s.sequence + 1 }
      have hn : s₁.Numbered := ⟨hi.numbered.nodup, hi.numbered.lt⟩
      have ha : Around (some t) s s₁ := .of_tasks rfl rfl
      rw [turnMarks, hl, beginWrite_of_link hl]
      cases hm : s.message m ⟨kind, m.wall, s.sequence, payload⟩ with
      | error why =>
        dsimp only
        exact .unsealed why h hw (gone_concludeSend hn h ..) (ha.trans (.concludeSend s₁ ..))
          (tally_concludeSend s₁ ..)
      | ok message =>
        dsimp only
        exact .hand h hw hl hm (mem_put_self (s := s₁) h _) (ha.trans (.put_self s₁ ..)) rfl

theorem dispatch_writeDone (hi : Inv s) (m : Moment) {origin : Origin} {l : Link} {n : UInt32} {message : Bytes}
    (h : s.task? t = some (.write origin l n message)) (result : Except TransportError Unit) :
    Dispatch s m (s.step m (.writeDone t result)) (.writeDone t result) (s.marks m (.writeDone t result)) := by
  simp only [step, marks, h, writeDone]
  cases result with
  | ok _ =>
    let s₁ := { s with
      failures := 0
      stats := { s.stats with packetsSent := s.stats.packetsSent + 1 }
      written := s.written ++ [(l.number, message)] }
    have hn : s₁.Numbered := ⟨hi.numbered.nodup, hi.numbered.lt⟩
    have ha : Around (some t) s s₁ := .of_tasks rfl rfl
    exact .taken h (gone_concludeSend hn h ..) (ha.trans (.concludeSend s₁ ..)) (tally_concludeSend s₁ ..)
  | error why =>
    let s₁ := { s with stats := { s.stats with sendFailures := s.stats.sendFailures + 1 } }
    have hi₁ : Inv s₁ := hi.of_core (by rfl)
    have h₁ : Aside s s₁ := .of_tasks rfl rfl rfl
    simp only [writeMarks]
    split
    · -- The write is still there when its link is dropped.
      have h₂ : Aside s (s₁.countFailure l.generation) := h₁.trans (aside_countFailure ..)
      have hn := (kept_countFailure hi₁ l.generation).inv.numbered
      have ht := hn.task?_of_mem (h₂.around.kept _ (task?_mem h) (by simp) rfl)
      exact .failed _ (by simp) h (gone_concludeSend hn ht ..) ((h₂.around.except t).trans (.concludeSend ..))
        ((tally_concludeSend ..).trans h₂.tally)
    · exact .failed _ (by simp) h (gone_concludeSend hi₁.numbered h ..)
        ((h₁.around.except t).trans (.concludeSend s₁ ..)) (tally_concludeSend s₁ ..)

theorem dispatch_step (hi : Inv s) (m : Moment) (e : Event) : Dispatch s m (s.step m e) e (s.marks m e) := by
  cases e with
  | run t =>
    cases h : s.task? t with
    | none =>
      have he : s.step m (.run t) = s ∧ s.marks m (.run t) = [] := by simp [step, marks, h]
      rw [he.1, he.2]
      exact .aside (.refl s)
    | some task =>
      cases task with
      | send => exact dispatch_beginSend hi m h
      | queued => exact dispatch_beginWrite hi m h
      | write =>
        have he : s.step m (.run t) = s ∧ s.marks m (.run t) = [] := by simp [step, marks, h, resume]
        rw [he.1, he.2]
        exact .aside (.refl s)
      | connect | disconnect | dial | join | timer | close | listen =>
        have hm : s.marks m (.run t) = [] := by simp [marks, h]
        rw [hm]
        refine dispatch_other hi m ?_
        rintro _ task (⟨⟨⟩⟩ | ⟨_, ⟨⟩⟩) ht
        rw [Option.some.inj (ht.symm.trans h)]
        rfl
  | writeDone t result =>
    by_cases h : ∃ origin l n message, s.task? t = some (.write origin l n message)
    · obtain ⟨origin, l, n, message, h⟩ := h
      exact dispatch_writeDone hi m h result
    · rw [step_writeDone_idle h, marks_writeDone_idle h]
      exact .aside (.refl s)
  | callConnect | callDisconnect | callSend | dialDone | intervalOver | receive | linkEnded | tick | work | pop
    | setVolume | authenticate | logout | letGo | free =>
    exact dispatch_other hi m (by simp)

/-- Numbers are not used again. -/
theorem spawned_le_step (hi : Inv s) (m : Moment) (e : Event) : s.spawned ≤ (s.step m e).spawned := by
  have hd := dispatch_step hi m e
  generalize s.marks m e = marks at hd
  cases hd with
  | aside h => exact h.around.spawned
  | connect _ ha | wait _ _ ha | refuse _ _ ha | unsealed _ _ _ _ ha | hand _ _ _ _ _ ha | taken _ _ ha
  | failed _ _ _ _ ha => exact ha.spawned

end Session
end DeskStream
