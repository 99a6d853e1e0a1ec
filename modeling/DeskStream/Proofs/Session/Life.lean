import DeskStream.Proofs.Security.Sealing
import DeskStream.Proofs.Session.Dispatch
import DeskStream.Proofs.Wire.Packet
/-!
# The life of a send

A send waits, is written, and is over, one way or another; where it stands after a run and which marks
it has left determine each other (`Life`). When it is over its marks say how it ended and whether a link
took its message, so that its result can be relied on (`Life.answers`).
-/

namespace DeskStream.Session

open Wire SendMark

variable {start s s' : Session} {m : Moment} {e : Event} {t : Nat} {kind : PacketKind} {payload : Bytes}
  {events : List (Moment × Event)} {log : List SendMark} {but : Option Nat}

/-! ## Messages -/

/-- A delivery is handed to the installed link under the next number, and its message opens and reads
as a packet of this number, kind and payload. -/
structure Hands (s : Session) (m : Moment) (kind : PacketKind) (payload : Bytes) (d : Delivery) : Prop where
  link : s.link = some d.link
  sequence : s.sequence = d.sequence
  opens : ∃ plain, s.plaintext d.message = .ok plain ∧
    Packet.decode plain = .ok ⟨kind, m.wall, d.sequence, payload⟩

theorem plaintext_of_message {p : Packet} {message : Bytes} (h : s.message m p = .ok message) :
    s.plaintext message = .ok p.encode := by
  unfold Session.message at h
  unfold plaintext
  split at h
  · rename_i he
    rw [if_pos he]
    exact KeyRing.decrypt_encrypt h
  · rename_i he
    rw [if_neg he, ← h]

/-- In a run, a send handed this delivery to a link. -/
def HandedIn (start : Session) (events : List (Moment × Event)) (kind : PacketKind) (payload : Bytes)
    (d : Delivery) : Prop :=
  ∃ before m after, events = before ++ (m, .run d.send) :: after ∧ (start.run before).Hands m kind payload d

theorem HandedIn.append {d : Delivery} (h : start.HandedIn events kind payload d) (more : List (Moment × Event)) :
    start.HandedIn (events ++ more) kind payload d := by
  obtain ⟨before, m, after, rfl, h⟩ := h
  exact ⟨before, m, after ++ more, by simp, h⟩

/-! ## The life of a send -/

/-- Where a send stands after a run, and the marks it has left. -/
inductive Life (start : Session) (events : List (Moment × Event)) (t : Nat) (kind : PacketKind) (payload : Bytes) :
    Prop where
  | waiting {origin : Origin}
    (h : (start.run events).task? t = some (.send origin kind payload) ∨
      (start.run events).task? t = some (.queued origin kind payload))
    (hm : (start.journal events).filter (·.send = t) = [])
  | writing {origin : Origin} {l : Link} {n : UInt32} {message : Bytes}
    (h : (start.run events).task? t = some (.write origin l n message))
    (hh : start.HandedIn events kind payload ⟨t, l, n, message⟩)
    (hm : (start.journal events).filter (·.send = t) = [.numbered t n])
  | refused (h : (start.run events).Gone t)
    (hm : (start.journal events).filter (·.send = t) = [.ended t (.error .notConnected)])
  | failed (n : UInt32) {why : ClientError} (hne : why ≠ .notConnected) (h : (start.run events).Gone t)
    (hm : (start.journal events).filter (·.send = t) = [.numbered t n, .ended t (.error why)])
  | sent {d : Delivery} (h : (start.run events).Gone t) (hd : d.send = t) (hh : start.HandedIn events kind payload d)
    (hm : (start.journal events).filter (·.send = t) = [.numbered t d.sequence, .taken d, .ended t (.ok d.sequence)])

theorem Around.task? (ha : Around but s s') (hn : s'.Numbered) (hb : but ≠ some t) {task : Task}
    (hs : task.isSending) (h : s.task? t = some task) : s'.task? t = some task :=
  hn.task?_of_mem (ha.kept _ (task?_mem h) hb hs)

theorem Around.gone (ha : Around but s s') (h : s.Gone t) : s'.Gone t := by
  refine ⟨?_, Nat.lt_of_lt_of_le h.past ha.spawned⟩
  intro x hx hxt
  rcases ha.numbers x hx with hle | ⟨y, hy, hyx⟩
  · have := h.past
    omega
  · exact h.absent y hy (hyx.trans hxt)

theorem Gone.task? (h : s.Gone t) : s.task? t = none := by
  cases ht : s.task? t with
  | none => rfl
  | some task => exact absurd rfl (h.absent _ (task?_mem ht))

theorem run_concat (start : Session) (events : List (Moment × Event)) (m : Moment) (e : Event) :
    start.run (events ++ [(m, e)]) = (start.run events).step m e := by
  simp [run]

theorem journal_concat (start : Session) (events : List (Moment × Event)) (m : Moment) (e : Event) :
    start.journal (events ++ [(m, e)]) = start.journal events ++ (start.run events).marks m e := by
  simp [journal_append, journal]

/-- The marks of a send after one more step. -/
theorem marksOf_concat (start : Session) (events : List (Moment × Event)) (m : Moment) (e : Event) (t : Nat) :
    (start.journal (events ++ [(m, e)])).filter (·.send = t) =
      (start.journal events).filter (·.send = t) ++ ((start.run events).marks m e).filter (·.send = t) := by
  rw [journal_concat, List.filter_append]

/-- A step that is about another send, or none. -/
theorem Life.elsewhere (hl : Life start events t kind payload) (hn : ((start.run events).step m e).Numbered)
    (hb : but ≠ some t) (ha : Around but (start.run events) ((start.run events).step m e))
    (hm : ((start.run events).marks m e).filter (·.send = t) = []) :
    Life start (events ++ [(m, e)]) t kind payload := by
  have hlog := marksOf_concat start events m e t
  rw [hm, List.append_nil] at hlog
  rw [← run_concat] at hn ha
  cases hl with
  | waiting h hl => exact .waiting (h.imp (ha.task? hn hb rfl) (ha.task? hn hb rfl)) (hlog.trans hl)
  | writing h hh hl => exact .writing (ha.task? hn hb rfl h) (hh.append _) (hlog.trans hl)
  | refused h hl => exact .refused (ha.gone h) (hlog.trans hl)
  | failed n hne h hl => exact .failed n hne (ha.gone h) (hlog.trans hl)
  | sent h hd hh hl => exact .sent (ha.gone h) hd (hh.append _) (hlog.trans hl)

theorem Life.of_waiting (hl : Life start events t kind payload) {origin : Origin} {kind' : PacketKind}
    {payload' : Bytes} (h : (start.run events).task? t = some (.send origin kind' payload') ∨
      (start.run events).task? t = some (.queued origin kind' payload')) :
    kind' = kind ∧ payload' = payload ∧ (start.journal events).filter (·.send = t) = [] := by
  cases hl with
  | waiting h' hm => rcases h with h | h <;> rcases h' with h' | h' <;> cases h.symm.trans h' <;> exact ⟨rfl, rfl, hm⟩
  | writing h' => rcases h with h | h <;> cases h.symm.trans h'
  | refused h' | failed _ _ h' | sent h' => rcases h with h | h <;> cases h.symm.trans h'.task?

theorem Life.of_writing (hl : Life start events t kind payload) {origin : Origin} {l : Link} {n : UInt32}
    {message : Bytes} (h : (start.run events).task? t = some (.write origin l n message)) :
    start.HandedIn events kind payload ⟨t, l, n, message⟩ ∧
      (start.journal events).filter (·.send = t) = [.numbered t n] := by
  cases hl with
  | waiting h' => rcases h' with h' | h' <;> cases h.symm.trans h'
  | writing h' hh hm => cases h.symm.trans h'; exact ⟨hh, hm⟩
  | refused h' | failed _ _ h' | sent h' => cases h.symm.trans h'.task?

/-- A step that is neither the turn of this send nor the end of its write. -/
theorem Dispatch.spares {marks : List SendMark} (hd : Dispatch s m s' e marks) (hr : e ≠ .run t)
    (hw : ∀ result, e ≠ .writeDone t result) :
    ∃ but, but ≠ some t ∧ Around but s s' ∧ marks.filter (·.send = t) = [] := by
  cases hd with
  | aside h => exact ⟨none, by simp, h.around, rfl⟩
  | connect _ ha => exact ⟨none, by simp, ha, rfl⟩
  | wait _ _ ha | refuse _ _ ha | unsealed _ _ _ _ ha | hand _ _ _ _ _ ha =>
    have hu : _ ≠ t := fun hu => hr (congrArg Event.run hu)
    exact ⟨some _, by simpa using hu, ha, by simp [hu]⟩
  | taken _ _ ha | failed _ _ _ _ ha =>
    have hu : _ ≠ t := fun hu => hw _ (congrArg (Event.writeDone · _) hu)
    exact ⟨some _, by simpa using hu, ha, by simp [hu]⟩

/-- The turn of this send. -/
theorem Life.turn (hl : Life start events t kind payload) (hi : Inv (start.run events)) (m : Moment) :
    Life start (events ++ [(m, .run t)]) t kind payload := by
  have hlog := marksOf_concat start events m (.run t) t
  have hn := (inv_step hi m (.run t)).numbered
  have hd := dispatch_step hi m (.run t)
  have he : start.run (events ++ [(m, .run t)]) = (start.run events).step m (.run t) := run_concat ..
  have anyone : none ≠ some t := by simp
  generalize hm : (start.run events).marks m (.run t) = marks at hd hlog
  cases hd with
  | aside h => exact hl.elsewhere hn anyone h.around (by simp [hm])
  | connect _ ha => exact hl.elsewhere hn anyone ha (by simp [hm])
  | wait h h' =>
    obtain ⟨rfl, rfl, hw⟩ := hl.of_waiting (.inl h)
    exact .waiting (.inr (he ▸ hn.task?_of_mem h')) (by rw [hlog, hw]; rfl)
  | refuse h h' =>
    obtain ⟨rfl, rfl, hw⟩ := hl.of_waiting h
    exact .refused (he ▸ h') (by rw [hlog, hw]; simp)
  | unsealed why h _ h' =>
    obtain ⟨rfl, rfl, hw⟩ := hl.of_waiting (.inr h)
    have hne : ClientError.crypto why ≠ .notConnected := by simp
    exact .failed (start.run events).sequence hne (he ▸ h') (by rw [hlog, hw]; simp)
  | hand h _ hk hmsg h' =>
    -- The message is that of the packet, so opening and reading gives it back.
    obtain ⟨rfl, rfl, hw⟩ := hl.of_waiting (.inr h)
    refine .writing (he ▸ hn.task?_of_mem h') ⟨events, m, [], rfl, ?_⟩ (by rw [hlog, hw]; simp)
    exact ⟨hk, rfl, _, plaintext_of_message hmsg, Packet.decode_encode _⟩

/-- The end of this send's write. -/
theorem Life.writeDone (hl : Life start events t kind payload) (hi : Inv (start.run events)) (m : Moment)
    (result : Except TransportError Unit) : Life start (events ++ [(m, .writeDone t result)]) t kind payload := by
  have hlog := marksOf_concat start events m (.writeDone t result) t
  have hn := (inv_step hi m (.writeDone t result)).numbered
  have hd := dispatch_step hi m (.writeDone t result)
  have he : start.run (events ++ [(m, .writeDone t result)]) = (start.run events).step m (.writeDone t result) :=
    run_concat ..
  have anyone : none ≠ some t := by simp
  generalize hm : (start.run events).marks m (.writeDone t result) = marks at hd hlog
  cases hd with
  | aside h => exact hl.elsewhere hn anyone h.around (by simp [hm])
  | @taken _ _ l n message h h' =>
    obtain ⟨hh, hw⟩ := hl.of_writing h
    exact .sent (d := ⟨t, l, n, message⟩) (he ▸ h') rfl (hh.append _) (by rw [hlog, hw]; simp)
  | @failed _ _ _ n _ _ _ hne h h' =>
    obtain ⟨-, hw⟩ := hl.of_writing h
    exact .failed n hne (he ▸ h') (by rw [hlog, hw]; simp)

/-- One step in the life of a send. -/
theorem Life.step (hl : Life start events t kind payload) (hi : Inv (start.run events)) (m : Moment) (e : Event) :
    Life start (events ++ [(m, e)]) t kind payload := by
  by_cases hr : e = .run t
  · subst hr
    exact hl.turn hi m
  · by_cases hw : ∃ result, e = .writeDone t result
    · obtain ⟨result, rfl⟩ := hw
      exact hl.writeDone hi m result
    · obtain ⟨but, hb, ha, hm⟩ := (dispatch_step hi m e).spares hr fun result he => hw ⟨result, he⟩
      exact hl.elsewhere (inv_step hi m e).numbered hb ha hm

theorem Life.run (hl : Life start events t kind payload) (hi : Inv (start.run events))
    (more : List (Moment × Event)) : Life start (events ++ more) t kind payload := by
  induction more generalizing events with
  | nil => simpa using hl
  | cons x more ih =>
    have := ih (hl.step hi x.1 x.2) (by rw [run_concat]; exact inv_step hi x.1 x.2)
    rwa [List.append_assoc] at this

/-! ## What a send answers -/

theorem mem_marksOf {mark : SendMark} : mark ∈ log.filter (·.send = t) ↔ mark ∈ log ∧ mark.send = t := by
  simp

theorem deliveriesOf_eq (t : Nat) (log : List SendMark) :
    deliveriesOf t log = deliveries (log.filter (·.send = t)) := by
  induction log with
  | nil => rfl
  | cons mark log ih =>
    rw [deliveriesOf] at ih ⊢
    by_cases hm : mark.send = t
    · cases mark <;> simp_all
    · cases mark <;> simp_all

/-- What a result says about the send that has it. -/
structure Answers (start : Session) (events : List (Moment × Event)) (t : Nat) (kind : PacketKind) (payload : Bytes)
    (r : Except ClientError UInt32) : Prop where
  /-- A send that succeeds has put one message on a link, the one that was installed when it was handed over. -/
  delivered : ∀ n, r = .ok n → ∃ d, deliveriesOf t (start.journal events) = [d] ∧ d.sequence = n ∧
    start.HandedIn events kind payload d
  /-- One that fails has put nothing on any. -/
  undelivered : ∀ why, r = .error why → deliveriesOf t (start.journal events) = []
  /-- One that is refused has no number. -/
  unnumbered : r = .error .notConnected → ∀ n, (t, n) ∉ numbers (start.journal events)

theorem Life.answers (hl : Life start events t kind payload) {r : Except ClientError UInt32}
    (h : .ended t r ∈ start.journal events) : Answers start events t kind payload r := by
  have hf : SendMark.ended t r ∈ (start.journal events).filter (·.send = t) := mem_marksOf.2 ⟨h, rfl⟩
  have hnum : ∀ n, (t, n) ∈ numbers (start.journal events) →
      SendMark.numbered t n ∈ (start.journal events).filter (·.send = t) := by
    intro n hn
    obtain ⟨mark, hm, he⟩ := List.mem_filterMap.1 hn
    cases mark <;> simp only [number?, Option.some.injEq, Prod.mk.injEq, reduceCtorEq] at he
    obtain ⟨rfl, rfl⟩ := he
    exact mem_marksOf.2 ⟨hm, rfl⟩
  have hdel := deliveriesOf_eq t (start.journal events)
  -- The marks of a send that is over are known, and one of them is the result.
  cases hl with
  | waiting _ hm | writing _ _ hm => simp [hm] at hf
  | refused _ hm =>
    rw [hm] at hf hdel hnum
    simp only [List.mem_singleton, SendMark.ended.injEq, true_and] at hf
    subst hf
    exact ⟨by simp, fun _ _ => hdel, fun _ n hn => by simpa using hnum n hn⟩
  | failed n hne _ hm =>
    rw [hm] at hf hdel hnum
    obtain rfl : r = .error _ := by simpa using hf
    exact ⟨by simp, fun _ _ => hdel, fun he => absurd (by simpa using he) hne⟩
  | @sent d _ hd hh hm =>
    rw [hm] at hf hdel hnum
    obtain rfl : r = .ok d.sequence := by simpa using hf
    refine ⟨?_, by simp, by simp⟩
    rintro n ⟨⟩
    exact ⟨d, hdel, rfl, hh⟩

end DeskStream.Session
