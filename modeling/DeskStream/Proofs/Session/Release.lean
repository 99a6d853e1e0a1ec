import DeskStream.Proofs.Session.Custody
import DeskStream.Proofs.Session.Outgoing
/-!
# Every link is released once

A link that was handed over stays installed until it leaves the session, in one of four ways (`Leaves`).
From then on it is closed once, or about to be, its receive loop takes nothing, and no message is handed
to it (`links_released`).

A message that was being written when the link left is not called back, and the link may take it even after it has
been closed (`taken_after_loss`). Nothing is written to a link that has left exactly if there was no such message.
-/

namespace DeskStream.Session

open Wire

variable {start s s' left now : Session} {m : Moment} {e : Event} {n : Nat} {message : Bytes}
  {events : List (Moment × Event)}

/-! ## What is handed to a link and what it takes -/

/-- The messages that a link has taken. -/
def writtenTo (s : Session) (n : Nat) : List Bytes := (s.written.filter (·.1 = n)).map (·.2)

/-- A message is handed to the installed link only. -/
theorem installs_of_handed_step (hi : Inv s) (m : Moment) (e : Event) (h : (s.step m e).Handed n message) :
    s.Handed n message ∨ s.Installs n := by
  obtain ⟨t, origin, l, sequence, hx, hl⟩ := h
  rcases (dispatch_step hi m e).begun (inv_step hi m e).numbered hx rfl with hx | ⟨-, -, -, h⟩
  · exact .inl ⟨t, origin, l, sequence, hx, hl⟩
  · obtain ⟨_, _, _, l', _, -, hl', -, hw⟩ := h
    cases hw
    exact .inr ⟨l, hl', hl⟩

/-- What a link takes in a step was the one message being written. -/
theorem written_step_cases (hi : Inv s) (ho : Orderly s) (m : Moment) (e : Event) :
    (s.step m e).written = s.written ∨
      ∃ link message, s.Handed link message ∧ (s.step m e).written = s.written ++ [(link, message)] ∧
        ∀ link message, ¬ (s.step m e).Handed link message := by
  have hw := written_step hi m e
  have hn := (inv_step hi m e).numbered
  have hd := dispatch_step hi m e
  generalize s.step m e = s', s.marks m e = marks at hw hn hd ⊢
  cases id hd with
  | @taken t origin l sequence message h h' =>
    refine .inr ⟨l.number, message, ⟨t, origin, l, sequence, task?_mem h, rfl⟩, hw, ?_⟩
    rintro link other ⟨u, origin', k, sequence', hx, -⟩
    -- It would have been written beside the message that was taken.
    have hx' := hd.write_before hn (by simp) _ hx rfl
    have hu := ho.one _ hx' _ (task?_mem h) rfl rfl
    exact h'.absent _ hx (congrArg Prod.fst hu)
  | aside | connect | wait | refuse | unsealed | hand | failed => exact .inl (by simpa using hw)

/-! ## What every step of a held session keeps -/

structure Sound (s : Session) : Prop where
  inv : Inv s
  orderly : Orderly s
  settled : Settled s
  accounted : Accounted s
  /-- A message is under way only to a link that was handed over. -/
  known : ∀ n message, s.Handed n message → n < s.links

theorem Sound.passage (h : Sound s) (m : Moment) (he : e ≠ .letGo) : Passage s e (s.step m e) :=
  passage_step h.inv h.settled m he

theorem Sound.step (h : Sound s) (m : Moment) (he : e ≠ .letGo) : Sound (s.step m e) where
  inv := inv_step h.inv m e
  orderly := h.orderly.step h.inv m e
  settled := h.settled.step h.orderly h.inv m e
  accounted := h.accounted.step (h.passage m he)
  known n message hh := by
    refine Nat.lt_of_lt_of_le ?_ (h.passage m he).links_le
    rcases installs_of_handed_step h.inv m e hh with hh | ⟨l, hl, rfl⟩
    · exact h.known n message hh
    · exact h.accounted.number_lt hl

theorem Sound.run (h : Sound s) (hold : ∀ x ∈ events, x.2 ≠ .letGo) : Sound (s.run events) :=
  run_keeps (P := Sound) (A := (· ≠ .letGo)) (fun _ m _ he h => h.step m he) hold h

theorem sound_ofConfig (config : SessionConfig) (ring : KeyRing) (format : PcmFormat) :
    Sound (ofConfig config ring format) where
  inv := (bare_ofConfig config ring format).inv
  orderly := orderly_ofConfig config ring format
  settled := fun _ _ _ _ _ hx => nomatch hx
  accounted := .refl _
  known := fun _ _ ⟨_, _, _, _, hx, _⟩ => nomatch hx

/-! ## A link that has left -/

/-- What becomes of a link that has left the session, some time later. -/
structure Released (n : Nat) (left now : Session) : Prop where
  uninstalled : ¬ now.Installs n
  /-- It has been closed once, or is about to be. -/
  once : now.closings n = 1
  /-- Its receive loop takes no message, and no news of its end. -/
  deaf : ∀ u l cancelled, now.task? u = some (.listen l cancelled) → l.number = n →
    (∀ m message, now.step m (.receive u message) = now) ∧ ∀ m reason, now.step m (.linkEnded u reason) = now
  /-- No more messages are handed to it. -/
  handed : ∀ message, now.Handed n message → left.Handed n message
  /-- It has taken nothing since it left, but perhaps the one message that was being written. -/
  written : now.writtenTo n = left.writtenTo n ∨
    ∃ message, left.Handed n message ∧ now.writtenTo n = left.writtenTo n ++ [message] ∧
      ∀ message, ¬ now.Handed n message

/-- Only the installed link is listened to. -/
theorem deaf_of_uninstalled (hi : Inv s) (h : ¬ s.Installs n) {u : Nat} {l : Link} {cancelled : Bool}
    (hu : s.task? u = some (.listen l cancelled)) (hl : l.number = n) :
    (∀ m message, s.step m (.receive u message) = s) ∧ ∀ m reason, s.step m (.linkEnded u reason) = s := by
  cases cancelled with
  | false => exact absurd ⟨l, hi.heard u l (task?_mem hu), hl⟩ h
  | true => exact ⟨fun m message => by simp only [step, hu], fun m reason => by simp only [step, hu]⟩

theorem released_refl (hs : Sound s) (hn : n < s.links) (h : ¬ s.Installs n) : Released n s s where
  uninstalled := h
  once := hs.accounted.closings_of_lt hn h
  deaf _ _ _ := deaf_of_uninstalled hs.inv h
  handed _ h := h
  written := .inl rfl

theorem Passage.not_installs (hp : Passage s e s') (hn : n < s.links) (h : ¬ s.Installs n) : ¬ s'.Installs n := by
  rintro ⟨l, hl, rfl⟩
  rcases hp.link hl with hl | hl
  · exact h ⟨l, hl, rfl⟩
  · omega

theorem Released.step (h : Released n left now) (hs : Sound now) (hn : n < now.links) (m : Moment)
    (he : e ≠ .letGo) : Released n left (now.step m e) := by
  have hp := hs.passage m he
  have hs' := hs.step m he
  have hi' := hp.not_installs hn h.uninstalled
  -- Messages are handed to the installed link, which is another.
  have handed : ∀ message, (now.step m e).Handed n message → now.Handed n message := fun message hh =>
    (installs_of_handed_step hs.inv m e hh).resolve_right h.uninstalled
  refine ⟨hi', hs'.accounted.closings_of_lt (Nat.lt_of_lt_of_le hn hp.links_le) hi', ?_, ?_, ?_⟩
  · exact fun _ _ _ => deaf_of_uninstalled hs'.inv hi'
  · exact fun message hh => h.handed message (handed message hh)
  · rcases written_step_cases hs.inv hs.orderly m e with hw | ⟨link, message, hh, hw, hnone⟩
    · have hto : (now.step m e).writtenTo n = now.writtenTo n := by rw [writtenTo, writtenTo, hw]
      rw [hto]
      refine h.written.imp_right fun ⟨message, hl, he, hn⟩ => ⟨message, hl, he, fun message hh => ?_⟩
      exact hn message (handed message hh)
    · -- What was under way is taken, and nothing is under way any more.
      by_cases hlink : link = n
      · subst hlink
        have hto : (now.step m e).writtenTo link = now.writtenTo link ++ [message] := by
          simp [writtenTo, hw]
        rcases h.written with hsame | ⟨_, _, _, hno⟩
        · exact .inr ⟨message, h.handed message hh, by rw [hto, hsame], hnone link⟩
        · exact absurd hh (hno message)
      · have hto : (now.step m e).writtenTo n = now.writtenTo n := by
          simp [writtenTo, hw, hlink]
        rw [hto]
        exact h.written.imp_right fun ⟨message, hl, he, hn⟩ => ⟨message, hl, he, hnone n⟩

theorem Released.run (h : Released n left now) (hs : Sound now) (hn : n < now.links)
    (hold : ∀ x ∈ events, x.2 ≠ .letGo) : Released n left (now.run events) := by
  induction events generalizing now with
  | nil => exact h
  | cons x events ih =>
    rw [List.forall_mem_cons] at hold
    have hp := hs.passage x.1 hold.1
    exact ih (h.step hs hn x.1 hold.1) (hs.step x.1 hold.1) (Nat.lt_of_lt_of_le hn hp.links_le) hold.2

/-- A link that has left takes nothing, whatever comes, exactly if no message was being written to it. -/
theorem released_unwritten_iff (hs : Sound s) (hn : n < s.links) (h : ¬ s.Installs n) (m : Moment) :
    (∀ since : List (Moment × Event), (∀ x ∈ since, x.2 ≠ .letGo) → (s.run since).writtenTo n = s.writtenTo n) ↔
      ∀ message, ¬ s.Handed n message := by
  constructor
  · intro hsame message hh
    obtain ⟨t, ht⟩ := written_of_handed hs.inv hh m
    have hone : (s.step m (.writeDone t (.ok ()))).writtenTo n = s.writtenTo n :=
      hsame [(m, .writeDone t (.ok ()))] (by simp)
    simp [writtenTo, ht] at hone
  · intro hnone since hold
    rcases ((released_refl hs hn h).run hs hn hold).written with hw | ⟨message, hh, -⟩
    · exact hw
    · exact absurd hh (hnone message)

/-! ## Every link -/

/-- A link that is not installed after a step leaves in it, or had left before. -/
theorem Passage.leaves (hp : Passage s e s') (hn : n < s'.links) (h : ¬ s'.Installs n) :
    s.Leaves e n ∨ n < s.links ∧ ¬ s.Installs n := by
  have same {c : Custody} (hc : s'.custody = c) : s'.link = c.link ∧ s'.links = c.links :=
    ⟨congrArg Custody.link hc, congrArg Custody.links hc⟩
  have kept (hl : s'.link = s.link) : ¬ s.Installs n := fun ⟨l, hs, hn⟩ => h ⟨l, hl.trans hs, hn⟩
  cases hp with
  | kept hc | closed _ _ hc => exact .inr ⟨Nat.lt_of_lt_of_eq hn (same hc).2, kept (same hc).1⟩
  | installed g hl hc =>
    have hlinks : s'.links = s.links + 1 := (same hc).2
    have hne : n ≠ s.links := fun hn => h ⟨_, (same hc).1, hn.symm⟩
    refine .inr ⟨by omega, ?_⟩
    rintro ⟨l, hs, -⟩
    cases hl.symm.trans hs
  | superseded hw hc =>
    have hlinks : s'.links = s.links + 1 := (same hc).2
    by_cases hne : n = s.links
    · exact .inl (hne ▸ hw)
    · exact .inr ⟨by omega, kept (same hc).1⟩
  | abandoned l hl hw hc | disconnected l hl hw hc =>
    by_cases hne : l.number = n
    · exact .inl (hne ▸ hw)
    · refine .inr ⟨Nat.lt_of_lt_of_eq hn (same hc).2, ?_⟩
      rintro ⟨l', hs, hn⟩
      cases hl.symm.trans hs
      exact hne hn

/-- A link that was superseded while it was being opened has no message under way. -/
theorem Leaves.installs_of_handed (hw : s.Leaves e n) (hs : Sound s) (m : Moment)
    (h : (s.step m e).Handed n message) : s.Installs n := by
  cases hw with
  | superseded => exact (installs_of_handed_step hs.inv m _ h).resolve_left fun h => (hs.known _ _ h).false
  | lost _ _ hl | dropped _ hl | disconnected _ _ hl => exact ⟨_, hl, rfl⟩

/-- In a run, the link leaves the session by this event, and is no longer installed. -/
structure LeavesAt (start : Session) (before : List (Moment × Event)) (m : Moment) (e : Event) (n : Nat) : Prop where
  way : (start.run before).Leaves e n
  handed_over : n < ((start.run before).step m e).links
  uninstalled : ¬ ((start.run before).step m e).Installs n

theorem exists_leavesAt (hs : Sound start) (h0 : start.links = 0) (hold : ∀ x ∈ events, x.2 ≠ .letGo)
    (hn : n < (start.run events).links) (h : ¬ (start.run events).Installs n) :
    ∃ before m e after, events = before ++ (m, e) :: after ∧ start.LeavesAt before m e n := by
  induction events using List.reverseRecOn with
  | nil => exact absurd hn (by simp [run, h0])
  | append_singleton events x ih =>
    have hold' : ∀ x ∈ events, x.2 ≠ .letGo := fun x hx => hold x (by simp [hx])
    have hp := (hs.run hold').passage x.1 (hold x (by simp))
    rw [run_concat] at hn h
    rcases hp.leaves hn h with hw | ⟨hn', h'⟩
    · exact ⟨events, x.1, x.2, [], rfl, hw, hn, h⟩
    · obtain ⟨before, m, e, after, rfl, hl⟩ := ih hold' hn' h'
      exact ⟨before, m, e, after ++ [x], by simp, hl⟩

/-- In every run of a held session a link that was handed over and is still installed was never closed, and any
other has left in one of the four ways. Ever since it has been released: closed once or about to be, unheard, and
handed no more messages. But it may take the one message that was being written to it when it left: nothing is
written to it, whatever comes, exactly if there was none. Only a link that was installed can have one. -/
theorem links_released (config : SessionConfig) (ring : KeyRing) (format : PcmFormat)
    {events : List (Moment × Event)} (hold : ∀ x ∈ events, x.2 ≠ .letGo) :
    let start := ofConfig config ring format
    let s := start.run events
    ∀ n < s.links,
      (s.Installs n → s.closings n = 0) ∧
        (¬ s.Installs n → ∃ before m e after, events = before ++ (m, e) :: after ∧ (start.run before).Leaves e n ∧
          let left := (start.run before).step m e
          (∀ message, left.Handed n message → (start.run before).Installs n) ∧
            (∀ since, since <+: after → Released n left (left.run since)) ∧
            ((∀ since : List (Moment × Event), (∀ x ∈ since, x.2 ≠ .letGo) →
                (left.run since).writtenTo n = left.writtenTo n) ↔
              ∀ message, ¬ left.Handed n message)) := by
  intro start s n hn
  have hs₀ : Sound start := sound_ofConfig config ring format
  constructor
  · rintro ⟨l, hl, rfl⟩
    exact (hs₀.run hold).accounted.closings_of_link hl
  · intro h
    obtain ⟨before, m, e, after, rfl, hl⟩ := exists_leavesAt hs₀ rfl hold hn h
    have he : e ≠ .letGo := hold (m, e) (by simp)
    have hs : Sound (start.run before) := hs₀.run fun x hx => hold x (by simp [hx])
    have hleft := hs.step m he
    refine ⟨before, m, e, after, rfl, hl.way, fun message hh => hl.way.installs_of_handed hs m hh, ?_,
      released_unwritten_iff hleft hl.handed_over hl.uninstalled m⟩
    intro since hsince
    have hafter : ∀ x ∈ since, x.2 ≠ .letGo := fun x hx => hold x (by simp [hsince.subset hx])
    exact (released_refl hleft hl.handed_over hl.uninstalled).run hleft hl.handed_over hafter

/-- One send failure drops a link. -/
def brittle : Session :=
  ofConfig { encrypt := false, sendAuthToken := false, sendFailureThreshold := 1 } ⟨none, none⟩ .s16le

/-- The first link is lost while a message is being written, and then the write fails as well. The second is handed
over after a disconnect, the third stays. -/
def turnover : List (Moment × Event) :=
  atOnce [.callConnect 0 (.manual "desk" "desk.local" 9000), .run 0, .dialDone 0 (.ok ()),
    .callSend 1 .control [1], .run 2, .run 2, .linkEnded 1 "reset", .writeDone 2 (.error .connectionClosed),
    .intervalOver 4, .callDisconnect 2, .run 5, .dialDone 4 (.ok ()), .run 3,
    .callConnect 3 (.manual "desk" "desk.local" 9000), .run 6, .dialDone 6 (.ok ())]

/-- Two of three links have left, and were closed once. -/
theorem links_released_turnover :
    let s := brittle.run turnover
    s.links = 3 ∧ s.link = some ⟨2, 4⟩ ∧ s.closed = [1, 0] ∧ s.closings 2 = 0 ∧
      ∀ n < 2, ∃ before m e after, turnover = before ++ (m, e) :: after ∧ (brittle.run before).Leaves e n ∧
        ∀ since, since <+: after →
          Released n ((brittle.run before).step m e) (((brittle.run before).step m e).run since) := by
  intro s
  have hlinks : s.links = 3 := by decide +kernel
  have hlink : s.link = some ⟨2, 4⟩ := by decide +kernel
  have hold : ∀ x ∈ turnover, x.2 ≠ .letGo := by simp [turnover, atOnce]
  have hall : ∀ n < s.links, _ := links_released { encrypt := false, sendAuthToken := false, sendFailureThreshold := 1 }
    ⟨none, none⟩ .s16le hold
  rw [hlinks] at hall
  refine ⟨hlinks, hlink, by decide +kernel, (hall 2 (by decide)).1 ⟨_, hlink, rfl⟩, fun n hn => ?_⟩
  have hi : ¬ s.Installs n := by
    rintro ⟨l, hl, rfl⟩
    cases hlink.symm.trans hl
    exact absurd hn (by decide)
  obtain ⟨before, m, e, after, he, hw, -, hr, -⟩ := (hall n (by omega)).2 hi
  exact ⟨before, m, e, after, he, hw, hr⟩

/-- The link is lost while a message is being written, and closed. -/
def parting : List (Moment × Event) :=
  atOnce [.callConnect 0 (.manual "desk" "desk.local" 9000), .run 0, .dialDone 0 (.ok ()),
    .callSend 1 .control [1], .run 2, .run 2, .linkEnded 1 "reset", .run 3]

/-- The link has left and is closed, and takes the message all the same. -/
theorem taken_after_loss :
    let s := brittle.run parting
    let later := atOnce [.writeDone 2 (.ok ())]
    s.links = 1 ∧ s.link = none ∧ s.closed = [0] ∧ s.closings 0 = 1 ∧
      s.writtenTo 0 = [] ∧ ((s.run later).writtenTo 0).length = 1 := by
  decide +kernel

end DeskStream.Session
