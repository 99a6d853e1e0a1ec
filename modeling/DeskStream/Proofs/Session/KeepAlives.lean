import DeskStream.Proofs.Session.Counters
import DeskStream.Proofs.Session.Traced
import DeskStream.Session.Ready
import Mathlib.Data.List.Infix
import Mathlib.Data.List.Perm.Subperm
/-!
# Keep-alives

A keep-alive that arrives begins an echo, and nothing else that users may do sends keep-alives. An echo goes on by
itself, beside other sends, losses and reconnects, until its packet is written or given up. So the keep-alives written
are some of those that arrived, each at most once, and as many are counted as were written (`keepAlives_echoed`). With a
link that stays and sends that do not fail, all are.
-/

namespace DeskStream.Session

open Wire SendMark

variable {start s : Session} {m : Moment} {e : Event} {t : Nat} {p : Parcel}
  {before after events : List (Moment × Event)}

/-! ## Which parcels are keep-alives -/

/-- What users may ask for: they send input and control packets. -/
def Event.Offered : Event → Prop
  | .callSend _ kind _ => kind = .input ∨ kind = .control
  | _ => True

theorem Cause.isEcho (h : s.Cause e p) (he : e.Offered) : p.kind = .keepAlive ↔ p.origin = .echo := by
  cases h with
  | call call kind payload =>
    have hk : kind ≠ .keepAlive := by rcases he with rfl | rfl <;> decide
    simp [hk]
  | token | keepAlive => simp

/-- The keep-alives that begin are the answers to those that arrive. -/
theorem keepAlives_parcel? (s : Session) (he : e.Offered) :
    ((s.parcel? e).toList.filter (·.kind = .keepAlive)).map Parcel.payload =
      ((s.arrival? e).toList.filter (·.kind = .keepAlive)).map Packet.payload := by
  cases hp : s.parcel? e with
  | some p =>
    cases parcel?_eq_some_iff.1 hp with
    | call call kind payload =>
      have hk : kind ≠ .keepAlive := by rcases he with rfl | rfl <;> decide
      simp [arrival?, hk]
    | token => simp [arrival?]
    | keepAlive packet h hk => simp [h, hk]
  | none =>
    cases ha : s.arrival? e with
    | none => rfl
    | some packet =>
      have hk : packet.kind ≠ .keepAlive := by
        intro hk
        cases hp.symm.trans (parcel?_eq_some_iff.2 (.keepAlive packet ha hk))
      simp [hk]

theorem keepAlives_parcels (s : Session) (he : ∀ x ∈ events, x.2.Offered) :
    ((s.parcels events).filter (·.kind = .keepAlive)).map Parcel.payload =
      ((s.arrivals events).filter (·.kind = .keepAlive)).map Packet.payload := by
  induction events generalizing s with
  | nil => rfl
  | cons x events ih =>
    obtain ⟨hx, he⟩ := List.forall_mem_cons.1 he
    rw [parcels, arrivals, List.filter_append, List.filter_append, List.map_append, List.map_append,
      keepAlives_parcel? s hx, ih _ he]

/-! ## What is counted -/

/-- The keep-alives that were written. -/
def echoes (start : Session) (events : List (Moment × Event)) : List Posting :=
  (start.postings events).filter (·.parcel.kind = .keepAlive)

theorem echoed_failed (s : Session) (t : Nat) (origin : Origin) (why : ClientError) :
    (s.concludeSend t origin (.error why)).stats.keepalivesEchoed = s.stats.keepalivesEchoed := by
  cases origin with
  | call | echo => rfl
  | auth call => cases call <;> rfl

theorem echoed_sent (s : Session) (t : Nat) (origin : Origin) (n : UInt32) :
    (s.concludeSend t origin (.ok n)).stats.keepalivesEchoed =
      s.stats.keepalivesEchoed + if origin = .echo then 1 else 0 := by
  cases origin with
  | call | echo => rfl
  | auth call => cases call <;> rfl

theorem echoed_receive (s : Session) (m : Moment) (g : Nat) (message : Bytes) :
    (s.receive m g message).stats.keepalivesEchoed = s.stats.keepalivesEchoed := by
  rw [receive_eq]
  cases s.reading message with
  | closed | garbled => rfl
  | packet p =>
    simp only [packet]
    cases p.kind with
    | video | audio =>
      simp only [media]
      split
      · rfl
      · exact congrFun (counts_transition ..) .keepalivesEchoed
    | keepAlive | control | auth | input => rfl

/-- Only the end of a write counts an echo. -/
theorem echoed_of_other (m : Moment) (hw : ∀ t, e ≠ .writeDone t (.ok ()))
    (hn : ∀ t call peer, e = .run t → ¬ s.Accepts t call peer) :
    (s.step m e).stats.keepalivesEchoed = s.stats.keepalivesEchoed := by
  have same {s₁ : Session} (h : s₁.counts = s.counts) : s₁.stats.keepalivesEchoed = s.stats.keepalivesEchoed :=
    congrFun h .keepalivesEchoed
  have hm := move_step s m e
  generalize s.step m e = s' at hm ⊢
  cases hm with
  | connect t call peer h hj =>
    have hc : s.state.canConnect ≠ true := fun hc => hn t call peer rfl ⟨h, hj, hc⟩
    rw [connect, if_neg hc]
    rfl
  | disconnect t call => exact same (s.counts_disconnect t call)
  | joined => exact same s.counts_release
  | beginSend t origin kind payload =>
    unfold beginSend
    split
    · rfl
    · exact echoed_failed ..
  | beginWrite t origin kind payload =>
    cases hl : s.link with
    | none =>
      simp only [beginWrite, hl]
      exact echoed_failed ..
    | some l =>
      rw [beginWrite_of_link hl]
      split
      · exact echoed_failed ..
      · rfl
  | dialDone => exact same (s.counts_dialDone ..)
  | intervalOver t g =>
    unfold intervalOver
    split
    · split
      · rfl
      · exact congrFun (counts_dial ..) .keepalivesEchoed
    · rfl
  | writeDone t origin l n message result =>
    cases result with
    | ok _ => exact absurd rfl (hw t)
    | error why =>
      simp only [writeDone]
      split
      · exact (echoed_failed ..).trans (congrFun (counts_countFailure ..) .keepalivesEchoed)
      · exact echoed_failed ..
  | receive t l message => exact s.echoed_receive m l.generation message
  | linkEnded t l reason => exact same ((s.erase t).counts_lose ..)
  | letGo => exact same s.counts_letGo
  | rest | call | close | unlisten | tick | work | pop | setVolume | authenticate | logout | free => rfl

theorem echoes_concat_of_other (ht : Traced start events) (hi : Inv (start.run events)) (m : Moment)
    (hd : deliveries ((start.run events).marks m e) = []) :
    start.echoes (events ++ [(m, e)]) = start.echoes events := by
  rw [echoes, ht.postings_concat hi, hd, List.filterMap_nil, List.append_nil, echoes]

/-- A message that was taken is that of a keep-alive if it was sent as an echo. -/
theorem echoes_concat_of_taken (ht : Traced start events) (hi : Inv (start.run events))
    (he : ∀ x ∈ events, x.2.Offered) (m : Moment) {origin : Origin} {l : Link} {n : UInt32} {message : Bytes}
    (h : (start.run events).task? t = some (.write origin l n message)) :
    (start.echoes (events ++ [(m, .writeDone t (.ok ()))])).length =
      (start.echoes events).length + if origin = .echo then 1 else 0 := by
  have hmarks : deliveries ((start.run events).marks m (.writeDone t (.ok ()))) = [⟨t, l, n, message⟩] := by
    simp [marks, h, writeMarks]
  obtain ⟨p, hp, hps, rfl⟩ := ht.sending _ (task?_mem h) origin rfl
  obtain ⟨before, m', e, after, rfl, hc⟩ := cause_of_mem_parcels hp
  have hkind : p.kind = .keepAlive ↔ p.origin = .echo := hc.isEcho (he (m', e) (by simp))
  have hpost := ht.post?_eq (d := ⟨t, l, n, message⟩) hp hps
  rw [echoes, ht.postings_concat hi, hmarks, List.filterMap_cons_some hpost, List.filterMap_nil, List.filter_append,
    List.length_append, ← echoes]
  by_cases hk : p.kind = .keepAlive
  · simp [hk, hkind.1 hk]
  · simp [hk, mt hkind.2 hk]

theorem echoed_concat (ht : Traced start events) (hi : Inv (start.run events)) (he : ∀ x ∈ events, x.2.Offered)
    (m : Moment) (hn : ∀ t call peer, e = .run t → ¬ (start.run events).Accepts t call peer) :
    (start.run (events ++ [(m, e)])).stats.keepalivesEchoed + (start.echoes events).length =
      (start.run events).stats.keepalivesEchoed + (start.echoes (events ++ [(m, e)])).length := by
  rw [run_concat]
  by_cases hw : ∃ t, e = .writeDone t (.ok ())
  · obtain ⟨t, rfl⟩ := hw
    by_cases h : ∃ origin l n message, (start.run events).task? t = some (.write origin l n message)
    · obtain ⟨origin, l, n, message, h⟩ := h
      have hcount : ((start.run events).step m (.writeDone t (.ok ()))).stats.keepalivesEchoed =
          (start.run events).stats.keepalivesEchoed + if origin = .echo then 1 else 0 := by
        simp only [step, h, writeDone]
        exact echoed_sent ..
      rw [hcount, echoes_concat_of_taken ht hi he m h]
      omega
    · rw [step_writeDone_idle h, echoes_concat_of_other ht hi m (by rw [marks_writeDone_idle h]; rfl)]
  · push Not at hw
    have hd : deliveries ((start.run events).marks m e) = [] := by
      have hd := dispatch_step hi m e
      generalize (start.run events).step m e = s', (start.run events).marks m e = marks at hd
      cases hd with
      | taken => exact absurd rfl (hw _)
      | aside | connect | wait | refuse | unsealed | hand | failed => rfl
    rw [echoed_of_other m hw hn, echoes_concat_of_other ht hi m hd]

theorem echoed_run (hi : Inv start) (h : start.tasks = []) (he : ∀ x ∈ before ++ after, x.2.Offered)
    (hu : (start.run before).Unconnected after) :
    (start.run (before ++ after)).stats.keepalivesEchoed + (start.echoes before).length =
      (start.run before).stats.keepalivesEchoed + (start.echoes (before ++ after)).length := by
  induction after generalizing before with
  | nil => rw [List.append_nil]
  | cons x after ih =>
    obtain ⟨m, e⟩ := x
    have hbefore : ∀ x ∈ before, x.2.Offered := fun x hx => he x (List.mem_append_left _ hx)
    have hstep := echoed_concat (e := e) (traced_run hi h before) (inv_run hi before) hbefore m hu.1
    rw [List.append_cons] at he ⊢
    have hrest := ih he (by rw [run_concat]; exact hu.2)
    omega

/-! ## Other messages -/

/-- A message that is no keep-alive leaves the activities alone, and what is written and numbered. -/
theorem quiet_receive (hi : Inv s) (m : Moment) (t : Nat) (message : Bytes)
    (hk : ∀ packet, s.arrival? (.receive t message) = some packet → packet.kind ≠ .keepAlive) :
    (s.step m (.receive t message)).tasks = s.tasks ∧ (s.step m (.receive t message)).tally = s.tally ∧
      (s.step m (.receive t message)).link = s.link := by
  by_cases h : ∃ l, s.task? t = some (.listen l false)
  · obtain ⟨l, h⟩ := h
    have hh := handled_receive hi (hi.heard t l (task?_mem h)) m message
    have hecho : (s.reading message).echo? = none := by
      simp only [arrival?, h] at hk
      cases hr : s.reading message with
      | closed | garbled => rfl
      | packet p => exact if_neg (hk p (by rw [hr]; rfl))
    simp only [step, h]
    refine ⟨?_, (aside_receive ..).tally, hh.link⟩
    rw [hh.tasks, hecho]
    exact List.append_nil _
  · rw [step_receive_idle h]
    exact ⟨rfl, rfl, rfl⟩

/-! ## A link that stays -/

/-- While nothing can go on by itself and nothing is being written, nothing is on its way. -/
theorem isSending_of_rest (hr : s.ready? = none) (hw : s.isWriting = false) : ∀ x ∈ s.tasks, x.2.isSending = false := by
  intro x hx
  have hready : s.isReady x.2 = false := by
    have := List.find?_eq_none.1 (Option.map_eq_none_iff.1 hr) x hx
    simpa using this
  have hwrite := isWriting_eq_false hw x hx
  obtain ⟨t, task⟩ := x
  cases task <;> simp_all [isReady, Task.isSending, Task.isWrite]

/-- With a link installed nothing is refused. -/
theorem not_refused (hi : Inv s) {l : Link} (hl : s.link = some l) (m : Moment) (e : Event) (t : Nat) :
    SendMark.ended t (.error .notConnected) ∉ s.marks m e := by
  intro h
  have hc : s.state.isConnected = true := (hi.linked l hl).2.1
  cases e with
  | run u =>
    simp only [marks] at h
    split at h
    · simp [hc] at h
    · split at h
      · cases h
      · simp only [turnMarks, hl, List.mem_cons, reduceCtorEq, false_or] at h
        split at h <;> simp at h
    · cases h
  | writeDone u result =>
    simp only [marks] at h
    split at h
    · cases result with
      | ok _ => simp [writeMarks] at h
      | error why =>
        simp only [writeMarks, List.mem_singleton, SendMark.ended.injEq, Except.error.injEq] at h
        split at h <;> simp at h
    · cases h
  | callConnect | callDisconnect | callSend | dialDone | intervalOver | receive | linkEnded | tick | work | pop
    | setVolume | authenticate | logout | letGo | free => cases h

theorem not_refused_run (hi : Inv s) {l : Link} (hl : ∀ since, since <+: after → (s.run since).link = some l) (t : Nat) :
    SendMark.ended t (.error .notConnected) ∉ s.journal after := by
  induction after generalizing s with
  | nil => exact List.not_mem_nil
  | cons x after ih =>
    rw [journal, List.mem_append, not_or]
    refine ⟨not_refused hi (hl [] (List.nil_prefix ..)) x.1 x.2 t, ih (inv_step hi x.1 x.2) fun since hs => ?_⟩
    exact hl (x :: since) ((List.prefix_cons_inj x).2 hs)

/-- With a link that stays, and if no send fails on it, every parcel that has begun is written by the time that nothing is
on its way. -/
theorem written_of_link (hi : Inv start) (h : start.tasks = []) {l : Link}
    (hl : ∀ since, since <+: after → ((start.run before).run since).link = some l)
    (hs : ∀ t why, .ended t (.error why) ∈ (start.run before).journal after → why = .notConnected)
    (hrest : ∀ x ∈ (start.run (before ++ after)).tasks, x.2.isSending = false)
    (hp : p ∈ (start.run before).parcels after) : ∃ x ∈ start.postings (before ++ after), x.parcel = p := by
  have hbefore := traced_run hi h before
  have ht := traced_run hi h (before ++ after)
  have hnodup := ht.nodup
  rw [parcels_append, List.map_append, List.nodup_append] at hnodup
  have hmem : p ∈ start.parcels (before ++ after) := by
    rw [parcels_append]
    exact List.mem_append_right _ hp
  -- It has begun after `before`, and so have its marks.
  have hmark {mark : SendMark} (hm : mark ∈ (start.journal (before ++ after)).filter (·.send = p.send)) :
      mark ∈ (start.run before).journal after := by
    obtain ⟨hm, hsend⟩ := mem_marksOf.1 hm
    rw [journal_append] at hm
    rcases List.mem_append.1 hm with hm | hm
    · obtain ⟨q, hq, hqm⟩ := hbefore.marked mark hm
      exact absurd (hqm.trans hsend) (hnodup.2.2 _ (List.mem_map_of_mem hq) _ (List.mem_map_of_mem hp))
    · exact hm
  have hnone {task : Task} (htask : (start.run (before ++ after)).task? p.send = some task) :
      task.isSending = false := hrest _ (task?_mem htask)
  cases ht.life p hmem with
  | waiting hw => rcases hw with hw | hw <;> cases hnone hw
  | writing hw => cases hnone hw
  | refused _ hm => exact absurd (hmark (by rw [hm]; simp)) (not_refused_run (inv_run hi before) hl p.send)
  | @failed n why hne _ hm => exact absurd (hs p.send why (hmark (by rw [hm]; simp))) hne
  | @sent d _ hd _ hm =>
    have htaken : SendMark.taken d ∈ start.journal (before ++ after) := by
      refine (mem_marksOf (t := p.send)).1 ?_ |>.1
      rw [hm]
      simp
    exact ⟨_, ht.mem_postings_of_taken htaken hmem hd.symm, rfl⟩

/-! ## Every run -/

/-- The keep-alives written are some of those that arrived. -/
theorem echoes_subperm (ht : Traced start events) (he : ∀ x ∈ events, x.2.Offered) :
    ((start.echoes events).map (·.parcel.payload)).Subperm
      (((start.arrivals events).filter (·.kind = .keepAlive)).map Packet.payload) := by
  have hsub : ((start.postings events).map Posting.parcel).Subperm (start.parcels events) := by
    refine ht.nodup_postings.subperm fun p hp => ?_
    obtain ⟨x, hx, rfl⟩ := List.mem_map.1 hp
    exact (Traced.mem_postings hx).2.1
  have hechoes : (start.echoes events).map (·.parcel.payload) =
      (((start.postings events).map Posting.parcel).filter (·.kind = .keepAlive)).map Parcel.payload := by
    rw [echoes, List.filter_map, List.map_map]
    rfl
  rw [hechoes, ← keepAlives_parcels start he]
  obtain ⟨written, hperm, hsublist⟩ := hsub.filter (·.kind = .keepAlive)
  exact ⟨written.map Parcel.payload, hperm.map _, hsublist.map _⟩

/-- The counter begins anew with a connect, and from there counts the keep-alives written. -/
theorem Accepts.echoed (hi : Inv start) (h : start.tasks = []) {call : Nat} {peer : Peer}
    (ha : (start.run before).Accepts t call peer) (he : ∀ x ∈ before ++ (m, .run t) :: after, x.2.Offered)
    (hu : ((start.run before).step m (.run t)).Unconnected after) :
    (start.run (before ++ (m, .run t) :: after)).stats.keepalivesEchoed + (start.echoes before).length =
      (start.echoes (before ++ (m, .run t) :: after)).length := by
  have hib := inv_run hi before
  have hfresh : (start.run (before ++ [(m, .run t)])).stats.keepalivesEchoed = 0 := by
    rw [run_concat]
    exact (ha.fresh hib m).1 .keepalivesEchoed
  have hsame : start.echoes (before ++ [(m, .run t)]) = start.echoes before :=
    echoes_concat_of_other (traced_run hi h before) hib m (by simp [marks, ha.task])
  rw [List.append_cons] at he ⊢
  have hrun := echoed_run hi h he (by rwa [run_concat])
  rw [hfresh, hsame, Nat.zero_add] at hrun
  exact hrun

/-- Users send input and control packets, calls and losses and messages come in any order. Then what is written are
parcels, each once, that began earlier with a call, a link, or a keep-alive that arrived. The keep-alives written carry
payloads of keep-alives that arrived, each of them at most once, and other messages change nothing that is sent. As many
are counted as were written since the connect. While a link stays, so that nothing is refused, and no send fails for
another reason, each keep-alive that arrives is written, by the time that nothing is left to do. -/
theorem keepAlives_echoed (config : SessionConfig) (ring : KeyRing) (format : PcmFormat)
    (events : List (Moment × Event)) (he : ∀ x ∈ events, x.2.Offered) :
    let start := ofConfig config ring format
    let s := start.run events
    let posted := start.postings events
    s.written = posted.map (·.delivery.item) ∧
    (posted.map Posting.parcel).Nodup ∧
    (∀ x ∈ posted, start.HandedIn events x.parcel.kind x.parcel.payload x.delivery ∧
      ∃ before m e after, events = before ++ (m, e) :: after ∧ (start.run before).Cause e x.parcel) ∧
    ((start.echoes events).map (·.parcel.payload)).Subperm
      (((start.arrivals events).filter (·.kind = .keepAlive)).map Packet.payload) ∧
    (∀ m t message, (∀ packet, s.arrival? (.receive t message) = some packet → packet.kind ≠ .keepAlive) →
      let s' := s.step m (.receive t message)
      s'.tasks = s.tasks ∧ s'.tally = s.tally ∧ s'.link = s.link) ∧
    (∀ before m t call peer after, events = before ++ (m, .run t) :: after →
      (start.run before).Accepts t call peer → ((start.run before).step m (.run t)).Unconnected after →
      s.stats.keepalivesEchoed + (start.echoes before).length = (start.echoes events).length) ∧
    ∀ before after l, events = before ++ after →
      (∀ since, since <+: after → ((start.run before).run since).link = some l) →
      (∀ t why, .ended t (.error why) ∈ (start.run before).journal after → why = .notConnected) →
      s.ready? = none → s.isWriting = false →
      ∀ since m e rest packet, after = since ++ (m, e) :: rest →
        let now := (start.run before).run since
        now.arrival? e = some packet → packet.kind = .keepAlive →
        ∃ x ∈ start.echoes events, x.parcel = ⟨now.spawned, .echo, .keepAlive, packet.payload⟩ := by
  intro start s posted
  have hi : Inv start := (bare_ofConfig config ring format).inv
  have h : start.tasks = [] := rfl
  have ht := traced_run hi h events
  refine ⟨?_, ht.nodup_postings, fun x hx => ?_, echoes_subperm ht he, quiet_receive (inv_run hi events), ?_, ?_⟩
  · have hw : s.written = [] ++ (deliveries (start.journal events)).map Delivery.item := written_run hi events
    rw [hw, List.nil_append, ← ht.map_delivery, List.map_map]
    rfl
  · exact ⟨ht.handedIn hx, cause_of_mem_parcels (Traced.mem_postings hx).2.1⟩
  · rintro before m t call peer after rfl ha hu
    exact ha.echoed hi h he hu
  · rintro before after l rfl hl hs hready hwriting since m e rest packet rfl now ha hk
    have hp : ⟨now.spawned, .echo, .keepAlive, packet.payload⟩ ∈ (start.run before).parcels (since ++ (m, e) :: rest) := by
      rw [parcels_append, parcels]
      refine List.mem_append_right _ (List.mem_append_left _ ?_)
      exact Option.mem_toList.2 (parcel?_eq_some_iff.2 (.keepAlive packet ha hk))
    obtain ⟨x, hx, hxp⟩ := written_of_link hi h hl hs (isSending_of_rest hready hwriting) hp
    exact ⟨x, List.mem_filter.2 ⟨hx, by simp [hxp]⟩, hxp⟩

/-- A keep-alive whose echo waits for a packet of the user, and a control packet. -/
def pings : List (Moment × Event) :=
  atOnce [.callConnect 0 (.manual "desk" "desk.local" 9000), .run 0, .dialDone 0 (.ok ()),
    .receive 1 (Packet.encode ⟨.keepAlive, 5, 1, [7]⟩), .callSend 1 .input [8], .run 3, .run 2, .run 3,
    .receive 1 (Packet.encode ⟨.control, 6, 2, [9]⟩), .writeDone 3 (.ok ()), .run 2, .writeDone 2 (.ok ())]

/-- The echo is written after the packet of the user. The control packet is not answered. -/
theorem keepAlives_echoed_pings :
    (∀ x ∈ pings, x.2.Offered) ∧
    let s := plain.run pings
    s.written = (plain.postings pings).map (·.delivery.item) ∧
      (plain.postings pings).map (·.parcel.send) = [3, 2] ∧ s.stats.keepalivesEchoed = 1 ∧
      ((plain.echoes pings).map (·.parcel.payload)).Subperm [[7]] ∧
      (∃ x ∈ plain.echoes pings, x.parcel = ⟨2, .echo, .keepAlive, [7]⟩) ∧
      let control := Event.receive 1 (Packet.encode ⟨.control, 6, 2, [9]⟩)
      ((plain.run (pings.take 8)).step still control).tasks = (plain.run (pings.take 8)).tasks := by
  have he : ∀ x ∈ pings, x.2.Offered := by simp [pings, atOnce, Event.Offered]
  have whole (n : Nat) := keepAlives_echoed { encrypt := false, sendAuthToken := false } ⟨none, none⟩ .s16le
    (pings.take n) fun x hx => he x (List.mem_of_mem_take hx)
  obtain ⟨written, -, -, received, -, counted, answered⟩ := whole 12
  have ha : (plain.run (pings.take 1)).Accepts 0 0 (.manual "desk" "desk.local" 9000) := ⟨rfl, rfl, rfl⟩
  have hcount : (plain.run pings).stats.keepalivesEchoed + (plain.echoes (pings.take 1)).length =
      (plain.echoes pings).length := counted _ still 0 0 _ (pings.drop 2) rfl ha (by decide +kernel)
  have hnone : (plain.echoes (pings.take 1)).length = 0 := by decide +kernel
  have hone : (plain.echoes pings).length = 1 := by decide +kernel
  have harrived : ((plain.arrivals pings).filter (·.kind = .keepAlive)).map Packet.payload = [[7]] := by decide +kernel
  have hlink : ∀ since ∈ (pings.drop 3).inits, ((plain.run (pings.take 3)).run since).link = some ⟨0, 1⟩ := by
    decide +kernel
  have hjournal : (plain.run (pings.take 3)).journal (pings.drop 3) =
      [.numbered 3 1, .taken ⟨3, ⟨0, 1⟩, 1, Packet.encode ⟨.input, 0, 1, [8]⟩⟩, .ended 3 (.ok 1),
        .numbered 2 2, .taken ⟨2, ⟨0, 1⟩, 2, Packet.encode ⟨.keepAlive, 0, 2, [7]⟩⟩, .ended 2 (.ok 2)] := by
    decide +kernel
  have hcontrol := (whole 8).2.2.2.2.1 still 1 (Packet.encode ⟨.control, 6, 2, [9]⟩) (by decide +kernel)
  refine ⟨he, written, by decide +kernel, by omega, harrived ▸ received, ?_, hcontrol.1⟩
  refine answered (pings.take 3) (pings.drop 3) ⟨0, 1⟩ rfl (fun since h => hlink since ((List.mem_inits ..).2 h)) ?_
    (by decide +kernel) (by decide +kernel) [] still _ (pings.drop 4) ⟨.keepAlive, 5, 1, [7]⟩ rfl (by decide +kernel) rfl
  intro t why (hm : _ ∈ (plain.run (pings.take 3)).journal (pings.drop 3))
  simp [hjournal] at hm

end DeskStream.Session
