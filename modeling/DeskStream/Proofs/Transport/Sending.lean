import DeskStream.Proofs.Transport.Moves
import Mathlib.Data.List.Induction
import Mathlib.Data.List.Perm.Subperm
/-!
# What a connection writes

What a sender takes is written in that order, each message in its frame (`sent_in_order`). A run keeps a ledger of the
calls whose messages were taken (`Ledger`) and what the socket has got of them (`Wired`). A call that is refused leaves
no mark but its answer (`run_answer`).
-/

namespace DeskStream
namespace TcpConnection

open DeskStream.Frame

variable {c d : TcpConnection} {e : Event} {m : Bytes} {n : Nat} {past events : List Event}
  {taken : List (Nat × Bytes)}

/-! ## The ledger -/

/-- The calls whose messages were taken, in that order. -/
structure Ledger (past : List Event) (c : TcpConnection) (taken : List (Nat × Bytes)) : Prop where
  /-- Each call is taken or waits once at most. -/
  made : (taken ++ c.waiting).Subperm (calls past)
  fits : ∀ call ∈ taken ++ c.waiting, call.2.length ≤ c.config.maxMessageSize
  messages : taken.map (·.2) = c.accepted
  answered : taken.map (·.1) = c.takenCalls

theorem calls_concat (past : List Event) (e : Event) : calls (past ++ [e]) = calls past ++ e.call?.toList := by
  rw [calls, List.filterMap_append]
  cases h : e.call? <;> simp [calls, h]

theorem takenCalls_append {o : List (Nat × Except TransportError Unit)} (h : d.outcomes = c.outcomes ++ o) :
    d.takenCalls = c.takenCalls ++ o.filterMap fun (n, result) => if result.isOk then some n else none := by
  rw [takenCalls, h, List.filterMap_append]
  rfl

theorem takenCalls_answer (c : TcpConnection) (n : Nat) (r : TransportError) :
    (c.answer n (.error r)).takenCalls = c.takenCalls := by
  rw [takenCalls_append (c := c) rfl]
  exact List.append_nil _

theorem takenCalls_accept (c : TcpConnection) (n : Nat) (m : Bytes) :
    (c.accept n m).takenCalls = c.takenCalls ++ [n] :=
  takenCalls_append (c := c) (o := [(n, .ok ())]) rfl

theorem takenCalls_finish (c : TcpConnection) : c.finish.takenCalls = c.takenCalls := by
  rw [takenCalls_append (c := c) rfl, List.filterMap_eq_nil_iff.2, List.append_nil]
  intro outcome hlost
  obtain ⟨call, -, rfl⟩ := List.mem_map.1 hlost
  rfl

namespace Ledger

theorem length_le (l : Ledger past c taken) (hm : m ∈ c.accepted) : m.length ≤ c.config.maxMessageSize := by
  rw [← l.messages] at hm
  obtain ⟨call, hcall, rfl⟩ := List.mem_map.1 hm
  exact l.fits call (List.mem_append_left _ hcall)

theorem concat (l : Ledger past c taken) (e : Event) : Ledger (past ++ [e]) c taken where
  made := by
    rw [calls_concat]
    exact l.made.trans (List.sublist_append_left ..).subperm
  fits := l.fits
  messages := l.messages
  answered := l.answered

/-- What nobody waits for any more, and what goes on elsewhere, is not in the ledger. -/
theorem congr (l : Ledger past c taken) (hconfig : d.config = c.config) (hwaiting : d.waiting.Sublist c.waiting)
    (haccepted : d.accepted = c.accepted) (htaken : d.takenCalls = c.takenCalls) : Ledger past d taken where
  made := (hwaiting.append_left taken).subperm.trans l.made
  fits := by
    rw [hconfig]
    intro call hcall
    exact l.fits call ((hwaiting.append_left taken).subset hcall)
  messages := l.messages.trans haccepted.symm
  answered := l.answered.trans htaken.symm

theorem of_writes {failure : Option (Nat × String)} (l : Ledger past c taken) (h : Writes c m failure d) :
    Ledger past d taken := by
  cases h with
  | whole | broken => exact l.congr rfl (.refl _) rfl rfl

/-- A message is taken. -/
theorem accept (l : Ledger past c taken) (hw : c.waiting = []) (he : e.call? = some (n, m))
    (hm : c.check m = .ok ()) : Ledger (past ++ [e]) (c.accept n m) (taken ++ [(n, m)]) where
  made := by
    have hmade := l.made
    rw [hw, List.append_nil] at hmade
    have hnone : (c.accept n m).waiting = [] := hw
    rw [hnone, List.append_nil, calls_concat, he]
    exact hmade.append (.refl _)
  fits := by
    have hnone : (c.accept n m).waiting = [] := hw
    rw [hnone, List.append_nil]
    intro call hcall
    rcases List.mem_append.1 hcall with h | h
    · exact l.fits call (List.mem_append_left _ h)
    · rw [List.mem_singleton.1 h]
      exact (check_eq_ok_iff.1 hm).2
  messages := by
    rw [List.map_append, l.messages]
    exact List.append_assoc ..
  answered := by
    rw [List.map_append, l.answered, takenCalls_accept]
    rfl

/-- A call waits. -/
theorem wait (l : Ledger past c taken) (hm : c.check m = .ok ()) :
    Ledger (past ++ [.send n m]) { c with waiting := c.waiting ++ [(n, m)] } taken where
  made := by
    rw [calls_concat, ← List.append_assoc]
    exact l.made.append (.refl _)
  fits := by
    intro call hcall
    rw [← List.append_assoc] at hcall
    rcases List.mem_append.1 hcall with h | h
    · exact l.fits call h
    · rw [List.mem_singleton.1 h]
      exact (check_eq_ok_iff.1 hm).2
  messages := l.messages
  answered := l.answered

/-- The call that has waited longest has its message taken. -/
theorem resume {waiting : List (Nat × Bytes)} (l : Ledger past c taken) (hw : c.waiting = (n, m) :: waiting) :
    Ledger past ({ c with waiting }.accept n m) (taken ++ [(n, m)]) where
  made := by
    have hmade := l.made
    rw [hw] at hmade
    rwa [List.append_assoc]
  fits := by
    have hfits := l.fits
    rw [hw] at hfits
    rwa [List.append_assoc]
  messages := by
    rw [List.map_append, l.messages]
    exact List.append_assoc ..
  answered := by
    rw [List.map_append, l.answered, takenCalls_accept]
    rfl

theorem of_move (l : Ledger past c taken) (h : Move c e d) : ∃ more, Ledger (past ++ [e]) d (taken ++ more) := by
  have same {d : TcpConnection} (l : Ledger past d taken) : ∃ more, Ledger (past ++ [e]) d (taken ++ more) :=
    ⟨[], by rw [List.append_nil]; exact l.concat e⟩
  -- What is begun leaves the queue, and stays accepted.
  have begin {m : Bytes} {outgoing : List Bytes} (ho : c.outgoing = m :: outgoing) :
      Ledger past { c with outgoing, begun := c.begun ++ [m] } taken := by
    refine l.congr rfl (.refl _) ?_ rfl
    rw [accepted, accepted, ho]
    exact List.append_assoc ..
  cases h with
  | @refused _ n m r he h => exact same (l.congr rfl (.refl _) rfl (takenCalls_answer c n r))
  | @taken _ n m he hm hw hroom => exact ⟨[(n, m)], l.accept hw he hm⟩
  | queued n hm hroom => exact ⟨[], by rw [List.append_nil]; exact l.wait hm⟩
  | closed => exact same (l.congr rfl (.refl _) rfl rfl)
  | wrote hi ho hw h => exact same ((begin ho).of_writes h)
  | @resumed _ m next n outgoing waiting _ hi ho hw h =>
    have hresumed : Ledger past ({ c with outgoing, waiting, begun := c.begun ++ [m] }.accept n next)
      (taken ++ [(n, next)]) := (begin ho).resume hw
    exact ⟨[(n, next)], (hresumed.of_writes h).concat _⟩
  | @finished _ d he h =>
    refine same (l.congr h.config (List.nil_sublist _) ?_ ?_)
    · exact congrArg₂ (· ++ ·) h.begun h.outgoing
    · rw [takenCalls_finish, takenCalls, takenCalls, h.outcomes]
  | kept he hclose h =>
    refine same (l.congr h.config (h.waiting ▸ .refl _) (congrArg₂ (· ++ ·) h.begun h.outgoing) ?_)
    rw [takenCalls, takenCalls, h.outcomes]

end Ledger

/-! ## The socket -/

/-- What the socket took is the beginning of the frames of what was begun, and all of them unless it failed. -/
structure Wired (past : List Event) (c : TcpConnection) : Prop where
  sent : c.written <+: (c.begun.map frame).flatten
  whole : (c.isEnding = false ∨ ∀ failure, .write (some failure) ∉ past) →
    c.written = (c.begun.map frame).flatten

namespace Wired

theorem congr (w : Wired past c) (hwritten : d.written = c.written) (hbegun : d.begun = c.begun)
    (hending : d.isEnding = false → c.isEnding = false) : Wired (past ++ [e]) d where
  sent := by
    rw [hwritten, hbegun]
    exact w.sent
  whole := by
    intro h
    rw [hwritten, hbegun]
    exact w.whole (h.imp hending fun h failure hmem => h failure (List.mem_append_left _ hmem))

/-- A loop that is idle has written all that it has begun, and goes on with the next frame. -/
theorem write {b : TcpConnection} {failure : Option (Nat × String)} (w : Wired past c) (hi : c.isIdle = true)
    (h : Writes b m failure d) (hwritten : b.written = c.written) (hbegun : b.begun = c.begun ++ [m]) :
    Wired (past ++ [.write failure]) d := by
  have hall := w.whole (.inl (isIdle_iff.1 hi).2.1)
  have hframes : (b.begun.map frame).flatten = b.written ++ frame m := by
    rw [hwritten, hbegun, hall]
    simp
  cases h with
  | whole => exact ⟨hframes ▸ List.prefix_rfl, fun _ => hframes.symm⟩
  | broken octets text =>
    refine ⟨hframes ▸ (List.prefix_append_right_inj _).2 (List.take_prefix ..), ?_⟩
    rintro (h | h)
    · cases h
    · exact absurd (List.mem_append_right _ (List.mem_singleton_self _)) (h (octets, text))

theorem of_move (w : Wired past c) (h : Move c e d) : Wired (past ++ [e]) d := by
  cases h with
  | refused | taken | queued | closed => exact w.congr rfl rfl id
  | wrote hi ho hw h | resumed hi ho hw h => exact w.write hi h rfl rfl
  | finished he h | kept he hclose h => exact w.congr h.written h.begun h.isEnding

end Wired

/-- A sender takes messages until it is closed or the loop is over. -/
theorem isConnected_move (hc : c.isConnected = true ↔ .close ∉ past ∧ c.isOver = false) (h : Move c e d) :
    d.isConnected = true ↔ .close ∉ past ++ [e] ∧ d.isOver = false := by
  have other (hconn : d.isConnected = c.isConnected) (hover : d.isOver = c.isOver)
      (hclose : e = .close → c.isConnected = false) :
      d.isConnected = true ↔ .close ∉ past ++ [e] ∧ d.isOver = false := by
    rw [hconn, hover, hc]
    constructor
    · intro h
      refine ⟨?_, h.2⟩
      intro hmem
      rcases List.mem_append.1 hmem with hmem | hmem
      · exact h.1 hmem
      · have := hclose (List.mem_singleton.1 hmem).symm
        rw [hc.2 h] at this
        cases this
    · exact fun h => ⟨fun hmem => h.1 (List.mem_append_left _ hmem), h.2⟩
  cases h with
  | refused he | taken he =>
    refine other rfl rfl ?_
    rintro rfl
    cases he
  | queued => exact other rfl rfl nofun
  | wrote _ _ _ h | resumed _ _ _ h =>
    cases h with
    | whole | broken => exact other rfl rfl nofun
  | closed => simp
  | finished he h => exact iff_of_false nofun nofun
  | kept he hclose h => exact other h.isConnected h.isOver hclose

/-! ## What came before -/

/-- The connection, with answers that were given earlier. -/
def since (c : TcpConnection) (earlier : List (Nat × Except TransportError Unit)) : TcpConnection :=
  { c with outcomes := earlier ++ c.outcomes }

section Since
variable (c : TcpConnection) (earlier : List (Nat × Except TransportError Unit))

theorem check_since (m : Bytes) : (c.since earlier).check m = c.check m := rfl

theorem hasRoom_since : (c.since earlier).hasRoom = c.hasRoom := rfl

theorem answer_since (n : Nat) (result : Except TransportError Unit) :
    (c.since earlier).answer n result = (c.answer n result).since earlier := by
  simp [since, answer]

theorem send_since (n : Nat) (m : Bytes) : (c.since earlier).send n m = (c.send n m).since earlier := by
  simp only [send, check_since, hasRoom_since]
  cases c.check m with
  | error r => exact answer_since ..
  | ok _ =>
    by_cases hover : c.isOver = true
    · simp [since, answer, hover]
    · by_cases hroom : c.waiting = [] ∧ c.hasRoom = true
      · simp [since, answer, accept, hover, hroom]
      · simp [since, hover, hroom]

theorem trySend_since (n : Nat) (m : Bytes) : (c.since earlier).trySend n m = (c.trySend n m).since earlier := by
  simp only [trySend, check_since, hasRoom_since]
  cases c.check m with
  | error r => exact answer_since ..
  | ok _ =>
    by_cases hover : c.isOver = true
    · simp [since, answer, hover]
    · by_cases hroom : c.hasRoom = true
      · simp [since, answer, accept, hover, hroom]
      · simp [since, answer, hover, hroom]

theorem resumeCall_since : (c.since earlier).resumeCall = c.resumeCall.since earlier := by
  simp only [resumeCall, hasRoom_since]
  cases hw : c.waiting with
  | nil => simp [since, hw]
  | cons call waiting =>
    by_cases hroom : c.hasRoom = true
    · simp [since, answer, accept, hw, hroom]
    · simp [since, hw, hroom]

theorem write_since (failure : Option (Nat × String)) :
    (c.since earlier).write failure = (c.write failure).since earlier := by
  have hidle : (c.since earlier).isIdle = c.isIdle := rfl
  have houtgoing : (c.since earlier).outgoing = c.outgoing := rfl
  unfold write
  rw [hidle, houtgoing]
  cases c.isIdle with
  | false => rfl
  | true =>
    cases c.outgoing with
    | nil => rfl
    | cons m outgoing =>
      have hr := resumeCall_since { c with outgoing, begun := c.begun ++ [m] } earlier
      rcases failure with _ | ⟨octets, text⟩
      · exact congrArg (fun d : TcpConnection => { d with written := d.written ++ frame m }) hr
      · exact congrArg (fun d : TcpConnection =>
          { d with written := d.written ++ (frame m).take octets, told := [.failed text], isEnding := true }) hr

theorem deliver_since : (c.since earlier).deliver = c.deliver.since earlier := by
  cases hover : c.isOver with
  | true => simp [deliver, since, hover]
  | false =>
    cases htold : c.told with
    | nil => simp [deliver, since, hover, htold]
    | cons e told =>
      cases hconsumed : c.isConsumed with
      | false => simp [deliver, since, finish, hover, htold, hconsumed]
      | true =>
        by_cases hroom : c.incoming.length < c.config.channelBufferSize
        · by_cases hend : (c.isEnding && told.isEmpty) = true
          · simp [deliver, since, finish, hover, htold, hconsumed, hroom, hend]
          · simp [deliver, since, hover, htold, hconsumed, hroom, hend]
        · simp [deliver, since, hover, htold, hconsumed, hroom]

/-- No step looks at answers that were given. -/
theorem step_since (e : Event) : (c.since earlier).step e = (c.step e).since earlier := by
  have hidle : (c.since earlier).isIdle = c.isIdle := rfl
  cases e with
  | send n m => exact send_since ..
  | trySend n m => exact trySend_since ..
  | close =>
    simp only [step, close]
    by_cases h : c.isConnected = true <;> simp [since, h]
  | dropSender | dropConsumer => rfl
  | write failure => exact write_since ..
  | read piece =>
    simp only [step, TcpConnection.read, hidle]
    by_cases h : c.isIdle = true <;> simp [since, h]
  | readFailed text =>
    simp only [step, readFailed, hidle]
    by_cases h : c.isIdle = true <;> simp [since, h]
  | deliver => exact deliver_since ..
  | stop =>
    simp only [step, stop, hidle]
    by_cases h : (c.isIdle && c.isStopping) = true <;> simp [since, finish, h]
  | receive =>
    simp only [step, receive]
    cases hin : c.incoming with
    | cons e incoming => simp [since, hin]
    | nil => by_cases hover : c.isOver = true <;> simp [since, hin, hover]

theorem run_since (events : List Event) : (c.since earlier).run events = (c.run events).since earlier := by
  induction events generalizing c with
  | nil => rfl
  | cons e events ih => rw [run_cons, run_cons, step_since, ih]

end Since

/-- A call that is refused leaves its answer, and whatever comes later is as without it. -/
theorem run_answer (c : TcpConnection) (n : Nat) (r : TransportError) (events : List Event) :
    (c.answer n (.error r)).run events =
      { c.run events with
        outcomes := c.outcomes ++ (n, .error r) :: (c.run events).outcomes.drop c.outcomes.length } := by
  -- Both run as the connection does that has given no answer yet.
  have hanswered : c.answer n (.error r) =
      ({ c with outcomes := [] } : TcpConnection).since (c.outcomes ++ [(n, .error r)]) := by simp [since, answer]
  have hbefore : c = ({ c with outcomes := [] } : TcpConnection).since c.outcomes := by simp [since]
  have hrun : c.run events = (({ c with outcomes := [] } : TcpConnection).run events).since c.outcomes := by
    rw [← run_since, ← hbefore]
  rw [hanswered, run_since, hrun]
  simp [since]

/-! ## Runs -/

theorem run_concat (c : TcpConnection) (events : List Event) (e : Event) :
    c.run (events ++ [e]) = (c.run events).step e :=
  run_append c events [e]

/-- The frames of messages: before each stands its length in four octets. -/
def onWire (messages : List Bytes) : Bytes :=
  (messages.map fun m => Bytes.ofNatBE headerSize m.length ++ m).flatten

theorem frame_of_lt (h : m.length < Bytes.bound headerSize) : frame m = Bytes.ofNatBE headerSize m.length ++ m := by
  have hword : (UInt32.ofNat m.length).toNat = m.length := Nat.mod_eq_of_lt h
  rw [frame, Bytes.ofUInt32, hword, headerSize]

theorem flatten_frames {messages : List Bytes} (h : ∀ m ∈ messages, m.length < Bytes.bound headerSize) :
    (messages.map frame).flatten = onWire messages :=
  congrArg List.flatten (List.map_congr_left fun m hm => frame_of_lt (h m hm))

theorem Move.config (h : Move c e d) : d.config = c.config := by
  cases h with
  | refused | taken | queued | closed => rfl
  | wrote _ _ _ h | resumed _ _ _ h => cases h <;> rfl
  | finished _ h | kept _ _ h => exact h.config

/-- The account of a sender over a run. -/
structure Account (past : List Event) (c : TcpConnection) (taken : List (Nat × Bytes)) : Prop where
  regular : Regular c
  ledger : Ledger past c taken
  wired : Wired past c
  connected : c.isConnected = true ↔ .close ∉ past ∧ c.isOver = false

theorem account_ofConfig {config : TcpConfig} (hc : ofConfig? config = some c) : Account [] c [] := by
  obtain ⟨-, rfl⟩ := ofConfig?_eq_some_iff.1 hc
  exact {
    regular := ⟨nofun, fun h => absurd rfl h, Nat.zero_le _⟩
    ledger := ⟨.refl _, nofun, rfl, rfl⟩
    wired := ⟨List.prefix_rfl, fun _ => rfl⟩
    connected := by simp }

theorem Account.step (a : Account past c taken) (e : Event) :
    ∃ more, Account (past ++ [e]) (c.step e) (taken ++ more) := by
  have h := a.regular.move e
  obtain ⟨more, hledger⟩ := a.ledger.of_move h
  exact ⟨more, a.regular.of_move h, hledger, a.wired.of_move h, isConnected_move a.connected h⟩

theorem exists_account {config : TcpConfig} (hc : ofConfig? config = some c) (events : List Event) :
    ∃ taken, Account events (c.run events) taken := by
  induction events using List.reverseRecOn with
  | nil => exact ⟨[], account_ofConfig hc⟩
  | append_singleton events e ih =>
    obtain ⟨taken, ha⟩ := ih
    rw [run_concat]
    exact ⟨_, (ha.step e).choose_spec⟩

theorem config_run {config : TcpConfig} (hc : ofConfig? config = some c) (events : List Event) :
    (c.run events).config = config := by
  induction events using List.reverseRecOn with
  | nil =>
    obtain ⟨-, rfl⟩ := ofConfig?_eq_some_iff.1 hc
    rfl
  | append_singleton events e ih =>
    obtain ⟨taken, ha⟩ := exists_account hc events
    rw [run_concat, (ha.regular.move e).config, ih]

/-- What becomes of the messages of a run. -/
structure Carried (c : TcpConnection) (events : List Event) (taken : List (Nat × Bytes)) : Prop where
  /-- The message of a call is taken once at most. -/
  once : taken.Subperm (calls events)
  /-- These are the calls that were told so, in that order. -/
  inOrder : taken.map (·.1) = (c.run events).takenCalls
  /-- The four octets before a message tell its length. -/
  lengths : ∀ call ∈ taken, Bytes.toNatBE (Bytes.ofNatBE headerSize call.2.length) = call.2.length
  written : (c.run events).written <+: onWire (taken.map (·.2))
  /-- As long as the socket does not fail, frames are written whole, and no more are missing than the queue holds. -/
  whole : (∀ failure, .write (some failure) ∉ events) → ∃ done later, taken.map (·.2) = done ++ later ∧
    later.length ≤ c.config.channelBufferSize ∧ (c.run events).written = onWire done

/-- How calls are refused after a run. -/
structure Answered (c : TcpConnection) (before : List Event) (e : Event) (n : Nat) : Prop where
  isConnected : (c.run before).isConnected = true ↔ .close ∉ before ∧ (c.run before).isOver = false
  notConnected : (n, .error .notConnected) ∈ (c.run before).reports e ↔
    (∃ m, e.call? = some (n, m)) ∧ (c.run before).isConnected = false
  tooLarge : ∀ length limit, (n, .error (.messageTooLarge length limit)) ∈ (c.run before).reports e ↔
    ∃ m, e.call? = some (n, m) ∧ (c.run before).isConnected = true ∧ c.config.maxMessageSize < m.length ∧
      length = m.length ∧ limit = c.config.maxMessageSize
  full : (n, .error .bufferFull) ∈ (c.run before).reports e ↔
    ∃ m, e = .trySend n m ∧ (c.run before).isConnected = true ∧ m.length ≤ c.config.maxMessageSize ∧
      (c.run before).outgoing.length = c.config.channelBufferSize
  /-- After a close there is one answer. -/
  closed : ∀ m, e.call? = some (n, m) → .close ∈ before → (c.run before).reports e = [(n, .error .notConnected)]
  /-- A call that is refused might as well not have been made. -/
  refused : ∀ m r, e.call? = some (n, m) → (n, .error r) ∈ (c.run before).reports e → ∀ after,
    c.run (before ++ e :: after) =
      { c.run (before ++ after) with
        outcomes := (c.run before).outcomes ++
          (n, .error r) :: (c.run (before ++ after)).outcomes.drop (c.run before).outcomes.length }

theorem Account.carried {start : TcpConnection} (a : Account events (start.run events) taken)
    (hconfig : (start.run events).config = start.config)
    (hw : start.config.maxMessageSize < Bytes.bound headerSize) : Carried start events taken := by
  have hshort : ∀ m ∈ (start.run events).accepted, m.length < Bytes.bound headerSize := by
    intro m hm
    have hle := a.ledger.length_le hm
    rw [hconfig] at hle
    exact Nat.lt_of_le_of_lt hle hw
  have hsplit : taken.map (·.2) = (start.run events).begun ++ (start.run events).outgoing := a.ledger.messages
  have hbegun : ((start.run events).begun.map frame).flatten = onWire (start.run events).begun :=
    flatten_frames fun m hm => hshort m (List.mem_append_left _ hm)
  refine ⟨(List.sublist_append_left ..).subperm.trans a.ledger.made, a.ledger.answered, ?_, ?_, ?_⟩
  · intro call hcall
    rw [Bytes.toNatBE_ofNatBE]
    exact Nat.mod_eq_of_lt (hshort _ (a.ledger.messages ▸ List.mem_map_of_mem hcall))
  · have hsent := a.wired.sent
    rw [hbegun] at hsent
    refine hsent.trans ?_
    rw [hsplit, onWire, onWire, List.map_append, List.flatten_append]
    exact List.prefix_append ..
  · intro hwhole
    refine ⟨_, _, hsplit, ?_, (a.wired.whole (.inr hwhole)).trans hbegun⟩
    have hle := a.regular.bounded
    rwa [hconfig] at hle

theorem Account.answered {start : TcpConnection} (a : Account past (start.run past) taken)
    (hconfig : (start.run past).config = start.config) (e : Event) (n : Nat) : Answered start past e n where
  isConnected := a.connected
  notConnected := by
    rw [a.regular.mem_reports_iff (by simp [channelClosed])]
    constructor
    · rintro ⟨m, he, h⟩
      cases h with
      | notConnected h => exact ⟨⟨m, he⟩, h⟩
    · rintro ⟨⟨m, he⟩, h⟩
      exact ⟨m, he, .notConnected h⟩
  tooLarge := by
    intro length limit
    rw [a.regular.mem_reports_iff (by simp [channelClosed]), ← hconfig]
    constructor
    · rintro ⟨m, he, h⟩
      cases h with
      | tooLarge h hm => exact ⟨m, he, h, hm, rfl, rfl⟩
    · rintro ⟨m, he, h, hm, rfl, rfl⟩
      exact ⟨m, he, .tooLarge h hm⟩
  full := by
    have hfull : (start.run past).hasRoom = false ↔
        (start.run past).outgoing.length = (start.run past).config.channelBufferSize := by
      have hle := a.regular.bounded
      rw [← Bool.not_eq_true, hasRoom_iff]
      omega
    rw [a.regular.mem_reports_iff (by simp [channelClosed]), ← hconfig]
    constructor
    · rintro ⟨m, he, h⟩
      cases h with
      | full k hm hroom =>
        cases he
        have hok := check_eq_ok_iff.1 hm
        exact ⟨m, rfl, hok.1, hok.2, hfull.1 hroom⟩
    · rintro ⟨m, rfl, hconn, hm, hlen⟩
      exact ⟨m, rfl, .full n (check_eq_ok_iff.2 ⟨hconn, hm⟩) (hfull.2 hlen)⟩
  closed := by
    intro m he hclose
    have hconn : (start.run past).isConnected = false := by
      rw [← Bool.not_eq_true, a.connected]
      exact fun h => h.1 hclose
    exact a.regular.reports_of_refuses he (.notConnected hconn)
  refused := by
    intro m r he hr after
    rcases a.regular.refused_or_lost hr with ⟨m, he, h⟩ | ⟨hnone, -⟩
    · rw [run_append, run_append, run_cons, a.regular.step_of_refuses he h, run_answer]
    · rw [he] at hnone
      cases hnone

/-- What a sender takes comes to the socket in the order in which it was taken, each message once, behind its length,
and only its beginning if the socket fails or the loop ends before. A call that is refused adds nothing to that and
changes nothing for later ones. It is refused because the sender is closed or its loop over, whatever its message,
because its message is too long, and only then, or because there is no room and it does not wait. -/
theorem sent_in_order {config : TcpConfig} {c : TcpConnection} (hc : ofConfig? config = some c)
    (hw : config.maxMessageSize < Bytes.bound headerSize) :
    (∀ events, ∃ taken, Carried c events taken) ∧ ∀ before e n, Answered c before e n := by
  have hconfig (events : List Event) : (c.run events).config = c.config :=
    (config_run hc events).trans (config_run hc []).symm
  have hsize : c.config.maxMessageSize < Bytes.bound headerSize := by
    have hstart : c.config = config := config_run hc []
    rwa [hstart]
  constructor
  · intro events
    obtain ⟨taken, ha⟩ := exists_account hc events
    exact ⟨taken, ha.carried (hconfig events) hsize⟩
  · intro before e n
    obtain ⟨taken, ha⟩ := exists_account hc before
    exact ha.answered (hconfig before) e n

/-- The queue has room for one message. One that waits is taken when the first is written; then the socket fails. -/
def crowded : List Event :=
  [.send 0 [1, 2], .trySend 1 [3], .trySend 2 [0, 0, 0, 0], .send 3 [], .write none, .write (some (3, "reset")),
    .close, .close, .send 4 [0, 0, 0, 0], .deliver]

/-- Of the calls two are taken, and the others refused for three reasons. -/
theorem sent_in_order_crowded : ∃ c taken, ofConfig? narrow = some c ∧
    narrow.maxMessageSize < Bytes.bound headerSize ∧ Carried c crowded taken ∧ taken.map (·.1) = [0, 3] ∧
    (c.run crowded).written = [0, 0, 0, 2, 1, 2, 0, 0, 0] ∧
    (1, .error .bufferFull) ∈ (c.run (crowded.take 1)).reports (.trySend 1 [3]) ∧
    (2, .error (.messageTooLarge 4 3)) ∈ (c.run (crowded.take 2)).reports (.trySend 2 [0, 0, 0, 0]) ∧
    (c.run (crowded.take 8)).reports (.send 4 [0, 0, 0, 0]) = [(4, .error .notConnected)] := by
  have hc : ofConfig? narrow = some { config := narrow, reader := { limit := 3 } } := rfl
  have hw : narrow.maxMessageSize < Bytes.bound headerSize := by decide
  obtain ⟨hcarried, hanswered⟩ := sent_in_order hc hw
  obtain ⟨taken, h⟩ := hcarried crowded
  refine ⟨_, taken, hc, hw, h, h.inOrder, rfl, ?_, ?_, ?_⟩
  · exact (hanswered (crowded.take 1) (.trySend 1 [3]) 1).full.2 ⟨[3], rfl, rfl, by decide, rfl⟩
  · exact ((hanswered (crowded.take 2) (.trySend 2 [0, 0, 0, 0]) 2).tooLarge 4 3).2
      ⟨[0, 0, 0, 0], rfl, rfl, by decide, rfl, rfl⟩
  · exact (hanswered (crowded.take 8) (.send 4 [0, 0, 0, 0]) 4).closed [0, 0, 0, 0] rfl (by simp [crowded])

end TcpConnection
end DeskStream
