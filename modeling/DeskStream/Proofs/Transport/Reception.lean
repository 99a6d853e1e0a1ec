import DeskStream.Proofs.Transport.Framing
import DeskStream.Transport.Connection
/-!
# What a connection gives its consumer

The consumer is given what a reader tells of the stream in one piece, whatever pieces it arrives in
and whatever else goes on, as long as nobody closes the connection and the socket does not fail
(`deframing`). That nothing is lost or told twice is an invariant of every step (`Tracks`); that
everything comes through is counted: there is always a duty of the loop or the consumer that is due,
a duty stays due until it is done, and each one done is progress.
-/

namespace DeskStream
namespace TcpConnection

open DeskStream.Frame

variable {c : TcpConnection} {e : Event} {limit : Nat} {ps : List Bytes} {events : List Event}

/-! ## Arrivals -/

/-- What a step reads of the stream. -/
def taken (c : TcpConnection) : Event → List Bytes
  | .read piece => if c.isIdle then [piece] else []
  | _ => []

/-- The pieces that a run reads of the stream. -/
def pieces (c : TcpConnection) : List Event → List Bytes
  | [] => []
  | e :: events => c.taken e ++ (c.step e).pieces events

/-- Neither side of the program ends the connection by this, and the socket does not fail. -/
def Event.keepsOpen : Event → Bool
  | .close | .dropSender | .dropConsumer | .readFailed _ | .write (some _) => false
  | _ => true

/-- The events that the consumer was given. -/
def given (c : TcpConnection) : List LinkEvent := c.received.filterMap id

/-- The loop is over and the consumer has been given everything. -/
def Finished (c : TcpConnection) : Prop := c.isOver = true ∧ c.incoming = []

/-- The half of a connection that reads. -/
def arrivals (c : TcpConnection) : TcpConnection :=
  { c with isConnected := true, waiting := [], outgoing := [], begun := [], written := [], outcomes := [] }

/-- The reader has been fed these pieces, and what it told is with the consumer, on its way, or
waiting for room, in that order. -/
structure Tracks (c : TcpConnection) (limit : Nat) (ps : List Bytes) : Prop where
  fed : FrameReader.feedAll { limit } ps = (c.reader, c.given ++ c.incoming ++ c.told)
  ending : c.isEnding = c.reader.isOver
  ended : c.isOver = true → c.isEnding = true ∧ c.told = []
  owed : c.isEnding = true → c.isOver = false → c.told ≠ []
  received : ∃ j, c.received = c.given.map some ++ List.replicate j none ∧ (0 < j → c.Finished)
  goesOn : c.isStopping = false
  consumed : c.isConsumed = true
  room : 0 < c.config.channelBufferSize

theorem tracks_arrivals : Tracks c.arrivals limit ps ↔ Tracks c limit ps :=
  ⟨fun t => ⟨t.fed, t.ending, t.ended, t.owed, t.received, t.goesOn, t.consumed, t.room⟩,
    fun t => ⟨t.fed, t.ending, t.ended, t.owed, t.received, t.goesOn, t.consumed, t.room⟩⟩

/-- Before everything is given, the consumer is never told that nothing comes. -/
theorem Tracks.received_eq (t : Tracks c limit ps) (hf : ¬c.Finished) : c.received = c.given.map some := by
  obtain ⟨j, hr, hj⟩ := t.received
  obtain rfl : j = 0 := Nat.eq_zero_of_not_pos fun h => hf (hj h)
  simpa using hr

theorem isIdle_iff : c.isIdle = true ↔ c.isOver = false ∧ c.isEnding = false ∧ c.told = [] := by
  simp [isIdle, and_assoc]

theorem tracks_ofConfig {config : TcpConfig} (hc : ofConfig? config = some c) :
    Tracks c config.maxMessageSize [] := by
  unfold ofConfig? at hc
  split at hc
  · rename_i hb
    cases hc
    exact ⟨rfl, rfl, nofun, nofun, ⟨0, rfl, nofun⟩, rfl, rfl, hb.1⟩
  · cases hc

/-! ## Duties -/

/-- What has to be done again and again for the stream to come through. -/
inductive Duty where
  | read
  | deliver
  | receive
  deriving Repr, DecidableEq

/-- The duty that a step does. -/
def Event.duty? : Event → Option Duty
  | .read _ => some .read
  | .deliver => some .deliver
  | .receive => some .receive
  | _ => none

/-- The duty can be done now. -/
def Due (c : TcpConnection) : Duty → Prop
  | .read => c.isIdle = true
  | .deliver => c.isOver = false ∧ c.told ≠ [] ∧ c.incoming.length < c.config.channelBufferSize
  | .receive => c.incoming ≠ []

/-- How far a connection is that has read `n` pieces: an event counts once when it is queued for the
consumer, and once when it is given. -/
def progress (c : TcpConnection) (n : Nat) : Nat :=
  n + (c.given ++ c.incoming).length + c.given.length

/-- As long as not everything is given, something is due. -/
theorem Tracks.exists_due (t : Tracks c limit ps) (hf : ¬c.Finished) : ∃ d, c.Due d := by
  by_cases hin : c.incoming = []
  · have ho : c.isOver = false := by
      cases h : c.isOver with
      | false => rfl
      | true => exact absurd ⟨h, hin⟩ hf
    by_cases ht : c.told = []
    · have he : c.isEnding = false := by
        cases h : c.isEnding with
        | false => rfl
        | true => exact absurd ht (t.owed h ho)
      exact ⟨.read, isIdle_iff.2 ⟨ho, he, ht⟩⟩
    · have hr := t.room
      exact ⟨.deliver, ho, ht, by rwa [hin]⟩
  · exact ⟨.receive, hin⟩

/-! ## One step -/

theorem arrivals_send (call : Nat) (m : Bytes) : (c.send call m).arrivals = c.arrivals := by
  unfold send
  split
  · rfl
  · split
    · rfl
    · split <;> rfl

theorem arrivals_trySend (call : Nat) (m : Bytes) : (c.trySend call m).arrivals = c.arrivals := by
  unfold trySend
  split
  · rfl
  · split
    · rfl
    · split <;> rfl

theorem arrivals_resumeCall : c.resumeCall.arrivals = c.arrivals := by
  unfold resumeCall
  split
  · rfl
  · split <;> rfl

theorem arrivals_write : (c.write none).arrivals = c.arrivals := by
  unfold write
  split
  · exact arrivals_resumeCall
  · rfl

/-- A step that is no duty leaves the reading half alone. -/
theorem Tracks.arrivals_step (t : Tracks c limit ps) (he : e.keepsOpen = true) (hd : e.duty? = none) :
    (c.step e).arrivals = c.arrivals := by
  cases e with
  | send call m => exact arrivals_send call m
  | trySend call m => exact arrivals_trySend call m
  | write failure =>
    cases failure with
    | none => exact arrivals_write
    | some f => cases he
  | stop => simp [step, stop, t.goesOn]
  | read | deliver | receive => cases hd
  | close | dropSender | dropConsumer | readFailed => cases he

/-- A reader that ends has told something. -/
theorem told_of_isOver {r : FrameReader} {piece : Bytes} (ho : r.isOver = false)
    (h : (r.feed piece).1.isOver = true) : (r.feed piece).2 ≠ [] := by
  unfold FrameReader.feed at h ⊢
  simp only [ho, Bool.false_eq_true, if_false] at h ⊢
  by_cases hp : piece = []
  · simp [hp]
  · rw [if_neg hp] at h ⊢
    split at h <;> simp_all

theorem Tracks.read (t : Tracks c limit ps) (piece : Bytes) (hi : c.isIdle = true) :
    Tracks (c.read piece) limit (ps ++ [piece]) := by
  obtain ⟨ho, he, ht⟩ := isIdle_iff.1 hi
  have hr : c.reader.isOver = false := t.ending ▸ he
  have hc : c.read piece = { c with
      reader := (c.reader.feed piece).1, told := (c.reader.feed piece).2
      isEnding := (c.reader.feed piece).1.isOver } := if_pos hi
  rw [hc]
  refine ⟨?_, rfl, ?_, fun h _ => told_of_isOver hr h, t.received, t.goesOn, t.consumed, t.room⟩
  · have hf := t.fed
    rw [ht, List.append_nil] at hf
    rw [FrameReader.feedAll_append, hf]
    simp [FrameReader.feedAll, given]
  · intro h
    rw [ho] at h
    cases h

theorem Tracks.deliver (t : Tracks c limit ps) : Tracks c.deliver limit ps := by
  unfold TcpConnection.deliver
  split
  · rename_i e told ho ht
    -- The loop is not over, so the consumer has only been given events so far.
    have hr : c.received = c.given.map some ++ List.replicate 0 none := by
      rw [t.received_eq fun h => by simp [h.1] at ho]
      simp
    have hf : FrameReader.feedAll { limit } ps = (c.reader, c.given ++ (c.incoming ++ [e]) ++ told) := by
      rw [t.fed, ht]
      simp
    rw [if_neg (by simp [t.consumed])]
    split
    · by_cases hend : (c.isEnding && told.isEmpty) = true
      · obtain ⟨he, rfl⟩ : c.isEnding = true ∧ told = [] := by simpa using hend
        simp only [hend, if_true]
        exact ⟨hf, t.ending, fun _ => ⟨he, rfl⟩, nofun, ⟨0, hr, nofun⟩, t.goesOn, t.consumed,
          t.room⟩
      · simp only [hend]
        refine ⟨hf, t.ending, fun h => ?_, fun he _ h => hend ?_, ⟨0, hr, nofun⟩, t.goesOn,
          t.consumed, t.room⟩
        · simp [ho] at h
        · simpa using ⟨he, h⟩
    · exact t
  · exact t

theorem Tracks.receive (t : Tracks c limit ps) : Tracks c.receive limit ps := by
  unfold TcpConnection.receive
  split
  · rename_i e incoming hin
    have hr : c.received = c.given.map some := t.received_eq fun h => by simp [h.2] at hin
    have hg : (c.received ++ [some e]).filterMap id = c.given ++ [e] := by simp [given]
    refine ⟨?_, t.ending, t.ended, t.owed, ⟨0, ?_, nofun⟩, t.goesOn, t.consumed, t.room⟩
    · rw [given, hg, t.fed, hin]
      simp
    · rw [given, hg, hr]
      simp
  · rename_i hin
    split
    · rename_i ho
      obtain ⟨j, hr, -⟩ := t.received
      have hg : (c.received ++ [none]).filterMap id = c.given := by simp [given]
      refine ⟨?_, t.ending, t.ended, t.owed, ⟨j + 1, ?_, fun _ => ⟨ho, hin⟩⟩, t.goesOn, t.consumed, t.room⟩
      · rw [given, hg, t.fed]
      · rw [given, hg, List.replicate_succ', ← List.append_assoc, ← hr]
    · exact t

/-- Nothing is lost and nothing is told twice in a step. -/
theorem Tracks.step (t : Tracks c limit ps) (he : e.keepsOpen = true) :
    Tracks (c.step e) limit (ps ++ c.taken e) := by
  have other (hd : e.duty? = none) (hk : c.taken e = []) : Tracks (c.step e) limit (ps ++ c.taken e) := by
    rw [hk, List.append_nil, ← tracks_arrivals, t.arrivals_step he hd]
    exact tracks_arrivals.2 t
  cases e with
  | read piece =>
    by_cases hi : c.isIdle = true
    · simpa [TcpConnection.step, taken, hi] using t.read piece hi
    · simpa [TcpConnection.step, TcpConnection.read, taken, hi] using t
  | deliver => simpa [TcpConnection.step, taken] using t.deliver
  | receive => simpa [TcpConnection.step, taken] using t.receive
  | send | trySend | write | stop | close | dropSender | dropConsumer | readFailed => exact other rfl rfl

/-! ## Progress -/

theorem progress_arrivals (n : Nat) : c.arrivals.progress n = c.progress n := rfl

theorem due_arrivals {d : Duty} : c.arrivals.Due d ↔ c.Due d := by
  cases d <;> exact Iff.rfl

theorem read_of_not_due (h : ¬c.Due .read) (piece : Bytes) : c.read piece = c := if_neg h

theorem read_of_due (h : c.Due .read) (piece : Bytes) :
    (c.read piece).given = c.given ∧ (c.read piece).incoming = c.incoming := by
  have hi : c.isIdle = true := h
  simp [TcpConnection.read, hi, given]

theorem deliver_of_not_due (hc : c.isConsumed = true) (h : ¬c.Due .deliver) : c.deliver = c := by
  unfold TcpConnection.deliver
  split
  · rename_i e told ho ht
    have hroom : ¬c.incoming.length < c.config.channelBufferSize := fun hr => h ⟨ho, by simp [ht], hr⟩
    simp [hc, hroom]
  · rfl

theorem deliver_of_due (hc : c.isConsumed = true) (h : c.Due .deliver) :
    c.deliver.given = c.given ∧ ∃ e, c.deliver.incoming = c.incoming ++ [e] := by
  obtain ⟨ho, ht, hroom⟩ := h
  obtain ⟨e, told, ht⟩ := List.exists_cons_of_ne_nil ht
  simp only [TcpConnection.deliver, ho, ht, hc, hroom]
  by_cases hend : (c.isEnding && told.isEmpty) = true
  · exact ⟨by simp [hend, given, finish], e, by simp [hend, finish]⟩
  · exact ⟨by simp [hend, given], e, by simp [hend]⟩

theorem receive_of_not_due (h : ¬c.Due .receive) :
    c.receive.given = c.given ∧ c.receive.incoming = c.incoming := by
  have hin : c.incoming = [] := Classical.byContradiction h
  unfold TcpConnection.receive
  rw [hin]
  dsimp only
  split <;> simp [given, hin]

theorem receive_of_due (h : c.Due .receive) :
    ∃ e, c.incoming = e :: c.receive.incoming ∧ c.receive.given = c.given ++ [e] := by
  obtain ⟨e, incoming, hin⟩ := List.exists_cons_of_ne_nil h
  exact ⟨e, by simp [TcpConnection.receive, hin], by simp [TcpConnection.receive, hin, given]⟩

theorem receive_eq :
    c.receive = { c with incoming := c.receive.incoming, received := c.receive.received } := by
  unfold TcpConnection.receive
  split
  · rfl
  · split <;> rfl

/-- What a duty that is due brings forward. -/
theorem Tracks.progress_lt (t : Tracks c limit ps) {d : Duty} (hd : e.duty? = some d) (h : c.Due d) :
    c.progress ps.length < (c.step e).progress (ps ++ c.taken e).length := by
  cases e with
  | read piece =>
    cases hd
    obtain ⟨hg, hin⟩ := read_of_due h piece
    have hi : c.isIdle = true := h
    simp [progress, TcpConnection.step, taken, hi, hg, hin]
  | deliver =>
    cases hd
    obtain ⟨hg, e, hin⟩ := deliver_of_due t.consumed h
    simp [progress, TcpConnection.step, taken, hg, hin]
  | receive =>
    cases hd
    obtain ⟨e, hin, hg⟩ := receive_of_due h
    simp [progress, TcpConnection.step, taken, hg, hin]
  | send | trySend | write | stop | close | dropSender | dropConsumer | readFailed => cases hd

/-- A step that does not do a duty that is due leaves everything as far as it is. -/
theorem Tracks.progress_eq (t : Tracks c limit ps) (he : e.keepsOpen = true)
    (h : ∀ d, e.duty? = some d → ¬c.Due d) :
    (c.step e).progress (ps ++ c.taken e).length = c.progress ps.length := by
  have other (hd : e.duty? = none) (hk : c.taken e = []) :
      (c.step e).progress (ps ++ c.taken e).length = c.progress ps.length := by
    rw [hk, List.append_nil, ← progress_arrivals, t.arrivals_step he hd, progress_arrivals]
  cases e with
  | read piece =>
    have hn := h .read rfl
    have hi : c.isIdle ≠ true := hn
    simp [TcpConnection.step, taken, hi, read_of_not_due hn]
  | deliver =>
    simp [TcpConnection.step, taken, deliver_of_not_due t.consumed (h .deliver rfl)]
  | receive =>
    obtain ⟨hg, hin⟩ := receive_of_not_due (h .receive rfl)
    simp [progress, TcpConnection.step, taken, hg, hin]
  | send | trySend | write | stop | close | dropSender | dropConsumer | readFailed => exact other rfl rfl

theorem Tracks.progress_le (t : Tracks c limit ps) (he : e.keepsOpen = true) :
    c.progress ps.length ≤ (c.step e).progress (ps ++ c.taken e).length := by
  by_cases h : ∃ d, e.duty? = some d ∧ c.Due d
  · obtain ⟨d, hd, h⟩ := h
    exact Nat.le_of_lt (t.progress_lt hd h)
  · exact Nat.le_of_eq (t.progress_eq he fun d hd hn => h ⟨d, hd, hn⟩).symm

/-- What is due stays due until it is done. -/
theorem Tracks.due_step (t : Tracks c limit ps) (he : e.keepsOpen = true) {d : Duty} (h : c.Due d)
    (hd : e.duty? ≠ some d) : (c.step e).Due d := by
  have other (hn : e.duty? = none) : (c.step e).Due d := by
    rwa [← due_arrivals, t.arrivals_step he hn, due_arrivals]
  cases e with
  | read piece =>
    cases d with
    | read => exact absurd rfl hd
    | deliver =>
      have hn : ¬c.Due .read := fun hi => h.2.1 (isIdle_iff.1 hi).2.2
      simpa [TcpConnection.step, read_of_not_due hn] using h
    | receive =>
      by_cases hi : c.Due .read
      · simpa [TcpConnection.step, Due, (read_of_due hi piece).2] using h
      · simpa [TcpConnection.step, read_of_not_due hi] using h
  | deliver =>
    cases d with
    | read =>
      have hn : ¬c.Due .deliver := fun hi => hi.2.1 (isIdle_iff.1 h).2.2
      simpa [TcpConnection.step, deliver_of_not_due t.consumed hn] using h
    | deliver => exact absurd rfl hd
    | receive =>
      by_cases hi : c.Due .deliver
      · obtain ⟨-, e, hin⟩ := deliver_of_due t.consumed hi
        simp [TcpConnection.step, Due, hin]
      · simpa [TcpConnection.step, deliver_of_not_due t.consumed hi] using h
  | receive =>
    cases d with
    | read =>
      rw [TcpConnection.step, receive_eq]
      exact h
    | deliver =>
      have hle : c.receive.incoming.length ≤ c.incoming.length := by
        by_cases hi : c.Due .receive
        · obtain ⟨e, hin, -⟩ := receive_of_due hi
          rw [hin]
          exact Nat.le_succ _
        · exact Nat.le_of_eq (congrArg List.length (receive_of_not_due hi).2)
      obtain ⟨ho, ht, hroom⟩ := h
      rw [TcpConnection.step, receive_eq]
      exact ⟨ho, ht, Nat.lt_of_le_of_lt hle hroom⟩
    | receive => exact absurd rfl hd
  | send | trySend | write | stop | close | dropSender | dropConsumer | readFailed => exact other rfl

/-- A connection that is finished stays so. -/
theorem Tracks.finished_step (t : Tracks c limit ps) (he : e.keepsOpen = true) (h : c.Finished) :
    (c.step e).Finished := by
  obtain ⟨ho, hin⟩ := h
  cases e with
  | read piece =>
    have hn : ¬c.Due .read := fun hi => by simp [(isIdle_iff.1 hi).1] at ho
    rw [TcpConnection.step, read_of_not_due hn]
    exact ⟨ho, hin⟩
  | deliver =>
    have hn : ¬c.Due .deliver := fun hd => by simp [hd.1] at ho
    rw [TcpConnection.step, deliver_of_not_due t.consumed hn]
    exact ⟨ho, hin⟩
  | receive =>
    have hn : ¬c.Due .receive := fun hd => hd hin
    rw [TcpConnection.step, receive_eq]
    exact ⟨ho, (receive_of_not_due hn).2.trans hin⟩
  | send | trySend | write | stop | close | dropSender | dropConsumer | readFailed =>
    have ha := t.arrivals_step he rfl
    exact ⟨(congrArg isOver ha).trans ho, (congrArg incoming ha).trans hin⟩

/-! ## Runs -/

theorem run_cons (c : TcpConnection) (e : Event) (events : List Event) :
    c.run (e :: events) = (c.step e).run events := rfl

theorem run_append (c : TcpConnection) (events more : List Event) :
    c.run (events ++ more) = (c.run events).run more := List.foldl_append

theorem pieces_append (c : TcpConnection) (events more : List Event) :
    c.pieces (events ++ more) = c.pieces events ++ (c.run events).pieces more := by
  induction events generalizing c with
  | nil => rfl
  | cons e events ih =>
    rw [List.cons_append, pieces, pieces, ih, run_cons, List.append_assoc]

/-- Nothing is lost and nothing is told twice. -/
theorem Tracks.run (t : Tracks c limit ps) (he : ∀ e ∈ events, e.keepsOpen = true) :
    Tracks (c.run events) limit (ps ++ c.pieces events) := by
  induction events generalizing c ps with
  | nil => simpa [pieces, TcpConnection.run] using t
  | cons e events ih =>
    have := ih (t.step (he e (by simp))) fun e h => he e (by simp [h])
    rwa [List.append_assoc] at this

theorem Tracks.progress_run_le (t : Tracks c limit ps) (he : ∀ e ∈ events, e.keepsOpen = true) :
    c.progress ps.length ≤ (c.run events).progress (ps ++ c.pieces events).length := by
  induction events generalizing c ps with
  | nil => simp [pieces, TcpConnection.run]
  | cons e events ih =>
    have h1 := t.progress_le (he e (by simp))
    have h2 := ih (t.step (he e (by simp))) fun e h => he e (by simp [h])
    rw [List.append_assoc] at h2
    exact Nat.le_trans h1 h2

/-- A run in which a duty is done that is due at its beginning makes progress. -/
theorem Tracks.progress_run_lt (t : Tracks c limit ps) (he : ∀ e ∈ events, e.keepsOpen = true) {d : Duty}
    (h : c.Due d) (hd : ∃ e ∈ events, e.duty? = some d) :
    c.progress ps.length < (c.run events).progress (ps ++ c.pieces events).length := by
  induction events generalizing c ps with
  | nil => simp at hd
  | cons e events ih =>
    have he0 := he e (by simp)
    have hrest : ∀ e ∈ events, e.keepsOpen = true := fun e h => he e (by simp [h])
    rw [run_cons, pieces, ← List.append_assoc]
    by_cases hed : e.duty? = some d
    · exact Nat.lt_of_lt_of_le (t.progress_lt hed h) ((t.step he0).progress_run_le hrest)
    · have later : ∃ e ∈ events, e.duty? = some d := by
        obtain ⟨e', hm, hd⟩ := hd
        rcases List.mem_cons.1 hm with rfl | hm
        · exact absurd hd hed
        · exact ⟨e', hm, hd⟩
      exact Nat.lt_of_le_of_lt (t.progress_le he0) (ih (t.step he0) hrest (t.due_step he0 h hed) later)

theorem Tracks.finished_run (t : Tracks c limit ps) (he : ∀ e ∈ events, e.keepsOpen = true)
    (h : c.Finished) : (c.run events).Finished := by
  induction events generalizing c ps with
  | nil => exact h
  | cons e events ih =>
    have he0 := he e (by simp)
    exact ih (t.step he0) (fun e h => he e (by simp [h])) (t.finished_step he0 h)

/-! ## Rounds -/

/-- Every duty has its turn. -/
def IsRound (round : List Event) : Prop := ∀ d : Duty, ∃ e ∈ round, e.duty? = some d

/-- After each round more has been done, until everything is given. -/
theorem Tracks.finished_or_progress (t : Tracks c limit ps) {rounds : List (List Event)}
    (hr : ∀ r ∈ rounds, IsRound r) (he : ∀ e ∈ rounds.flatten, e.keepsOpen = true) :
    (c.run rounds.flatten).Finished ∨
      c.progress ps.length + rounds.length ≤
        (c.run rounds.flatten).progress (ps ++ c.pieces rounds.flatten).length := by
  induction rounds generalizing c ps with
  | nil => exact .inr (by simp [pieces, TcpConnection.run])
  | cons r rounds ih =>
    have he0 : ∀ e ∈ r, e.keepsOpen = true := fun e h => he e (by simp [h])
    have hrest : ∀ e ∈ rounds.flatten, e.keepsOpen = true := fun e h => he e (by simp [h])
    by_cases hf : c.Finished
    · exact .inl (t.finished_run he hf)
    · -- What is due now is done in the first round; the others are the induction hypothesis.
      obtain ⟨d, hd⟩ := t.exists_due hf
      have now := t.progress_run_lt he0 hd (hr r (by simp) d)
      rw [List.flatten_cons, run_append, pieces_append, ← List.append_assoc]
      refine (ih (t.run he0) (fun r h => hr r (by simp [h])) hrest).imp_right fun later => ?_
      rw [List.length_cons]
      omega

/-! ## The whole stream -/

/-- What the consumer was given is the beginning of what is told of the whole stream, and all of it
once nothing comes any more. -/
theorem Tracks.prefix_given (t : Tracks c limit ps) {cuts : List Bytes} (hn : [] ∉ cuts)
    (hp : ps <+: cuts ++ [[]]) :
    c.given ++ c.incoming <+: reading limit cuts.flatten ∧ (c.Finished → c.given = reading limit cuts.flatten) := by
  obtain ⟨more, hmore⟩ := hp
  have ht := FrameReader.told_feedAll limit hn
  rw [← hmore, FrameReader.feedAll_append, t.fed] at ht
  refine ⟨⟨c.told ++ (c.reader.feedAll more).2, by rw [← ht]; simp⟩, fun hf => ?_⟩
  obtain ⟨he, htold⟩ := t.ended hf.1
  have hover : c.reader.isOver = true := t.ending ▸ he
  simpa [FrameReader.feedAll_of_isOver hover, htold, hf.2] using ht

theorem Tracks.progress_le_bound (t : Tracks c limit ps) {cuts : List Bytes} (hn : [] ∉ cuts)
    (hp : ps <+: cuts ++ [[]]) :
    c.progress ps.length ≤ cuts.length + 1 + 2 * (reading limit cuts.flatten).length := by
  have hps := hp.length_le
  have hq := (t.prefix_given hn hp).1.length_le
  simp only [List.length_append, List.length_singleton] at hps hq
  rw [progress, List.length_append]
  omega

/-- A stream is messages that fit, as many as there are, and a rest; cut anywhere into pieces and
followed by its end, it gives the consumer those messages and then how the rest ends reading, and
nothing after that. This holds of any run in which the loop reads those pieces, and whoever waits for
more only waits for its turn: a bounded number of rounds is enough. -/
theorem deframing {config : TcpConfig} {c : TcpConnection} (hc : ofConfig? config = some c)
    (stream : Bytes) :
    let limit := config.maxMessageSize
    ∃ messages rest, Framed limit stream messages rest ∧
      (∀ sent : List Bytes, (∀ m ∈ sent, Fits limit m) → stream = (sent.map frame).flatten →
        messages = sent ∧ ending limit rest = .disconnected) ∧
      ∀ (cuts : List Bytes) (events : List Event), [] ∉ cuts → cuts.flatten = stream →
        (∀ e ∈ events, e.keepsOpen = true) → c.pieces events <+: cuts ++ [[]] →
        let told : List LinkEvent := messages.map .data ++ [ending limit rest]
        (∃ given j, (c.run events).received = given.map some ++ List.replicate j none ∧ given <+: told ∧
          (0 < j → given = told)) ∧
        ∀ rounds : List (List Event), events = rounds.flatten → (∀ r ∈ rounds, IsRound r) →
          cuts.length + 1 + 2 * told.length < rounds.length →
          ∃ j, (c.run events).received = told.map some ++ List.replicate j none := by
  intro limit
  refine ⟨(split limit stream).1, (split limit stream).2.1, framed_split limit stream, ?_, ?_⟩
  · intro sent hf hs
    rw [hs, split_sent hf]
    exact ⟨rfl, rfl⟩
  · intro cuts events hn hcut he hp told
    have t0 := tracks_ofConfig hc
    have t := t0.run he
    rw [List.nil_append] at t
    have hread : reading limit cuts.flatten = told := congrArg (reading limit) hcut
    obtain ⟨hpre, hall⟩ := t.prefix_given hn hp
    rw [hread] at hpre hall
    obtain ⟨j, hr, hj⟩ := t.received
    refine ⟨⟨_, j, hr, (List.prefix_append ..).trans hpre, fun h => hall (hj h)⟩, ?_⟩
    intro rounds hev hround hlen
    -- More rounds than there is progress to make.
    have hfin : (c.run events).Finished := by
      rcases t0.finished_or_progress hround (hev ▸ he) with h | h
      · exact hev ▸ h
      · have hle := t.progress_le_bound hn hp
        rw [List.nil_append, ← hev] at h
        rw [hread] at hle
        omega
    exact ⟨j, by rw [hr, hall hfin]⟩

/-- Messages of three octets, and queues with room for one. -/
def narrow : TcpConfig := { maxMessageSize := 3, channelBufferSize := 1 }

/-- Two frames in three pieces: the first cut is in a header, the second between a frame and most of
the next. -/
def twoFrames : List Bytes := [[0, 0], [0, 2, 1, 2, 0, 0, 0], [0]]

/-- The loop reads, it queues, and the consumer takes, in turn. -/
def turns : List (List Event) :=
  (twoFrames ++ List.replicate 8 []).map fun piece => [.read piece, .deliver, .receive]

/-- Through those queues both messages come, the empty one too. -/
theorem deframing_twoFrames : ∃ c j, ofConfig? narrow = some c ∧
    (c.run turns.flatten).received =
      [some (.data [1, 2]), some (.data []), some .disconnected] ++ List.replicate j none := by
  have hround : ∀ r ∈ turns, IsRound r := by
    intro r hr d
    obtain ⟨piece, -, rfl⟩ := List.mem_map.1 hr
    cases d <;> simp [Event.duty?]
  have hc : ofConfig? narrow = some { config := narrow, reader := { limit := 3 } } := rfl
  obtain ⟨messages, rest, -, hsent, hread⟩ := deframing hc twoFrames.flatten
  obtain ⟨rfl, hend⟩ := hsent [[1, 2], []] (by decide) (by decide)
  obtain ⟨j, hj⟩ := (hread twoFrames turns.flatten (by decide) rfl (by decide)
    ⟨[], by decide +kernel⟩).2 turns rfl hround (by simp [turns, twoFrames])
  rw [hend] at hj
  exact ⟨_, j, hc, hj⟩

end TcpConnection
end DeskStream
