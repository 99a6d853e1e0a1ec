import DeskStream.Proofs.Session.Tasks
/-!
# What a session keeps

State, installed link and generation are changed apart from each other, by calls, by completions that
may come late, and by losses found in several places. `Inv` is what every step keeps, also while a
disconnect is under way and after the user has let go. `Engaged` holds besides as long as the session
is held: between disconnects a state that claims a link has one, and a state that claims an attempt
has one. Here is what becomes of both when one part of a session changes.
-/

namespace DeskStream.Session

variable {s s' s'' : Session} {t : Nat} {old new task : Task}

/-! ## The part of a session that matters here -/

/-- Activities, link, generation, state and peer. -/
structure Core where
  tasks : List (Nat × Task)
  spawned : Nat
  link : Option Link
  generation : Nat
  state : ConnectionState
  peer : Option Peer

def core (s : Session) : Core := ⟨s.tasks, s.spawned, s.link, s.generation, s.state, s.peer⟩

/-- What every step keeps. -/
structure Inv (s : Session) : Prop where
  numbered : s.Numbered
  /-- No attempt is of a generation to come. -/
  past : ∀ x ∈ s.tasks, ∀ g, x.2.attempt? = some g → g ≤ s.generation
  /-- Only the installed link is listened to. -/
  heard : ∀ u l, (u, .listen l false) ∈ s.tasks → s.link = some l
  linked : ∀ l, s.link = some l → l.generation = s.generation ∧ s.state.isConnected ∧ s.peer.isSome
  attempting : 0 < s.attempts → s.attempts = 1 ∧ s.state.isAttempting ∧ s.peer.isSome
  leaving : s.isLeaving → s.link = none ∧ s.attempts = 0

/-- A state that claims a link or an attempt has it, unless a disconnect is under way. -/
def Engaged (s : Session) : Prop :=
  s.isLeaving = false →
    (s.state.isConnected → s.link.isSome) ∧ (s.state.isAttempting → 0 < s.attempts)

theorem Inv.of_core (h : s'.core = s.core) (hi : Inv s) : Inv s' := by
  cases s; cases s'
  simp only [core, Core.mk.injEq] at h
  obtain ⟨rfl, rfl, rfl, rfl, rfl, rfl⟩ := h
  exact ⟨⟨hi.numbered.nodup, hi.numbered.lt⟩, hi.past, hi.heard, hi.linked, hi.attempting, hi.leaving⟩

theorem Engaged.of_core (h : s'.core = s.core) (he : Engaged s) : Engaged s' := by
  cases s; cases s'
  simp only [core, Core.mk.injEq] at h
  obtain ⟨rfl, rfl, rfl, rfl, rfl, rfl⟩ := h
  exact he

/-- What a step of a held session leads to. -/
structure Kept (s s' : Session) : Prop where
  inv : Inv s'
  engaged : Engaged s → Engaged s'

theorem Kept.of_both (h : Inv s' ∧ Engaged s') : Kept s s' := ⟨h.1, fun _ => h.2⟩

theorem Kept.of_core (hi : Inv s) (h : s'.core = s.core) : Kept s s' := ⟨hi.of_core h, .of_core h⟩

theorem Kept.trans (h : Kept s s') (h' : Kept s' s'') : Kept s s'' := ⟨h'.inv, h'.engaged ∘ h.engaged⟩

theorem Kept.congr (h : Kept s s') (hc : s''.core = s'.core) : Kept s s'' := h.trans (.of_core h.inv hc)

/-! ## Changes of the table alone -/

/-- Activities may end, and plain ones may begin. -/
theorem Inv.of_table (hi : Inv s) (hn : s'.Numbered)
    (hc : s'.core = { s.core with tasks := s'.tasks, spawned := s'.spawned })
    (hm : ∀ x ∈ s'.tasks, x ∈ s.tasks ∨ x.2.isPlain) (ha : s'.attempts ≤ s.attempts)
    (hj : s'.count Task.isJoin ≤ s.count Task.isJoin) : Inv s' := by
  simp only [core, Core.mk.injEq, true_and] at hc
  obtain ⟨hl, hg, hs, hp⟩ := hc
  refine ⟨hn, ?_, ?_, ?_, ?_, ?_⟩
  · intro x hx g hxg
    rw [hg]
    rcases hm x hx with hx | hx
    · exact hi.past x hx g hxg
    · -- A plain activity has no generation.
      have := Task.isAttempt_of_isPlain hx g
      simp [Task.isAttempt, hxg] at this
  · intro u l hx
    rw [hl]
    rcases hm _ hx with hx | hx
    · exact hi.heard u l hx
    · simp [Task.isPlain] at hx
  · rw [hl, hg, hs, hp]; exact hi.linked
  · intro h
    have := hi.attempting (by omega)
    rw [hs, hp]
    exact ⟨by omega, this.2⟩
  · intro h
    rw [isLeaving_eq, decide_eq_true_eq] at h
    have := hi.leaving (by rw [isLeaving_eq, decide_eq_true_eq]; omega)
    exact ⟨hl.trans this.1, by omega⟩

theorem Kept.of_table (hi : Inv s') (hs : s'.state = s.state) (hl : s'.link = s.link)
    (ha : s'.attempts = s.attempts) (hj : s'.count Task.isJoin = s.count Task.isJoin) : Kept s s' := by
  refine ⟨hi, ?_⟩
  intro he
  unfold Engaged at he ⊢
  rw [isLeaving_eq] at he ⊢
  rw [hs, hl, ha, hj]
  exact he

theorem Inv.spawn (hi : Inv s) (hp : task.isPlain) : Inv (s.spawn task) := by
  apply hi.of_table (hi.numbered.spawn task) rfl
  · intro x hx
    rcases mem_spawn.1 hx with hx | rfl
    · exact .inl hx
    · exact .inr hp
  · exact Nat.le_of_eq (count_spawn_same s (Task.isAttempt_of_isPlain hp _))
  · exact Nat.le_of_eq (count_spawn_same s (Task.isJoin_of_isPlain hp))

theorem Kept.spawn (hi : Inv s) (hp : task.isPlain) : Kept s (s.spawn task) :=
  .of_table (hi.spawn hp) rfl rfl (count_spawn_same s (Task.isAttempt_of_isPlain hp _))
    (count_spawn_same s (Task.isJoin_of_isPlain hp))

theorem Inv.put (hi : Inv s) (t : Nat) (hp : new.isPlain) : Inv (s.put t new) := by
  apply hi.of_table (hi.numbered.put t new) rfl
  · intro x hx
    rcases mem_put hx with hx | rfl
    · exact .inl hx
    · exact .inr hp
  · exact count_put_le s t (Task.isAttempt_of_isPlain hp _)
  · exact count_put_le s t (Task.isJoin_of_isPlain hp)

theorem Inv.erase (hi : Inv s) (t : Nat) : Inv (s.erase t) :=
  hi.of_table (hi.numbered.erase t) rfl (fun _ hx => .inl (mem_erase.1 hx).1)
    (count_erase_le s t _) (count_erase_le s t _)

/-- Activities that are neither a present attempt nor a disconnect under way may change and end. -/
def Slight (s : Session) (t : Nat) : Prop :=
  ∃ old, s.task? t = some old ∧ old.isAttempt s.generation = false ∧ old.isJoin = false

theorem Kept.put (hi : Inv s) (ht : Slight s t) (hp : new.isPlain) : Kept s (s.put t new) := by
  obtain ⟨old, h, ha, hj⟩ := ht
  refine .of_table (hi.put t hp) rfl rfl ?_ ?_
  · exact count_put_same hi.numbered h ((Task.isAttempt_of_isPlain hp _).trans ha.symm)
  · exact count_put_same hi.numbered h ((Task.isJoin_of_isPlain hp).trans hj.symm)

theorem Kept.erase (hi : Inv s) (ht : Slight s t) : Kept s (s.erase t) := by
  obtain ⟨old, h, ha, hj⟩ := ht
  exact .of_table (hi.erase t) rfl rfl (count_erase_same hi.numbered h ha) (count_erase_same hi.numbered h hj)

theorem Kept.answer (hi : Inv s) (ht : Slight s t) (call : Nat) (o : Outcome) : Kept s (s.answer t call o) :=
  (Kept.erase hi ht).congr (by rfl)

/-! ## Changes of state -/

@[simp] theorem transition_state (s : Session) (g : Nat) (allowed : ConnectionState → Bool)
    (next : ConnectionState) :
    (s.transition g allowed next).state = if s.generation = g ∧ allowed s.state then next else s.state := by
  unfold transition
  split <;> split <;> simp_all

/-- A transition changes the state and the record of it alone. -/
@[simp] theorem transition_frame (s : Session) (g : Nat) (allowed : ConnectionState → Bool)
    (next : ConnectionState) :
    (s.transition g allowed next).config = s.config ∧ (s.transition g allowed next).link = s.link ∧
      (s.transition g allowed next).generation = s.generation ∧ (s.transition g allowed next).peer = s.peer ∧
      (s.transition g allowed next).tasks = s.tasks ∧ (s.transition g allowed next).spawned = s.spawned := by
  unfold transition
  split <;> simp

theorem transition_core (s : Session) (g : Nat) (allowed : ConnectionState → Bool) (next : ConnectionState) :
    (s.transition g allowed next).core = { s.core with state := (s.transition g allowed next).state } := by
  simp [core]

/-- A state may be taken that claims no more than there is. -/
theorem Inv.withState (hi : Inv s) (hc : s'.core = { s.core with state := s'.state })
    (hl : s.link.isSome → s'.state.isConnected) (ha : 0 < s.attempts → s'.state.isAttempting) : Inv s' := by
  cases s; cases s'
  simp only [core, Core.mk.injEq, true_and] at hc
  obtain ⟨rfl, rfl, rfl, rfl, rfl⟩ := hc
  refine ⟨⟨hi.numbered.nodup, hi.numbered.lt⟩, hi.past, hi.heard, ?_, ?_, hi.leaving⟩
  · intro l h
    have := hi.linked l h
    exact ⟨this.1, hl (Option.isSome_iff_exists.2 ⟨l, h⟩), this.2.2⟩
  · intro h
    have := hi.attempting h
    exact ⟨this.1, ha h, this.2.2⟩

/-- A state that claims nothing needs nothing. -/
theorem engaged_of_canConnect (h : s.state.canConnect) : Engaged s := by
  intro _
  cases hs : s.state <;>
    simp_all [ConnectionState.canConnect, ConnectionState.isConnected, ConnectionState.isAttempting]

theorem engaged_of_link (hl : s.link.isSome) (hs : s.state.isConnected) : Engaged s := by
  intro _
  constructor
  · intro _
    exact hl
  · intro h
    cases hst : s.state <;> simp_all [ConnectionState.isConnected, ConnectionState.isAttempting]

theorem engaged_of_attempt (ha : 0 < s.attempts) (hs : s.state.isAttempting) : Engaged s := by
  intro _
  constructor
  · intro h
    cases hst : s.state <;> simp_all [ConnectionState.isConnected, ConnectionState.isAttempting]
  · intro _
    exact ha

/-! ## A new generation -/

/-- Nothing is connected, attempted or listened to: the session after its link has been taken from it. -/
structure Bare (s : Session) : Prop where
  numbered : s.Numbered
  past : ∀ x ∈ s.tasks, ∀ g, x.2.attempt? = some g → g ≤ s.generation
  unheard : ∀ u l, (u, Task.listen l false) ∉ s.tasks
  link : s.link = none
  attempts : s.attempts = 0

theorem Bare.inv (hb : Bare s) : Inv s :=
  ⟨hb.numbered, hb.past, fun u l h => absurd h (hb.unheard u l), fun l h => by simp [hb.link] at h,
    fun h => by simp [hb.attempts] at h, fun _ => ⟨hb.link, hb.attempts⟩⟩

theorem Inv.bare (hi : Inv s) (hl : s.link = none) (ha : s.attempts = 0) : Bare s :=
  ⟨hi.numbered, hi.past, fun u l h => by simpa [hl] using hi.heard u l h, hl, ha⟩

/-- No attempt is of a generation that has just begun. -/
theorem attempts_supersede (hi : Inv s) : s.supersede.attempts = 0 := by
  apply count_eq_zero.2
  intro x hx
  cases h : x.2.attempt? with
  | none => simp [Task.isAttempt, h]
  | some g =>
    -- Attempts are of generations before the one that has begun.
    have := hi.past x hx g h
    simp [Task.isAttempt, h, supersede]
    omega

/-- Whatever the state, a session that lets go of its link has nothing left. -/
theorem Inv.bare_letGo (hi : Inv s) : Bare s.letGo := by
  have hp : ∀ x ∈ s.tasks, ∀ g, x.2.attempt? = some g → g ≤ s.generation + 1 :=
    fun x hx g h => Nat.le_succ_of_le (hi.past x hx g h)
  unfold letGo
  cases hl : s.link with
  | none =>
    exact ⟨⟨hi.numbered.nodup, hi.numbered.lt⟩, hp, fun u l h => by simpa [hl] using hi.heard u l h, rfl,
      attempts_supersede hi⟩
  | some l =>
    have hn : s.supersede.Numbered := ⟨hi.numbered.nodup, hi.numbered.lt⟩
    refine ⟨hn.cancel _, ?_, ?_, rfl, ?_⟩
    · intro x hx g h
      obtain ⟨y, hy, rfl⟩ := mem_cancel.1 hx
      exact hp y hy g (by simpa using h)
    · intro u k h
      -- A loop that took messages listened to this very link, and was told.
      obtain ⟨⟨v, task⟩, hy, he⟩ := mem_cancel.1 h
      cases task <;> simp only [Task.told, Prod.mk.injEq, reduceCtorEq, and_false] at he
      simp only [Task.listen.injEq, Bool.false_eq, Bool.or_eq_false_iff] at he
      obtain ⟨rfl, rfl, rfl, hk⟩ := he
      have := hi.heard _ _ hy
      rw [hl, Option.some.injEq] at this
      simp [this] at hk
    · exact (count_cancel _ _ _ (Task.isAttempt_told _ _)).trans (attempts_supersede hi)

theorem Bare.put (hb : Bare s) (t : Nat) (hp : new.isPlain ∨ new.isJoin) : Bare (s.put t new) := by
  have hna : ∀ g, new.attempt? ≠ some g := by
    intro g h
    cases new <;> simp_all [Task.isPlain, Task.isJoin, Task.attempt?]
  refine ⟨hb.numbered.put t new, ?_, ?_, hb.link, ?_⟩
  · intro x hx g hxg
    rcases mem_put hx with hx | rfl
    · exact hb.past x hx g hxg
    · exact absurd hxg (hna g)
  · intro u l h
    rcases mem_put h with h | h
    · exact hb.unheard u l h
    · simp only [Prod.mk.injEq] at h
      obtain ⟨-, rfl⟩ := h
      simp [Task.isPlain, Task.isJoin] at hp
  · have := count_put_le s t (show new.isAttempt s.generation = false by simp [Task.isAttempt, hna])
    exact Nat.le_zero.1 (hb.attempts ▸ this)

theorem Bare.erase (hb : Bare s) (t : Nat) : Bare (s.erase t) :=
  (hb.inv.erase t).bare hb.link (Nat.le_zero.1 (hb.attempts ▸ count_erase_le s t _))

theorem Bare.spawn (hb : Bare s) (hp : task.isPlain) : Bare (s.spawn task) :=
  (hb.inv.spawn hp).bare hb.link ((count_spawn_same s (Task.isAttempt_of_isPlain hp _)).trans hb.attempts)

theorem Bare.withState (hb : Bare s) (hc : s'.core = { s.core with state := s'.state }) : Bare s' := by
  have hi : Inv s' := hb.inv.withState hc (by simp [hb.link]) (by simp [hb.attempts])
  cases s; cases s'
  simp only [core, Core.mk.injEq, true_and] at hc
  obtain ⟨rfl, rfl, rfl, rfl, rfl⟩ := hc
  exact hi.bare hb.link hb.attempts

/-! ## Attempts begin and end -/

/-- The one attempt there may be is this activity. -/
def Attempts (s : Session) (t : Nat) : Prop :=
  s.state.isAttempting ∧ s.peer.isSome ∧ s.isLeaving = false ∧
    ∃ old, s.task? t = some old ∧ s.attempts = (old.isAttempt s.generation).toNat

theorem Inv.put_dial (hi : Inv s) (ha : Attempts s t) (call : Option Nat) (peer : Peer) :
    Inv (s.put t (.dial call s.generation peer)) ∧ Engaged (s.put t (.dial call s.generation peer)) := by
  obtain ⟨hs, hp, hj, old, h, hone⟩ := ha
  have hcount : (s.put t (.dial call s.generation peer)).attempts = 1 := by
    have hnew : (Task.dial call s.generation peer).isAttempt s.generation = true := by simp
    have := count_put hi.numbered h (.dial call s.generation peer) (Task.isAttempt s.generation)
    rw [hnew, show s.count _ = _ from hone] at this
    exact Nat.add_right_cancel (this.trans (Nat.add_comm _ _))
  have hjoin : (s.put t (.dial call s.generation peer)).isLeaving = false := by
    rw [isLeaving_eq, decide_eq_false_iff_not] at hj ⊢
    have := count_put_le s t (show (Task.dial call s.generation peer).isJoin = false from rfl)
    omega
  refine ⟨⟨hi.numbered.put _ _, ?_, ?_, hi.linked, fun _ => ⟨hcount, hs, hp⟩,
    ?_⟩, engaged_of_attempt (by omega) hs⟩
  · intro x hx g hxg
    rcases mem_put hx with hx | rfl
    · exact hi.past x hx g hxg
    · simp only [Task.attempt?, Option.some.injEq] at hxg
      exact Nat.le_of_eq hxg.symm
  · intro u l hx
    rcases mem_put hx with hx | hx
    · exact hi.heard u l hx
    · simp at hx
  · intro hl
    simp [hjoin] at hl

theorem Attempts.link (hi : Inv s) (ha : Attempts s t) : s.link = none := by
  cases hl : s.link with
  | none => rfl
  | some l =>
    have := (hi.linked l hl).2.1
    cases hst : s.state <;> simp_all [Attempts, ConnectionState.isAttempting, ConnectionState.isConnected]

/-- Once its one attempt has ended a session has none. -/
theorem Inv.erase_attempt (hi : Inv s) (ha : Attempts s t) : Bare (s.erase t) := by
  have hl := ha.link hi
  obtain ⟨-, -, -, old, h, hone⟩ := ha
  apply (hi.erase t).bare hl
  have := count_erase hi.numbered h (Task.isAttempt s.generation)
  rw [show s.count _ = _ from hone] at this
  exact Nat.add_right_cancel (this.trans (Nat.zero_add _).symm)

theorem Inv.put_attempt (hi : Inv s) (ha : Attempts s t) (hp : new.isPlain) : Bare (s.put t new) := by
  have hl := ha.link hi
  obtain ⟨-, -, -, old, h, hone⟩ := ha
  apply (hi.put t hp).bare hl
  have := count_put hi.numbered h new (Task.isAttempt s.generation)
  rw [show s.count _ = _ from hone, Task.isAttempt_of_isPlain hp] at this
  exact Nat.add_right_cancel (this.trans (Nat.zero_add _).symm)

end DeskStream.Session
