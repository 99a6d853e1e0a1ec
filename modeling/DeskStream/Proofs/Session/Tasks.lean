import DeskStream.Session.Step
import Mathlib.Data.List.Nodup
/-!
# The table of activities

Activities carry the number under which they began. While no number is used twice, an activity that
is found under its number stands in one place (`task?_split`), so the activities of a kind can be
counted through every change of the table: `count_spawn`, `count_put`, `count_erase`, `count_cancel`.
-/

namespace DeskStream

namespace Task

/-- The generation of a connection attempt: an outstanding connector call, or a reconnect timer. -/
def attempt? : Task → Option Nat
  | .dial _ g _ | .timer g => some g
  | _ => none

/-- A connection attempt of a generation. -/
def isAttempt (g : Nat) (task : Task) : Bool := task.attempt? = some g

def isJoin : Task → Bool
  | .join .. => true
  | _ => false

def isWrite : Task → Bool
  | .write .. => true
  | _ => false

/-- A packet to send, not looked at yet. -/
def isSend : Task → Bool
  | .send .. => true
  | _ => false

/-- A packet on its way to a link. -/
def isSending : Task → Bool
  | .send .. | .queued .. | .write .. => true
  | _ => false

/-- Neither an attempt, nor a disconnect under way, nor a receive loop that takes messages. -/
def isPlain : Task → Bool
  | .dial .. | .timer _ | .join .. | .listen _ false => false
  | _ => true

/-- An activity once a link's receive loop was told to end. -/
def told (link : Nat) : Task → Task
  | .listen l cancelled => .listen l (cancelled || l.number = link)
  | task => task

@[simp] theorem isAttempt_dial (call : Option Nat) (g g' : Nat) (peer : Peer) :
    (dial call g peer).isAttempt g' = decide (g = g') := by
  simp [isAttempt, attempt?]

@[simp] theorem isAttempt_timer (g g' : Nat) : (timer g).isAttempt g' = decide (g = g') := by
  simp [isAttempt, attempt?]

@[simp] theorem attempt?_told (link : Nat) (task : Task) : (task.told link).attempt? = task.attempt? := by
  cases task <;> rfl

@[simp] theorem isAttempt_told (g link : Nat) (task : Task) :
    (task.told link).isAttempt g = task.isAttempt g := by
  simp [isAttempt]

@[simp] theorem isJoin_told (link : Nat) (task : Task) : (task.told link).isJoin = task.isJoin := by
  cases task <;> rfl

@[simp] theorem isSending_told (link : Nat) (task : Task) : (task.told link).isSending = task.isSending := by
  cases task <;> rfl

theorem told_of_isSending {task : Task} (h : task.isSending) (link : Nat) : task.told link = task := by
  cases task <;> simp_all [isSending, told]

theorem isAttempt_of_isPlain {task : Task} (h : task.isPlain) (g : Nat) : task.isAttempt g = false := by
  cases task <;> simp_all [isPlain, isAttempt, attempt?]

theorem isJoin_of_isPlain {task : Task} (h : task.isPlain) : task.isJoin = false := by
  cases task <;> simp_all [isPlain, isJoin]

end Task

namespace Session

variable {s : Session} {t : Nat} {old new task : Task} {p : Task → Bool}

/-- No number is used twice, and those to come are unused. -/
structure Numbered (s : Session) : Prop where
  nodup : (s.tasks.map (·.1)).Nodup
  lt : ∀ x ∈ s.tasks, x.1 < s.spawned

/-- How many activities are of a kind. -/
def count (s : Session) (p : Task → Bool) : Nat := s.tasks.countP fun x => p x.2

/-- How many connection attempts of the present generation there are. -/
def attempts (s : Session) : Nat := s.count (Task.isAttempt s.generation)

/-! ## Finding an activity -/

theorem task?_split (h : s.task? t = some task) :
    ∃ a b, s.tasks = a ++ (t, task) :: b ∧ ∀ x ∈ a, x.1 ≠ t := by
  obtain ⟨a, b, he, ha⟩ := List.lookup_eq_some_iff.1 h
  refine ⟨a, b, he, ?_⟩
  intro x hx
  have := ha x hx
  simp only [bne_iff_ne] at this
  exact this.symm

theorem task?_mem (h : s.task? t = some task) : (t, task) ∈ s.tasks := by
  obtain ⟨a, b, he, -⟩ := task?_split h
  simp [he]

/-- With unique numbers the activity stands in one place. -/
theorem Numbered.split (hn : s.Numbered) (h : s.task? t = some task) :
    ∃ a b, s.tasks = a ++ (t, task) :: b ∧ (∀ x ∈ a, x.1 ≠ t) ∧ ∀ x ∈ b, x.1 ≠ t := by
  obtain ⟨a, b, he, ha⟩ := task?_split h
  -- A second place would use the number twice.
  have hd := hn.nodup
  rw [he, List.map_append, List.map_cons, List.nodup_append, List.nodup_cons] at hd
  exact ⟨a, b, he, ha, fun x hx hxt => hd.2.1.1 (List.mem_map.2 ⟨x, hx, hxt⟩)⟩

theorem Numbered.eq_of_mem (hn : s.Numbered) (h : s.task? t = some task) {other : Task}
    (ho : (t, other) ∈ s.tasks) : other = task := by
  have := List.inj_on_of_nodup_map hn.nodup ho (task?_mem h) rfl
  simpa using this

theorem Numbered.task?_of_mem (hn : s.Numbered) (h : (t, task) ∈ s.tasks) : s.task? t = some task := by
  cases hl : s.task? t with
  | none =>
    have := List.lookup_eq_none_iff.1 hl (t, task) h
    simp at this
  | some other => rw [hn.eq_of_mem hl h]

/-! ## Counting through the changes of the table -/

@[simp] theorem count_spawn (s : Session) (task : Task) (p : Task → Bool) :
    (s.spawn task).count p = s.count p + (p task).toNat := by
  cases h : p task <;> simp [count, spawn, h]

theorem count_spawn_same (s : Session) (h : p task = false) : (s.spawn task).count p = s.count p := by
  simp [h]

theorem count_put (hn : s.Numbered) (h : s.task? t = some old) (new : Task) (p : Task → Bool) :
    (s.put t new).count p + (p old).toNat = s.count p + (p new).toNat := by
  obtain ⟨a, b, he, ha, hb⟩ := hn.split h
  -- Around that place nothing changes.
  have keep : ∀ l : List (Nat × Task), (∀ x ∈ l, x.1 ≠ t) →
      (l.map fun x => (x.1, if x.1 = t then new else x.2)) = l := by
    intro l hl
    conv_rhs => rw [← List.map_id l]
    exact List.map_congr_left fun x hx => by simp [hl x hx]
  simp only [count, put, he, List.map_append, List.map_cons, keep a ha, keep b hb, if_true,
    List.countP_append, List.countP_cons]
  cases p old <;> cases p new <;> simp <;> omega

/-- An activity that is over leaves the others in their places. -/
theorem Numbered.split_erase (hn : s.Numbered) (h : s.task? t = some task) :
    ∃ a b, s.tasks = a ++ (t, task) :: b ∧ (s.erase t).tasks = a ++ b := by
  obtain ⟨a, b, he, ha, hb⟩ := hn.split h
  have keep : ∀ l : List (Nat × Task), (∀ x ∈ l, x.1 ≠ t) → l.filter (·.1 ≠ t) = l :=
    fun l hl => List.filter_eq_self.2 fun x hx => by simpa using hl x hx
  refine ⟨a, b, he, ?_⟩
  simp only [erase, he, List.filter_append, List.filter_cons, keep a ha, keep b hb, ne_eq, not_true,
    decide_false, Bool.false_eq_true, if_false]

theorem count_erase (hn : s.Numbered) (h : s.task? t = some old) (p : Task → Bool) :
    (s.erase t).count p + (p old).toNat = s.count p := by
  obtain ⟨a, b, he, ha⟩ := hn.split_erase h
  simp only [count, he, ha, List.countP_append, List.countP_cons]
  cases p old <;> simp
  omega

theorem count_put_same (hn : s.Numbered) (h : s.task? t = some old) (hp : p new = p old) :
    (s.put t new).count p = s.count p := by
  have := count_put hn h new p
  rw [hp] at this
  exact Nat.add_right_cancel this

theorem count_erase_same (hn : s.Numbered) (h : s.task? t = some old) (hp : p old = false) :
    (s.erase t).count p = s.count p := by
  have := count_erase hn h p
  rwa [hp] at this

theorem count_put_le (s : Session) (t : Nat) (h : p new = false) : (s.put t new).count p ≤ s.count p := by
  simp only [count, put, List.countP_map]
  apply List.countP_mono_left
  intro x _ hx
  by_cases hxt : x.1 = t <;> simp_all

theorem count_erase_le (s : Session) (t : Nat) (p : Task → Bool) : (s.erase t).count p ≤ s.count p :=
  List.filter_sublist.countP_le

theorem cancel_tasks (s : Session) (link : Nat) :
    (s.cancel link).tasks = s.tasks.map fun x => (x.1, x.2.told link) := by
  simp only [cancel]
  apply List.map_congr_left
  intro x _
  cases x.2 <;> rfl

theorem count_cancel (s : Session) (link : Nat) (p : Task → Bool)
    (hp : ∀ task, p (task.told link) = p task) : (s.cancel link).count p = s.count p := by
  simp only [count, cancel_tasks, List.countP_map]
  exact List.countP_congr fun x _ => by simp [hp]

theorem count_eq_zero : s.count p = 0 ↔ ∀ x ∈ s.tasks, p x.2 = false := by
  simp [count, List.countP_eq_zero]

theorem count_pos_of_mem {x : Nat × Task} (hx : x ∈ s.tasks) (hp : p x.2 = true) : 0 < s.count p :=
  List.countP_pos_iff.2 ⟨x, hx, hp⟩

theorem isLeaving_eq (s : Session) : s.isLeaving = decide (0 < s.count Task.isJoin) := by
  rw [Bool.eq_iff_iff, decide_eq_true_eq, count, List.countP_pos_iff, isLeaving, List.any_eq_true]
  refine exists_congr fun ⟨_, task⟩ => and_congr_right ?_
  intro _
  cases task <;> simp [Task.isJoin]

/-! ## Members through the changes of the table -/

theorem mem_spawn {x : Nat × Task} : x ∈ (s.spawn task).tasks ↔ x ∈ s.tasks ∨ x = (s.spawned, task) := by
  simp [spawn]

theorem mem_erase {x : Nat × Task} : x ∈ (s.erase t).tasks ↔ x ∈ s.tasks ∧ x.1 ≠ t := by
  simp [erase]

theorem mem_put {x : Nat × Task} (h : x ∈ (s.put t new).tasks) : x ∈ s.tasks ∨ x = (t, new) := by
  simp only [put, List.mem_map] at h
  obtain ⟨y, hy, rfl⟩ := h
  by_cases hyt : y.1 = t
  · exact .inr (by simp [hyt])
  · exact .inl (by simpa [hyt] using hy)

theorem eq_of_mem_put {x : Nat × Task} (h : x ∈ (s.put t new).tasks) (hx : x.1 = t) : x.2 = new := by
  simp only [put, List.mem_map] at h
  obtain ⟨y, -, rfl⟩ := h
  exact if_pos hx

theorem mem_cancel {x : Nat × Task} {link : Nat} :
    x ∈ (s.cancel link).tasks ↔ ∃ y ∈ s.tasks, x = (y.1, y.2.told link) := by
  simp only [cancel_tasks, List.mem_map, eq_comm]

theorem mem_put_self (h : s.task? t = some old) (new : Task) : (t, new) ∈ (s.put t new).tasks := by
  simp only [put, List.mem_map]
  exact ⟨(t, old), task?_mem h, by simp⟩

/-! ## Numbers stay unique -/

theorem Numbered.spawn (hn : s.Numbered) (task : Task) : (s.spawn task).Numbered where
  nodup := by
    simp only [Session.spawn, List.map_append, List.map_cons, List.map_nil]
    refine List.nodup_append.2 ⟨hn.nodup, by simp, ?_⟩
    intro a ha b hb
    obtain ⟨x, hx, rfl⟩ := List.mem_map.1 ha
    have := hn.lt x hx
    simp only [List.mem_singleton] at hb
    omega
  lt x hx := by
    rcases mem_spawn.1 hx with hx | rfl
    · exact Nat.lt_succ_of_lt (hn.lt x hx)
    · exact Nat.lt_succ_self _

theorem Numbered.put (hn : s.Numbered) (t : Nat) (new : Task) : (s.put t new).Numbered where
  nodup := by
    have : (s.put t new).tasks.map (·.1) = s.tasks.map (·.1) := by
      simp [Session.put, Function.comp_def]
    rw [this]; exact hn.nodup
  lt x hx := by
    simp only [Session.put, List.mem_map] at hx
    obtain ⟨y, hy, rfl⟩ := hx
    exact hn.lt y hy

theorem Numbered.erase (hn : s.Numbered) (t : Nat) : (s.erase t).Numbered where
  nodup := hn.nodup.sublist (List.filter_sublist.map _)
  lt x hx := hn.lt x (mem_erase.1 hx).1

theorem Numbered.cancel (hn : s.Numbered) (link : Nat) : (s.cancel link).Numbered where
  nodup := by
    have : (s.cancel link).tasks.map (·.1) = s.tasks.map (·.1) := by
      simp [cancel_tasks, Function.comp_def]
    rw [this]; exact hn.nodup
  lt x hx := by
    obtain ⟨y, hy, rfl⟩ := mem_cancel.1 hx
    exact hn.lt y hy

/-! ## Reports for which no activity waits -/

section
variable {s : Session} {t : Nat}

theorem step_dialDone_idle (h : ¬ ∃ call g peer, s.task? t = some (.dial call g peer)) (m : Moment)
    (result : Except TransportError Unit) : s.step m (.dialDone t result) = s := by
  simp only [step]
  split
  · exact absurd ⟨_, _, _, ‹_›⟩ h
  · rfl

theorem step_intervalOver_idle (h : ¬ ∃ g, s.task? t = some (.timer g)) (m : Moment) :
    s.step m (.intervalOver t) = s := by
  simp only [step]
  split
  · exact absurd ⟨_, ‹_›⟩ h
  · rfl

theorem step_writeDone_idle (h : ¬ ∃ origin l n message, s.task? t = some (.write origin l n message)) (m : Moment)
    (result : Except TransportError Unit) : s.step m (.writeDone t result) = s := by
  simp only [step]
  split
  · exact absurd ⟨_, _, _, _, ‹_›⟩ h
  · rfl

theorem step_receive_idle (h : ¬ ∃ l, s.task? t = some (.listen l false)) (m : Moment) (message : Bytes) :
    s.step m (.receive t message) = s := by
  simp only [step]
  split
  · exact absurd ⟨_, ‹_›⟩ h
  · rfl

end

end Session
end DeskStream
