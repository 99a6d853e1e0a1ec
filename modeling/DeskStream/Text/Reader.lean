/-!
# Readers

A reader takes characters from the front of a text, or refuses it. An alternative starts again where
the refused one started.

Main statement: what `many` reads and what it leaves are never longer than what it was given
(`length_many_le`).
-/

namespace DeskStream.Text

/-- A reader of a value. -/
abbrev Reader (α : Type) := StateT (List Char) Option α

namespace Reader

variable {α : Type}

/-- The next character, if it is in a class. -/
def one (p : Char → Bool) : Reader Char := fun
  | c :: r => if p c then some (c, r) else none
  | [] => none

/-- One given character. -/
def char (c : Char) : Reader Unit := fun
  | d :: r => if d = c then some ((), r) else none
  | [] => none

/-- The characters of a given word. -/
def word (s : String) : Reader Unit := s.toList.forM char

/-- The longest run of characters of a class. -/
def span (p : Char → Bool) : Reader (List Char) := fun cs => some (cs.takeWhile p, cs.dropWhile p)

/-- The longest run of characters of a class, which has at least one. -/
def span₁ (p : Char → Bool) : Reader (List Char) := do return (← one p) :: (← span p)

/-- Pass over characters of a class. -/
def skip (p : Char → Bool) : Reader Unit := fun cs => some ((), cs.dropWhile p)

/-- The next character, which stays. -/
def peek : Reader (Option Char) := fun cs => some (cs.head?, cs)

/-- The end of the text. -/
def finish : Reader Unit := fun
  | [] => some ((), [])
  | _ => none

/-- What a reader takes, or nothing where it refuses. -/
def optional (p : Reader α) : Reader (Option α) := some <$> p <|> pure none

/-- As many as a reader takes, each of them at least a character long. -/
def many (p : Reader α) (cs : List Char) : Option (List α × List Char) :=
  match p cs with
  | none => some ([], cs)
  | some (a, rest) =>
    if rest.length < cs.length then
      match many p rest with
      | some (as, rest) => some (a :: as, rest)
      | none => none
    else some ([], cs)
termination_by cs.length

/-- The value of a whole text. -/
def run? (p : Reader α) (s : String) : Option α :=
  match p s.toList with
  | some (a, []) => some a
  | _ => none

theorem length_many_le (p : Reader α) (cs : List Char) (as : List α) (rest : List Char)
    (h : many p cs = some (as, rest)) : rest.length ≤ cs.length := by
  induction cs using many.induct (p := p) generalizing as rest with
  | case1 cs hp => rw [many, hp] at h; simp_all
  | case2 cs a r hp hlt bs r' hr ih =>
    rw [many, hp] at h
    simp only [hlt, if_true, hr, Option.some.injEq, Prod.mk.injEq] at h
    obtain ⟨-, rfl⟩ := h
    exact Nat.le_trans (ih _ _ hr) (Nat.le_of_lt hlt)
  | case3 cs a r hp hlt hr =>
    rw [many, hp] at h
    simp [hlt, hr] at h
  | case4 cs a r hp hlt =>
    rw [many, hp] at h
    simp only [hlt, if_false, Option.some.injEq, Prod.mk.injEq] at h
    exact Nat.le_of_eq (congrArg List.length h.2.symm)

end Reader
end DeskStream.Text
