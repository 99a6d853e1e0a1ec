import Mathlib.Data.List.Induction
/-!
# What lasts since

Over a history something lasts since a step that begins it, until a step that ends it (`Since`). So it is with
whatever each step leaves true just if it begins it, or found it true and does not end it (`Since.of_steps`).
-/

namespace DeskStream

variable {α : Type} {Begins Ends : List α → α → Prop} {history : List α} {x : α}

/-- A step that begins was taken, and after it none that ends. What a step does may depend on those before it. -/
def Since (Begins Ends : List α → α → Prop) (history : List α) : Prop :=
  ∃ before x after, history = before ++ x :: after ∧ Begins before x ∧
    ∀ between y rest, after = between ++ y :: rest → ¬ Ends (before ++ x :: between) y

namespace Since

theorem not_nil : ¬ Since Begins Ends [] := by
  rintro ⟨before, x, after, h, -⟩
  exact List.append_ne_nil_of_right_ne_nil before (List.cons_ne_nil x after) h.symm

theorem concat_iff :
    Since Begins Ends (history ++ [x]) ↔ Begins history x ∨ Since Begins Ends history ∧ ¬ Ends history x := by
  constructor
  · rintro ⟨before, b, after, h, hb, hn⟩
    -- The step that began is the last one, or the last one came after it.
    rcases List.eq_nil_or_concat after with rfl | ⟨after, y, rfl⟩
    · obtain ⟨rfl, hx⟩ := List.append_inj' h rfl
      exact .inl (List.singleton_inj.1 hx ▸ hb)
    · have h' : history ++ [x] = (before ++ b :: after) ++ [y] := by simpa using h
      obtain ⟨rfl, hx⟩ := List.append_inj' h' rfl
      obtain rfl := List.singleton_inj.1 hx
      refine .inr ⟨⟨before, b, after, rfl, hb, fun between z rest ha => ?_⟩, hn after x [] List.concat_eq_append⟩
      exact hn between z (rest ++ [x]) (by simp [ha])
  · rintro (hb | ⟨⟨before, b, after, rfl, hb, hn⟩, hx⟩)
    · refine ⟨history, x, [], rfl, hb, fun between y rest h => ?_⟩
      exact absurd h.symm (List.append_ne_nil_of_right_ne_nil _ (List.cons_ne_nil _ _))
    · refine ⟨before, b, after ++ [x], by simp, hb, fun between y rest h => ?_⟩
      rcases List.eq_nil_or_concat rest with rfl | ⟨rest, z, rfl⟩
      · obtain ⟨rfl, hy⟩ := List.append_inj' h rfl
        exact List.singleton_inj.1 hy ▸ hx
      · have h' : after ++ [x] = (between ++ y :: rest) ++ [z] := by simpa using h
        exact hn between y rest (List.append_inj' h' rfl).1

theorem of_steps {P : List α → Prop} (h0 : ¬ P [])
    (h : ∀ history x, P (history ++ [x]) ↔ Begins history x ∨ P history ∧ ¬ Ends history x) (history : List α) :
    P history ↔ Since Begins Ends history := by
  induction history using List.reverseRecOn with
  | nil => exact iff_of_false h0 not_nil
  | append_singleton history x ih => rw [h, ih, concat_iff]

end Since
end DeskStream
