/-!
# Blank space

The characters with the Unicode property White_Space, and text without them at its ends.
-/

namespace DeskStream.Text

/-- The character has the property White_Space. -/
def isBlank (c : Char) : Bool :=
  let n := c.toNat
  (decide (9 ≤ n) && decide (n ≤ 13)) || n == 0x20 || n == 0x85 || n == 0xa0 || n == 0x1680
    || (decide (0x2000 ≤ n) && decide (n ≤ 0x200a))
    || n == 0x2028 || n == 0x2029 || n == 0x202f || n == 0x205f || n == 0x3000

/-- The characters between the first and the last that are not in a class. -/
def trimChars (p : Char → Bool) (cs : List Char) : List Char :=
  ((cs.dropWhile p).reverse.dropWhile p).reverse

/-- The characters up to the last that is not in a class. -/
def trimEndChars (p : Char → Bool) (cs : List Char) : List Char := (cs.reverse.dropWhile p).reverse

section
variable {p : Char → Bool} {before cs after : List Char}

private theorem dropWhile_of_head (h : ∀ c ∈ cs.head?, p c = false) : cs.dropWhile p = cs := by
  cases cs with
  | nil => rfl
  | cons c cs => rw [List.dropWhile_cons_of_neg (by simp [h c rfl])]

/-- What is in the class after a last character that is not goes. -/
theorem trimEndChars_append (hafter : ∀ c ∈ after, p c) (hlast : ∀ c ∈ cs.getLast?, p c = false) :
    trimEndChars p (cs ++ after) = cs := by
  have hhead : ∀ c ∈ cs.reverse.head?, p c = false := by rwa [List.head?_reverse]
  rw [trimEndChars, List.reverse_append, List.dropWhile_append_of_pos (by simpa using hafter), dropWhile_of_head hhead,
    List.reverse_reverse]

/-- What is in the class around characters of which the first and the last are not goes. -/
theorem trimChars_append (hbefore : ∀ c ∈ before, p c) (hafter : ∀ c ∈ after, p c)
    (hhead : ∀ c ∈ cs.head?, p c = false) (hlast : ∀ c ∈ cs.getLast?, p c = false) :
    trimChars p (before ++ cs ++ after) = cs := by
  have hdrop : (before ++ cs ++ after).dropWhile p = (cs ++ after).dropWhile p := by
    rw [List.append_assoc, List.dropWhile_append_of_pos hbefore]
  rw [trimChars, hdrop]
  cases cs with
  | nil =>
    have hall : (after ++ []).dropWhile p = [] := List.dropWhile_append_of_pos hafter
    rw [List.append_nil] at hall
    rw [List.nil_append, hall]
    rfl
  | cons c cs =>
    have hcs : (c :: cs ++ after).dropWhile p = c :: cs ++ after := dropWhile_of_head hhead
    rw [hcs]
    exact trimEndChars_append hafter hlast

end

/-- Text without blanks at its ends. -/
def trim (s : String) : String := String.ofList (trimChars isBlank s.toList)

end DeskStream.Text
