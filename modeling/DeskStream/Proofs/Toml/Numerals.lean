import DeskStream.Toml.Document
/-!
# Numbers of a text

The digits of a number are read as that number (`valueWithin_toDigits`). Other values are tried before: it is no text,
no date and no time, and without a fraction and without the mark of another base it is an integer.
-/

namespace DeskStream

/-! ## What a reader comes to -/

namespace Text.Reader

variable {α β : Type} {p q : Reader α} {f : α → Reader β} {a : α} {as : List α} {c d : Char}
  {cs r r' : List Char}

theorem bind_of_some (h : p cs = some (a, r)) : (p >>= f) cs = f a r := by
  change (p cs >>= fun x => f x.1 x.2) = f a r
  rw [h]
  rfl

theorem bind_of_none (h : p cs = none) : (p >>= f) cs = none := by
  change (p cs >>= fun x => f x.1 x.2) = none
  rw [h]
  rfl

theorem seqRight_of_none {q : Reader β} (h : p cs = none) : (p *> q) cs = none :=
  bind_of_none (f := fun _ => q) h

theorem orElse_of_some {x : α × List Char} (h : p cs = some x) : (p <|> q) cs = some x := by
  change (p cs <|> q cs) = some x
  rw [h]
  rfl

theorem orElse_of_none (h : p cs = none) : (p <|> q) cs = q cs := by
  change (p cs <|> q cs) = q cs
  rw [h]
  rfl

theorem map_of_none {g : α → β} (h : p cs = none) : (g <$> p) cs = none := by
  rw [map_eq_pure_bind]
  exact bind_of_none h

theorem optional_of_some (h : p cs = some (a, r)) : optional p cs = some (some a, r) := by
  apply orElse_of_some
  rw [map_eq_pure_bind, bind_of_some h]
  rfl

theorem char_of_ne (h : d ≠ c) : char c (d :: r) = none := if_neg h

theorem word_of_ne {s : String} (hs : s.toList = c :: cs) (h : d ≠ c) : word s (d :: r) = none := by
  rw [word, hs]
  exact bind_of_none (char_of_ne h)

theorem many_of_none (h : p cs = none) : many p cs = some ([], cs) := by
  rw [many, h]

theorem many_of_still (h : p cs = some (a, r)) (hl : cs.length ≤ r.length) : many p cs = some ([], cs) := by
  rw [many, h]
  simp only [if_neg (Nat.not_lt.2 hl)]

theorem many_of_some (h : p cs = some (a, r)) (hl : r.length < cs.length)
    (hm : many p r = some (as, r')) : many p cs = some (a :: as, r') := by
  rw [many, h]
  simp only [if_pos hl, hm]

end Text.Reader

/-! ## A number among values -/

namespace Toml

open Text Reader

variable {c d : Char} {ds rest : List Char}

theorem one_digit (h : c.isDigit) : one Char.isDigit (c :: rest) = some (c, rest) := if_pos h

theorem ne_of_isDigit (h : d.isDigit) (hc : c.isDigit = false) : d ≠ c := by
  rintro rfl
  rw [h] at hc
  cases hc

theorem grouped_digits (h : ∀ c ∈ d :: ds, c.isDigit) : grouped Char.isDigit (d :: ds) = some (d :: ds, []) := by
  rw [List.forall_mem_cons] at h
  have hrest : many (one Char.isDigit <|> (Reader.char '_' *> one Char.isDigit)) ds = some (ds, []) := by
    have hds := h.2
    clear h
    induction ds with
    | nil => exact many_of_none (by rfl)
    | cons c ds ih =>
      rw [List.forall_mem_cons] at hds
      exact many_of_some (orElse_of_some (one_digit hds.1)) (by simp) (ih hds.2)
  rw [grouped, bind_of_some (one_digit h.1), bind_of_some hrest]
  rfl

theorem sign_digit (h : d.isDigit) : sign (d :: ds) = some (false, d :: ds) := by
  rw [sign, orElse_of_none (seqRight_of_none (char_of_ne (ne_of_isDigit h rfl))),
    orElse_of_none (seqRight_of_none (char_of_ne (ne_of_isDigit h rfl)))]
  rfl

/-- Of digits a run of digits leaves digits. -/
theorem digits_of_mapM {l : List Nat} {cs : List Char} (hd : ∀ c ∈ ds, c.isDigit)
    (hm : l.mapM (fun _ => one Char.isDigit) ds = some (cs, rest)) : ∀ c ∈ rest, c.isDigit := by
  induction l generalizing ds cs with
  | nil =>
    cases hm
    exact hd
  | cons k l ih =>
    rw [List.mapM_cons] at hm
    obtain ⟨⟨c, cs₁⟩, hc, hm⟩ := Option.bind_eq_some_iff.1 hm
    obtain ⟨⟨cs', rest'⟩, hrest, hm⟩ := Option.bind_eq_some_iff.1 hm
    cases hm
    cases ds with
    | nil => cases hc
    | cons c' ds =>
      rw [one_digit (hd c' (by simp))] at hc
      cases hc
      exact ih (fun c hc => hd c (by simp [hc])) hrest

theorem digits_of_field {k low high n : Nat} (hd : ∀ c ∈ ds, c.isDigit)
    (hf : field k low high ds = some (n, rest)) : ∀ c ∈ rest, c.isDigit := by
  obtain ⟨⟨cs, rest'⟩, hm, hf⟩ := Option.bind_eq_some_iff.1 hf
  have hrest := digits_of_mapM hd hm
  dsimp only at hf
  split at hf
  · cases hf
    exact hrest
  · cases hf

/-- A date and a time need more than digits. -/
theorem field_then_none {k low high : Nat} {f : Nat → Unit → Reader Unit} (hd : ∀ c ∈ ds, c.isDigit) (c : Char)
    (hc : c.isDigit = false) : (field k low high >>= fun n => Reader.char c >>= f n) ds = none := by
  cases hf : field k low high ds with
  | none => exact bind_of_none hf
  | some x =>
    obtain ⟨n, rest⟩ := x
    rw [bind_of_some hf]
    apply bind_of_none
    cases rest with
    | nil => rfl
    | cons d rest => exact char_of_ne (ne_of_isDigit (digits_of_field hd hf d (by simp)) hc)

theorem moment_digits (hd : ∀ c ∈ ds, c.isDigit) : moment ds = none := by
  apply bind_of_none
  rw [orElse_of_none]
  · exact field_then_none hd ':' rfl
  · exact bind_of_none (field_then_none hd '-' rfl)

/-- Digits of which the first is no zero, unless it is the only one. -/
structure Plain (d : Char) (ds : List Char) : Prop where
  digits : ∀ c ∈ d :: ds, c.isDigit
  zero : d = '0' → ds = []

variable (h : Plain d ds)
include h

theorem Plain.first : d.isDigit := h.digits d (by simp)

theorem Plain.wholeDigits : wholeDigits (d :: ds) = some (d :: ds, []) := by
  rw [Toml.wholeDigits, bind_of_some (grouped_digits h.digits)]
  refine congrFun (g := (pure (d :: ds) : Reader (List Char))) ?_ []
  split
  · rename_i heq
    cases heq
    rfl
  · rename_i hne heq
    cases heq
    cases h.zero rfl
    exact absurd rfl hne
  · rfl

theorem Plain.decimal : decimal (d :: ds) = none := by
  rw [Toml.decimal, bind_of_some (sign_digit h.first), bind_of_some h.wholeDigits]
  rfl

theorem Plain.special : special (d :: ds) = none := by
  rw [Toml.special, bind_of_some (sign_digit h.first)]
  apply bind_of_none
  rw [orElse_of_none (seqRight_of_none (word_of_ne rfl (ne_of_isDigit h.first rfl)))]
  exact seqRight_of_none (word_of_ne rfl (ne_of_isDigit h.first rfl))

theorem Plain.based {mark : String} (hm : mark.toList = ['0', c]) (base : Nat) :
    based mark base (d :: ds) = none := by
  apply bind_of_none
  by_cases hd : d = '0'
  · rw [hd, h.zero hd, word, hm]
    rfl
  · exact word_of_ne hm hd

theorem Plain.integer : integer (d :: ds) = inRange (value 10 (d :: ds)) [] := by
  rw [Toml.integer, orElse_of_none (h.based rfl _), orElse_of_none (h.based rfl _),
    orElse_of_none (h.based rfl _), bind_of_some (sign_digit h.first), bind_of_some h.wholeDigits]
  rfl

theorem Plain.numeral : numeral (d :: ds) = inRange (value 10 (d :: ds)) [] := by
  rw [Toml.numeral, orElse_of_none (moment_digits h.digits), orElse_of_none h.decimal, orElse_of_none h.special,
    h.integer]

theorem Plain.scalarValue :
    valueWithin.scalarValue (d :: ds) = inRange (value 10 (d :: ds)) [] := by
  have hchar (c : Char) (hc : c.isDigit = false) : Reader.char c (d :: ds) = none :=
    char_of_ne (ne_of_isDigit h.first hc)
  -- No text begins with a digit.
  have hlong : longBasicString (d :: ds) = none := bind_of_none (hchar '"' rfl)
  have hlongLiteral : longLiteralString (d :: ds) = none := bind_of_none (hchar '\'' rfl)
  have hbasic : basicString (d :: ds) = none := bind_of_none (hchar '"' rfl)
  have hliteral : literalString (d :: ds) = none := bind_of_none (hchar '\'' rfl)
  have hstring : Toml.string (d :: ds) = none := by
    rw [Toml.string, orElse_of_none hlong, orElse_of_none hlongLiteral, orElse_of_none hbasic, hliteral]
  rw [valueWithin.scalarValue, orElse_of_none (map_of_none hstring),
    orElse_of_none (seqRight_of_none (word_of_ne rfl (ne_of_isDigit h.first rfl))),
    orElse_of_none (seqRight_of_none (word_of_ne rfl (ne_of_isDigit h.first rfl))), h.numeral]

theorem Plain.valueWithin (depth : Nat) :
    valueWithin depth (d :: ds) = inRange (value 10 (d :: ds)) [] := by
  cases depth with
  | zero => exact h.scalarValue
  | succ depth =>
    rw [Toml.valueWithin, bind_of_some (p := peek) (a := some d) (r := d :: ds) rfl]
    refine (congrFun (g := valueWithin.scalarValue) ?_ (d :: ds)).trans h.scalarValue
    split
    · rename_i heq
      cases heq
      cases h.first
    · rename_i heq
      cases heq
      cases h.first
    · rfl

omit h

/-! ## The digits of a number -/

theorem value_concat (base : Nat) (digits : List Char) (c : Char) :
    value base (digits ++ [c]) = base * value base digits + (Hex.value? c).getD 0 := by
  simp [value]

theorem value_toDigits (n : Nat) : value 10 (Nat.toDigits 10 n) = n := by
  induction n using Nat.strongRecOn with
  | ind n ih =>
    have digit {k : Nat} (hk : k < 10) : (Hex.value? k.digitChar).getD 0 = k := by
      have : ∀ k : Fin 10, (Hex.value? k.val.digitChar).getD 0 = k.val := by decide
      exact this ⟨k, hk⟩
    rw [Nat.toDigits_eq_if (by decide)]
    split
    · rename_i hn
      simp [value, digit hn]
    · rename_i hn
      rw [value_concat, ih (n / 10) (by omega), digit (Nat.mod_lt n (by decide))]
      omega

theorem exists_toDigits (n : Nat) : ∃ d ds, Nat.toDigits 10 n = d :: ds ∧ (d = '0' → n = 0) := by
  induction n using Nat.strongRecOn with
  | ind n ih =>
    rw [Nat.toDigits_eq_if (by decide)]
    split
    · exact ⟨n.digitChar, [], rfl, Nat.digitChar_eq_zero.1⟩
    · rename_i hn
      obtain ⟨d, ds, hds, hzero⟩ := ih (n / 10) (by omega)
      refine ⟨d, ds ++ [(n % 10).digitChar], by simp [hds], ?_⟩
      intro hd
      have := hzero hd
      omega

theorem exists_plain (n : Nat) : ∃ d ds, Nat.toDigits 10 n = d :: ds ∧ Plain d ds := by
  obtain ⟨d, ds, hds, hzero⟩ := exists_toDigits n
  refine ⟨d, ds, hds, ?_, ?_⟩
  · intro c hc
    rw [← hds] at hc
    exact Nat.isDigit_of_mem_toDigits (by decide) (by decide) hc
  · intro hd
    rw [hzero hd, Nat.toDigits_zero] at hds
    cases hds
    rfl

/-- The decimal digits of a number stand for the number. -/
theorem valueWithin_toDigits {n : Nat} (hn : n < integerLimit) (depth : Nat) :
    valueWithin depth (Nat.toDigits 10 n) = some (.integer n, []) := by
  obtain ⟨d, ds, hds, h⟩ := exists_plain n
  have hv : value 10 (d :: ds) = n := by rw [← hds, value_toDigits]
  rw [hds, h.valueWithin, hv, inRange, if_pos]
  · rfl
  · rw [Bool.and_eq_true, decide_eq_true_eq, decide_eq_true_eq]
    omega

theorem space_toDigits (n : Nat) : space (Nat.toDigits 10 n) = some ((), Nat.toDigits 10 n) := by
  obtain ⟨d, ds, hds, h⟩ := exists_plain n
  have hblank : d ≠ ' ' := ne_of_isDigit h.first rfl
  have htab : d ≠ '\t' := ne_of_isDigit h.first rfl
  rw [hds, space, skip, List.dropWhile_cons_of_neg]
  simp [hblank, htab]

end Toml
end DeskStream
