import DeskStream.Security.SharedKey
import Mathlib.Data.Bool.AllAny
import Mathlib.Tactic.ByContra
/-!
# What a shared key may be entered as

Text denotes octets if in lower case it is what they are written as (`ofChars?_eq_some_iff`). A key is read so, but
that a plus sign may stand for the first digit of a pair and counts as a zero (`ofPairs_eq_ok_iff`). Text without plus
signs is accepted just if it is 64 hexadecimal digits with blanks around them (`accepted_texts`).
-/

namespace DeskStream

/-! ## Hexadecimal digits -/

namespace Hex

variable {c : Char} {cs : List Char} {b : Bytes} {n : Nat}

/-- The digits, of either case. -/
def digits : List Char := "0123456789abcdefABCDEF".toList

theorem bounds_of_value? (h : value? c = some n) : n < 16 ∧ c.toNat < 128 := by
  have le_iff (a b : Char) : a ≤ b ↔ a.toNat ≤ b.toNat := Iff.rfl
  simp only [value?, le_iff] at h
  split at h
  · cases h
    simp at *
    omega
  · split at h
    · cases h
      simp at *
      omega
    · split at h
      · cases h
        simp at *
        omega
      · cases h

theorem digit_lt (h : n < 16) : (digit n).toNat < 128 := by
  have : ∀ k : Fin 16, (digit k).toNat < 128 := by decide
  exact this ⟨n, h⟩

theorem value?_eq_some_iff : value? c = some n ↔ n < 16 ∧ c.toLower = digit n := by
  -- Few characters have to be looked at: those of seven bits.
  have table : ∀ k : Fin 128, ∀ n : Fin 16,
      value? (.ofNat k) = some n.val ↔ (Char.ofNat k).toLower = digit n := by decide +kernel
  have looked (hc : c.toNat < 128) (hn : n < 16) : value? c = some n ↔ c.toLower = digit n := by
    simpa using table ⟨c.toNat, hc⟩ ⟨n, hn⟩
  constructor
  · intro h
    obtain ⟨hn, hc⟩ := bounds_of_value? h
    exact ⟨hn, (looked hc hn).1 h⟩
  · rintro ⟨hn, h⟩
    refine (looked ?_ hn).2 h
    by_contra hc
    have hsame : c.toLower = c := by
      refine dif_neg fun hupper => ?_
      have : c.toNat ≤ 90 := hupper.2
      omega
    exact hc (hsame ▸ h ▸ digit_lt hn)

theorem value?_isSome_iff : (value? c).isSome ↔ c ∈ digits := by
  have table : ∀ k : Fin 128, (value? (.ofNat k)).isSome ↔ Char.ofNat k ∈ digits := by decide +kernel
  have small : ∀ c ∈ digits, c.toNat < 128 := List.all_iff_forall_prop.1 (by decide)
  have looked (hc : c.toNat < 128) : (value? c).isSome ↔ c ∈ digits := by simpa using table ⟨c.toNat, hc⟩
  constructor
  · intro h
    obtain ⟨n, hn⟩ := Option.isSome_iff_exists.1 h
    exact (looked (bounds_of_value? hn).2).1 h
  · intro h
    exact (looked (small c h)).2 h

theorem ofChars?_pair {h l : Char} {r : List Char} :
    ofChars? (h :: l :: r) = some b ↔
      ∃ x y t, value? h = some x ∧ value? l = some y ∧ ofChars? r = some t ∧ .ofNat (16 * x + y) :: t = b := by
  simp only [ofChars?, Option.bind_eq_bind, Option.bind_eq_some_iff, Option.pure_def, Option.some.injEq, exists_and_left]

theorem octet_ofNat {x y : Nat} (hx : x < 16) (hy : y < 16) : octet (.ofNat (16 * x + y)) = [digit x, digit y] := by
  have whole : (UInt8.ofNat (16 * x + y)).toNat = 16 * x + y := UInt8.toNat_ofNat_of_lt' (by change _ < 256; omega)
  rw [octet, whole, show (16 * x + y) / 16 = x by omega, show (16 * x + y) % 16 = y by omega]

/-- Text denotes octets if it is what they are written as, but for the case of the digits. -/
theorem ofChars?_eq_some_iff : ofChars? cs = some b ↔ cs.map Char.toLower = toChars b := by
  induction cs using ofChars?.induct generalizing b with
  | case1 => cases b <;> simp [ofChars?, toChars, octet]
  | case2 c => cases b <;> simp [ofChars?, toChars, octet]
  | case3 h l r ih =>
    rw [ofChars?_pair, List.map_cons, List.map_cons]
    constructor
    · rintro ⟨x, y, t, hx, hy, ht, rfl⟩
      obtain ⟨hx, hh⟩ := value?_eq_some_iff.1 hx
      obtain ⟨hy, hl⟩ := value?_eq_some_iff.1 hy
      rw [toChars, List.flatMap_cons, octet_ofNat hx hy, hh, hl, ih.1 ht]
      rfl
    · intro hb
      cases b with
      | nil => cases hb
      | cons o t =>
        have ho := o.toNat_lt
        simp only [toChars, List.flatMap_cons, octet, List.cons_append, List.nil_append, List.cons.injEq] at hb
        obtain ⟨hh, hl, ht⟩ := hb
        refine ⟨o.toNat / 16, o.toNat % 16, t, value?_eq_some_iff.2 ⟨by omega, hh⟩,
          value?_eq_some_iff.2 ⟨by omega, hl⟩, ih.2 ht, ?_⟩
        rw [Nat.div_add_mod, UInt8.ofNat_toNat]

/-- Text denotes octets just if it is pairs of digits. -/
theorem exists_ofChars?_iff : (∃ b, b.length = n ∧ ofChars? cs = some b) ↔ cs.length = 2 * n ∧ ∀ c ∈ cs, c ∈ digits := by
  induction cs using ofChars?.induct generalizing n with
  | case1 =>
    simp [ofChars?]
    omega
  | case2 c =>
    simp [ofChars?]
    omega
  | case3 h l r ih =>
    rw [List.forall_mem_cons, List.forall_mem_cons, ← value?_isSome_iff, ← value?_isSome_iff, Option.isSome_iff_exists,
      Option.isSome_iff_exists]
    constructor
    · rintro ⟨b, rfl, hb⟩
      obtain ⟨x, y, t, hx, hy, ht, rfl⟩ := ofChars?_pair.1 hb
      obtain ⟨hlen, hr⟩ := ih.1 ⟨t, rfl, ht⟩
      refine ⟨?_, ⟨x, hx⟩, ⟨y, hy⟩, hr⟩
      simp only [List.length_cons, hlen]
      omega
    · rintro ⟨hlen, ⟨x, hx⟩, ⟨y, hy⟩, hr⟩
      simp only [List.length_cons] at hlen
      obtain ⟨t, ht, hrt⟩ := (ih (n := n - 1)).2 ⟨by omega, hr⟩
      refine ⟨_, ?_, ofChars?_pair.2 ⟨x, y, t, hx, hy, hrt, rfl⟩⟩
      rw [List.length_cons, ht]
      omega

end Hex

/-! ## Keys -/

namespace SharedKey

variable {s : String} {key : Key} {c d : Char} {r cs : List Char} {b : Bytes} {o : UInt8}

/-- The characters of a text without the blanks at its ends. -/
def trimmed (s : String) : List Char := Text.trimChars Text.isBlank s.toList

/-- A plus sign in the first place of a pair is taken for a zero. -/
def unsigned : List Char → List Char
  | c :: d :: r => (if c = '+' then '0' else c) :: d :: unsigned r
  | cs => cs

theorem value?_eq_some_iff :
    value? c d = some o ↔ ∃ x y, Hex.value? (if c = '+' then '0' else c) = some x ∧ Hex.value? d = some y ∧
      .ofNat (16 * x + y) = o := by
  have zero : Hex.value? '0' = some 0 := by decide
  unfold value?
  split
  · rw [Option.map_eq_some_iff, zero]
    constructor
    · rintro ⟨y, hy, rfl⟩
      exact ⟨0, y, rfl, hy, by rw [Nat.mul_zero, Nat.zero_add]⟩
    · rintro ⟨_, y, ⟨⟩, hy, rfl⟩
      exact ⟨y, hy, by rw [Nat.mul_zero, Nat.zero_add]⟩
  · simp only [Option.bind_eq_bind, Option.bind_eq_some_iff, Option.pure_def, Option.some.injEq, exists_and_left]

/-- A pair that denotes an octet is of two characters of one octet each. -/
theorem utf8Size_of_value? (h : value? c d = some o) : c.utf8Size = 1 ∧ d.utf8Size = 1 := by
  have small {c : Char} (hc : c.toNat < 128) : c.utf8Size = 1 := Char.utf8Size_eq_one_iff.2 (Nat.le_of_lt_succ hc)
  obtain ⟨x, y, hx, hy, -⟩ := value?_eq_some_iff.1 h
  refine ⟨?_, small (Hex.bounds_of_value? hy).2⟩
  split at hx
  · rename_i hc
    rw [hc]
    rfl
  · exact small (Hex.bounds_of_value? hx).2

theorem ofPairs_pair : ofPairs (c :: d :: r) = .ok b ↔ ∃ o t, value? c d = some o ∧ ofPairs r = .ok t ∧ o :: t = b := by
  cases hv : value? c d with
  | none =>
    simp only [ofPairs, hv]
    split
    · simp
    · split <;> simp
  | some o =>
    obtain ⟨hc, hd⟩ := utf8Size_of_value? hv
    simp only [ofPairs, hv, hc, hd]
    cases ofPairs r <;> simp [Except.map]

theorem ofPairs_eq_ok_iff : ofPairs cs = .ok b ↔ Hex.ofChars? (unsigned cs) = some b := by
  induction cs using Hex.ofChars?.induct generalizing b with
  | case1 => simp [ofPairs, unsigned, Hex.ofChars?]
  | case2 c => simp [ofPairs, unsigned, Hex.ofChars?]
  | case3 c d r ih =>
    rw [ofPairs_pair, unsigned, Hex.ofChars?_pair]
    constructor
    · rintro ⟨o, t, ho, ht, rfl⟩
      obtain ⟨x, y, hx, hy, rfl⟩ := value?_eq_some_iff.1 ho
      exact ⟨x, y, t, hx, hy, ih.1 ht, rfl⟩
    · rintro ⟨x, y, t, hx, hy, ht, rfl⟩
      exact ⟨_, t, value?_eq_some_iff.2 ⟨x, y, hx, hy, rfl⟩, ih.2 ht, rfl⟩

theorem parse_eq_ok_iff : parse s = .ok key ↔ Hex.ofChars? (unsigned (trimmed s)) = some key.val := by
  rw [← ofPairs_eq_ok_iff]
  unfold parse trimmed
  dsimp only
  constructor
  · intro h
    split at h
    · split at h
      · cases h
      · rename_i b hb
        cases h
        exact hb
    · cases h
  · intro h
    -- Of 32 octets, so there are 64 characters.
    have hw := two_mul_length_of_ofPairs _ key.val h
    rw [key.property] at hw
    rw [dif_pos hw.symm]
    split
    · rename_i e he
      cases h.symm.trans he
    · rename_i b hb
      obtain rfl : key.val = b := Except.ok.inj (h.symm.trans hb)
      rfl

@[simp] theorem length_unsigned (cs : List Char) : (unsigned cs).length = cs.length := by
  induction cs using unsigned.induct with
  | case1 c d r ih => simp [unsigned, ih]
  | case2 cs hshort => rw [unsigned.eq_2 cs hshort]

theorem unsigned_of_not_mem (h : '+' ∉ cs) : unsigned cs = cs := by
  induction cs using unsigned.induct with
  | case1 c d r ih =>
    simp only [List.mem_cons, not_or] at h
    rw [unsigned, if_neg (Ne.symm h.1), ih h.2.2]
  | case2 cs hshort => rw [unsigned.eq_2 cs hshort]

/-- Some key is what a text denotes just if it is 64 digits, plus signs taken for zeros. -/
theorem exists_parse_iff :
    (∃ key, parse s = .ok key) ↔ (trimmed s).length = 64 ∧ ∀ c ∈ unsigned (trimmed s), c ∈ Hex.digits := by
  have sized : (∃ key, parse s = .ok key) ↔ ∃ b, b.length = 32 ∧ Hex.ofChars? (unsigned (trimmed s)) = some b := by
    constructor
    · rintro ⟨key, h⟩
      exact ⟨key.val, key.property, parse_eq_ok_iff.1 h⟩
    · rintro ⟨b, hb, h⟩
      exact ⟨⟨b, hb⟩, parse_eq_ok_iff.2 h⟩
  rw [sized, Hex.exists_ofChars?_iff, length_unsigned]

/-- No digit is a blank or a plus sign. -/
theorem plain_of_digits (h : ∀ c ∈ cs, c ∈ Hex.digits) : '+' ∉ cs ∧ ∀ c ∈ cs, Text.isBlank c = false := by
  have table : ∀ c ∈ Hex.digits, c ≠ '+' ∧ Text.isBlank c = false := List.all_iff_forall_prop.1 (by decide)
  exact ⟨fun hc => (table _ (h _ hc)).1 rfl, fun c hc => (table c (h c hc)).2⟩

/-- What a key is written as, in either case, with blanks around it. -/
theorem parse_written {before after : List Char} (hs : s.toList = before ++ cs ++ after)
    (hbefore : ∀ c ∈ before, Text.isBlank c) (hafter : ∀ c ∈ after, Text.isBlank c)
    (hcs : cs.map Char.toLower = Hex.toChars key.val) : parse s = .ok key := by
  have hb : Hex.ofChars? cs = some key.val := Hex.ofChars?_eq_some_iff.2 hcs
  obtain ⟨-, hdigits⟩ := Hex.exists_ofChars?_iff.1 ⟨key.val, key.property, hb⟩
  obtain ⟨hplus, hblank⟩ := plain_of_digits hdigits
  have ht : trimmed s = cs := by
    rw [trimmed, hs]
    exact Text.trimChars_append hbefore hafter (fun c hc => hblank c (List.mem_of_mem_head? hc))
      fun c hc => hblank c (List.mem_of_mem_getLast? hc)
  rw [parse_eq_ok_iff, ht, unsigned_of_not_mem hplus, hb]

/-- The texts that are accepted, and what they denote. A key is accepted in either case with any blanks around it. All
that is accepted beyond 64 hexadecimal digits has plus signs in place of first digits of pairs. -/
theorem accepted_texts (s : String) :
    (∀ key, parse s = .ok key ↔ (unsigned (trimmed s)).map Char.toLower = Hex.toChars key.val) ∧
    ((∃ key, parse s = .ok key) ↔ (trimmed s).length = 64 ∧ ∀ c ∈ unsigned (trimmed s), c ∈ Hex.digits) ∧
    ((∃ key, parse s = .ok key) ∧ '+' ∉ trimmed s ↔ (trimmed s).length = 64 ∧ ∀ c ∈ trimmed s, c ∈ Hex.digits) ∧
    (∀ key, '+' ∉ trimmed s → (parse s = .ok key ↔ (trimmed s).map Char.toLower = Hex.toChars key.val)) ∧
    ∀ (key : Key) (before cs after : List Char), s.toList = before ++ cs ++ after →
      (∀ c ∈ before, Text.isBlank c) → (∀ c ∈ after, Text.isBlank c) →
      cs.map Char.toLower = Hex.toChars key.val → parse s = .ok key := by
  have denotes (key : Key) : parse s = .ok key ↔ (unsigned (trimmed s)).map Char.toLower = Hex.toChars key.val :=
    parse_eq_ok_iff.trans Hex.ofChars?_eq_some_iff
  refine ⟨denotes, exists_parse_iff, ?_, ?_, ?_⟩
  · constructor
    · rintro ⟨h, hplus⟩
      rw [exists_parse_iff, unsigned_of_not_mem hplus] at h
      exact h
    · rintro ⟨hlen, hdigits⟩
      have hplus : '+' ∉ trimmed s := (plain_of_digits hdigits).1
      rw [exists_parse_iff, unsigned_of_not_mem hplus]
      exact ⟨⟨hlen, hdigits⟩, hplus⟩
  · intro key hplus
    rw [denotes, unsigned_of_not_mem hplus]
  · intro key before cs after hs hbefore hafter hcs
    exact parse_written hs hbefore hafter hcs

/-- A key in capitals between blanks, and the same octets as signs before single digits. -/
theorem accepted_texts_signs :
    let key : Key := ⟨List.replicate 32 15, rfl⟩
    parse " 0F0F0F0F0F0F0F0F0F0F0F0F0F0F0F0F0F0F0F0F0F0F0F0F0F0F0F0F0F0F0F0F\n" = .ok key ∧
    parse "+f+f+f+f+f+f+f+f+f+f+f+f+f+f+f+f+f+f+f+f+f+f+f+f+f+f+f+f+f+f+f+f" = .ok key := by
  intro key
  constructor
  · have written := (accepted_texts " 0F0F0F0F0F0F0F0F0F0F0F0F0F0F0F0F0F0F0F0F0F0F0F0F0F0F0F0F0F0F0F0F\n").2.2.2.2
    exact written key [' '] (List.replicate 32 ['0', 'F']).flatten ['\n'] (by decide)
      (List.forall_mem_singleton.2 (by decide)) (List.forall_mem_singleton.2 (by decide)) (by decide)
  · exact ((accepted_texts _).1 key).2 (by decide)

end SharedKey
end DeskStream
