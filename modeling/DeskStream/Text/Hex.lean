import DeskStream.Bytes
/-!
# Hexadecimal text

Two digits an octet, lower case when written, either case when read.

Main statement: octets written and read again are the same octets (`ofChars?_toChars`).
-/

namespace DeskStream.Hex

/-- The digit of a value below sixteen, in lower case. -/
def digit (n : Nat) : Char := if n < 10 then Char.ofNat (48 + n) else Char.ofNat (87 + n)

/-- The value of a digit of either case. -/
def value? (c : Char) : Option Nat :=
  if '0' ≤ c ∧ c ≤ '9' then some (c.toNat - 48)
  else if 'a' ≤ c ∧ c ≤ 'f' then some (c.toNat - 87)
  else if 'A' ≤ c ∧ c ≤ 'F' then some (c.toNat - 55)
  else none

/-- The two digits of an octet. -/
def octet (o : UInt8) : List Char := [digit (o.toNat / 16), digit (o.toNat % 16)]

/-- The digits of a string of octets. -/
def toChars (b : Bytes) : List Char := b.flatMap octet

/-- A string of octets as text. -/
def encode (b : Bytes) : String := String.ofList (toChars b)

/-- The octets that pairs of digits denote. -/
def ofChars? : List Char → Option Bytes
  | [] => some []
  | [_] => none
  | h :: l :: r => do
    let h ← value? h
    let l ← value? l
    let b ← ofChars? r
    return UInt8.ofNat (16 * h + l) :: b

/-- The octets that a text of digit pairs denotes. -/
def decode? (s : String) : Option Bytes := ofChars? s.toList

theorem value?_digit (n : Nat) (h : n < 16) : value? (digit n) = some n := by
  have : ∀ k : Fin 16, value? (digit k) = some k.val := by decide
  exact this ⟨n, h⟩

theorem ofChars?_toChars (b : Bytes) : ofChars? (toChars b) = some b := by
  induction b with
  | nil => rfl
  | cons o b ih =>
    have h := o.toNat_lt
    have low := value?_digit (o.toNat % 16) (by omega)
    have high := value?_digit (o.toNat / 16) (by omega)
    have whole : 16 * (o.toNat / 16) + o.toNat % 16 = o.toNat := by omega
    simp only [toChars, List.flatMap_cons, octet, List.cons_append, List.nil_append] at ih ⊢
    simp only [ofChars?, low, high, ih, Option.bind_eq_bind, Option.bind_some, whole,
      UInt8.ofNat_toNat]
    rfl

end DeskStream.Hex
