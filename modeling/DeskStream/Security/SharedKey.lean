import DeskStream.Security.Accounts
import DeskStream.Text.Blank
import DeskStream.Text.Hex
import DeskStream.Text.Quoted
/-!
# A shared key as text

The 32 octets of a key are entered as 64 hexadecimal digits with any blank space around them. The
digits are taken in pairs of two octets of text; a pair may be a digit after a plus sign.

Main statement: text of 64 octets that is accepted has 32 pairs (`two_mul_length_of_ofPairs`).
-/

namespace DeskStream

/-- Why a text is no key. -/
inductive KeyTextError where
  | wrongLength (octets : Nat)
  /-- A character lies across the bounds of a pair. -/
  | unpairable
  | notHexadecimal (pair : String)
  deriving Repr, DecidableEq

def KeyTextError.message : KeyTextError → String
  | wrongLength n => s!"shared key must be 64 hex characters, got {n}"
  | unpairable => "shared key is not ASCII hex"
  | notHexadecimal pair => s!"invalid hex {Text.quoted pair} in shared key"

namespace SharedKey

/-- Octets that characters take up. -/
def width : List Char → Nat
  | [] => 0
  | c :: cs => c.utf8Size + width cs

/-- The value of a pair. -/
def value? (high low : Char) : Option UInt8 :=
  if high = '+' then (Hex.value? low).map UInt8.ofNat
  else do return .ofNat (16 * (← Hex.value? high) + (← Hex.value? low))

/-- The octets that pairs denote; the first that denotes none is told. -/
def ofPairs : List Char → Except KeyTextError Bytes
  | [] => .ok []
  | [c] => .error (if c.utf8Size = 2 then .notHexadecimal c.toString else .unpairable)
  | c :: d :: r =>
    if c.utf8Size = 2 then .error (.notHexadecimal c.toString)
    else if c.utf8Size = 1 ∧ d.utf8Size = 1 then
      match value? c d with
      | none => .error (.notHexadecimal (String.ofList [c, d]))
      | some o => (ofPairs r).map (o :: ·)
    else .error .unpairable

theorem two_mul_length_of_ofPairs (cs : List Char) (b : Bytes) (h : ofPairs cs = .ok b) :
    2 * b.length = width cs := by
  induction cs using ofPairs.induct generalizing b with
  | case1 => simp_all [ofPairs, width]
  | case2 c => simp [ofPairs] at h
  | case3 c d r hc => simp [ofPairs, hc] at h
  | case4 c d r hc hw hv => simp [ofPairs, hw, hv] at h
  | case5 c d r hc hw o hv ih =>
    rw [ofPairs, if_neg hc, if_pos hw] at h
    simp only [hv] at h
    cases hr : ofPairs r with
    | error e => simp [hr, Except.map] at h
    | ok t =>
      simp only [hr, Except.map, Except.ok.injEq] at h
      have ht := ih t hr
      subst h
      simp only [width, List.length_cons] at ht ⊢
      omega
  | case6 c d r hc hw =>
    rw [ofPairs, if_neg hc, if_neg hw] at h
    cases h

/-- The key that a text denotes. -/
def parse (s : String) : Except KeyTextError Key :=
  let cs := Text.trimChars Text.isBlank s.toList
  if hw : width cs = 64 then
    match h : ofPairs cs with
    | .error e => .error e
    | .ok b => .ok ⟨b, by have := two_mul_length_of_ofPairs cs b h; omega⟩
  else .error (.wrongLength (width cs))

end SharedKey
end DeskStream
