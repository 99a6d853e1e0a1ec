import DeskStream.Bytes
/-!
# UTF-8 text from octets

Octets that are no UTF-8 are read strictly, which fails, or leniently: every longest run that begins
a character but does not finish it, and every octet that begins none, becomes U+FFFD.
-/

namespace DeskStream.Text

/-- What octets begin with: a character, or a run that spells none. -/
inductive Lead where
  | char (c : Char) (length : Nat)
  | broken (length : Nat)

/-- A continuation octet. -/
def isTail (o : UInt8) : Bool := 0x80 ≤ o && o ≤ 0xbf

/-- Length of the character that an octet begins, and the range its second octet must lie in, so
that no character has two spellings and no surrogate is spelled. -/
def shape (o : UInt8) : Option (Nat × UInt8 × UInt8) :=
  if 0xc2 ≤ o && o ≤ 0xdf then some (2, 0x80, 0xbf)
  else if o == 0xe0 then some (3, 0xa0, 0xbf)
  else if o == 0xed then some (3, 0x80, 0x9f)
  else if 0xe1 ≤ o && o ≤ 0xef then some (3, 0x80, 0xbf)
  else if o == 0xf0 then some (4, 0x90, 0xbf)
  else if o == 0xf4 then some (4, 0x80, 0x8f)
  else if 0xf1 ≤ o && o ≤ 0xf3 then some (4, 0x80, 0xbf)
  else none

/-- The low six bits, those of a continuation octet. -/
def tailBits (o : UInt8) : Nat := o.toNat % 64

/-- The character or the broken run at the front of `o :: r`. -/
def lead (o : UInt8) (r : Bytes) : Lead :=
  if o < 0x80 then .char (Char.ofNat o.toNat) 1
  else match shape o with
    | none => .broken 1
    | some (n, low, high) =>
      match r with
      | [] => .broken 1
      | o2 :: r =>
        if !(low ≤ o2 && o2 ≤ high) then .broken 1
        else if n == 2 then .char (Char.ofNat (o.toNat % 32 * 64 + tailBits o2)) 2
        else match r with
          | [] => .broken 2
          | o3 :: r =>
            if !isTail o3 then .broken 2
            else if n == 3 then
              .char (Char.ofNat ((o.toNat % 16 * 64 + tailBits o2) * 64 + tailBits o3)) 3
            else match r with
              | [] => .broken 3
              | o4 :: _ =>
                if !isTail o4 then .broken 3
                else .char (Char.ofNat
                  (((o.toNat % 8 * 64 + tailBits o2) * 64 + tailBits o3) * 64 + tailBits o4)) 4

/-- Octets that the front of a string takes up. -/
def Lead.length : Lead → Nat
  | .char _ n => n
  | .broken n => n

/-- The characters of octets, `none` for each broken run. -/
def scanUtf8 : Bytes → List (Option Char)
  | [] => []
  | o :: r =>
    let front := lead o r
    (match front with | .char c _ => some c | .broken _ => none) ::
      scanUtf8 (r.drop (front.length - 1))
termination_by b => b.length
decreasing_by simp only [List.length_drop, List.length_cons]; omega

/-- The text of octets, with U+FFFD for what is no UTF-8. -/
def ofUtf8Lossy (b : Bytes) : String :=
  String.ofList ((scanUtf8 b).map (·.getD (Char.ofNat 0xfffd)))

/-- The text of octets that are UTF-8. -/
def ofUtf8? (b : Bytes) : Option String :=
  ((scanUtf8 b).mapM id).map String.ofList

/-- The octets of text. -/
def toUtf8 (s : String) : Bytes := s.toUTF8.toList

end DeskStream.Text
