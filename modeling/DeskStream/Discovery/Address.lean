import DeskStream.Text.Hex
/-!
# Internet addresses

Version 4 in dotted decimals, version 6 in groups of hexadecimal digits with one run of zero groups
written as two colons. Read without leading zeros in a decimal and with at most four digits in a
group; written in lower case, with the longest run of zero groups compressed, the first of equals.
-/

namespace DeskStream

/-- An address of either version. -/
inductive IpAddress where
  | v4 (octets : Vector UInt8 4)
  | v6 (groups : Vector UInt16 8)
  deriving Repr, DecidableEq

namespace IpAddress

def isV4 : IpAddress → Bool
  | v4 _ => true
  | v6 _ => false

/-! ## Order -/

/-- The numbers by which addresses are ordered: the version, then the parts. -/
def key : IpAddress → List Nat
  | v4 octets => 4 :: octets.toList.map UInt8.toNat
  | v6 groups => 6 :: groups.toList.map UInt16.toNat

/-- The order of lists of numbers, by the first place where they differ. -/
def inOrder : List Nat → List Nat → Bool
  | [], _ => true
  | _ :: _, [] => false
  | x :: xs, y :: ys => x < y || (x == y && inOrder xs ys)

/-- Version 4 before version 6, each in numerical order. -/
def le (a b : IpAddress) : Bool := inOrder a.key b.key

/-! ## Writing -/

/-- Parts of an address in dotted decimals. -/
def dotted (octets : List UInt8) : String := ".".intercalate (octets.map fun o => toString o.toNat)

/-- A group without leading zeros. -/
def group (w : UInt16) : String := String.ofList (Nat.toDigits 16 w.toNat)

/-- Groups between colons. -/
def coloned (groups : List UInt16) : String := ":".intercalate (groups.map group)

/-- How many zeros a list begins with. -/
def leadingZeros (ws : List UInt16) : Nat := (ws.takeWhile (· == 0)).length

/-- Position and length of the longest run of zeros, the first of equals. -/
def longestZeros (ws : List UInt16) : Nat × Nat :=
  (List.range ws.length).foldl (fun (best : Nat × Nat) i =>
    let n := leadingZeros (ws.drop i)
    if best.2 < n then (i, n) else best) (0, 0)

/-- The text of a version 6 address; a mapped version 4 address keeps its dots. -/
def textV6 (groups : List UInt16) : String :=
  match groups with
  | [0, 0, 0, 0, 0, 0xffff, x, y] => "::ffff:" ++ dotted
      [(x >>> 8).toUInt8, x.toUInt8, (y >>> 8).toUInt8, y.toUInt8]
  | ws =>
    let (i, n) := longestZeros ws
    if 1 < n then coloned (ws.take i) ++ "::" ++ coloned (ws.drop (i + n)) else coloned ws

def text : IpAddress → String
  | v4 octets => dotted octets.toList
  | v6 groups => textV6 groups.toList

/-! ## Reading -/

/-- The pieces between separators. -/
def pieces (sep : Char) : List Char → List (List Char)
  | [] => [[]]
  | c :: cs =>
    if c = sep then [] :: pieces sep cs
    else match pieces sep cs with
      | [] => [[c]]
      | p :: ps => (c :: p) :: ps

/-- A decimal octet of at most three digits, without leading zeros. -/
def octet? (cs : List Char) : Option UInt8 :=
  let n := cs.foldl (fun n c => 10 * n + (c.toNat - 48)) 0
  if cs.all Char.isDigit && !cs.isEmpty && decide (cs.length ≤ 3)
    && (cs.length == 1 || cs.head? != some '0') && decide (n < 256) then some (.ofNat n) else none

/-- A group of one to four hexadecimal digits. -/
def group? (cs : List Char) : Option UInt16 := do
  if cs.isEmpty || decide (4 < cs.length) then none
  else return .ofNat (← cs.foldlM (fun n c => return 16 * n + (← Hex.value? c)) 0)

/-- The octets of a version 4 address. -/
def octets? (cs : List Char) : Option (Vector UInt8 4) := do
  match ← (pieces '.' cs).mapM octet? with
  | [a, b, c, d] => some #v[a, b, c, d]
  | _ => none

/-- Groups between colons, of which the last may be a version 4 address if so allowed. -/
def groups? (dots : Bool) : List (List Char) → Option (List UInt16)
  | [] => some []
  | [last] =>
    match group? last with
    | some w => some [w]
    | none => if dots then do
        let o ← octets? last
        return [.ofNat (o[0].toNat * 256 + o[1].toNat), .ofNat (o[2].toNat * 256 + o[3].toNat)]
      else none
  | p :: ps => do return (← group? p) :: (← groups? dots ps)

/-- The text before and after the first two colons in a row. -/
def splitDouble : List Char → Option (List Char × List Char)
  | [] => none
  | ':' :: ':' :: r => some ([], r)
  | c :: r => (splitDouble r).map fun (a, b) => (c :: a, b)

/-- The groups of one side of the two colons; an empty side has none. -/
def side? (dots : Bool) (cs : List Char) : Option (List UInt16) :=
  if cs.isEmpty then some [] else groups? dots (pieces ':' cs)

/-- Exactly eight groups. -/
def ofGroups? : List UInt16 → Option IpAddress
  | [a, b, c, d, e, f, g, h] => some (.v6 #v[a, b, c, d, e, f, g, h])
  | _ => none

/-- A version 6 address: eight groups, or fewer with two colons for at least one group of zeros. -/
def v6? (cs : List Char) : Option IpAddress :=
  match splitDouble cs with
  | none => side? true cs >>= ofGroups?
  | some (front, back) => do
    let front ← side? false front
    let back ← side? true back
    let n := front.length + back.length
    if n < 8 then ofGroups? (front ++ List.replicate (8 - n) 0 ++ back) else none

/-- The address that a text denotes. -/
def ofText? (s : String) : Option IpAddress :=
  match octets? s.toList with
  | some o => some (.v4 o)
  | none => v6? s.toList

end IpAddress
end DeskStream
