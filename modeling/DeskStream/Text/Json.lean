import DeskStream.Text.Hex
import DeskStream.Text.Reader
/-!
# JSON text

Values as RFC 8259 spells them. A string may spell a surrogate without its partner; that is read,
but it is no text.
-/

namespace DeskStream

open Text

/-- A value of a JSON text. -/
inductive JsonValue where
  | null
  | boolean (b : Bool)
  /-- A number as it is written. -/
  | number (literal : String)
  | text (s : String)
  /-- A string with a surrogate that has no partner. -/
  | unpaired
  | array (items : List JsonValue)
  /-- Members in order; a name that is no text is none. -/
  | object (members : List (Option String × JsonValue))

namespace JsonValue

/-! ## Strings -/

/-- A part of a string: a character, or half of one. -/
inductive Piece where
  | char (c : Char)
  | surrogate (unit : Nat)

/-- The unit begins a pair. -/
def isHigh (unit : Nat) : Bool := decide (0xd800 ≤ unit) && decide (unit < 0xdc00)

/-- The unit ends a pair. -/
def isLow (unit : Nat) : Bool := decide (0xdc00 ≤ unit) && decide (unit < 0xe000)

/-- Pairs of surrogates become characters; none may be left over. -/
def joinPieces : List Piece → Option (List Char)
  | [] => some []
  | .char c :: r => (joinPieces r).map (c :: ·)
  | .surrogate high :: .surrogate low :: r =>
    if isHigh high && isLow low then
      let c := Char.ofNat (0x10000 + 1024 * (high - 0xd800) + (low - 0xdc00))
      (joinPieces r).map (c :: ·)
    else none
  | .surrogate _ :: _ => none

/-- A digit of either case. -/
def hexDigit : Reader Nat := fun
  | c :: r => (Hex.value? c).map (·, r)
  | [] => none

/-- Four digits. -/
def hex4 : Reader Nat := do
  let a ← hexDigit
  let b ← hexDigit
  let c ← hexDigit
  let d ← hexDigit
  return ((16 * a + b) * 16 + c) * 16 + d

/-- What stands after a backslash. -/
def escapeOf (c : Char) : Reader Piece :=
  match c with
  | '"' => pure (.char '"')
  | '\\' => pure (.char '\\')
  | '/' => pure (.char '/')
  | 'b' => pure (.char '\x08')
  | 'f' => pure (.char '\x0c')
  | 'n' => pure (.char '\n')
  | 'r' => pure (.char '\r')
  | 't' => pure (.char '\t')
  | 'u' => do
    let unit ← hex4
    return if isHigh unit || isLow unit then .surrogate unit else .char (Char.ofNat unit)
  | _ => failure

def piece : Reader Piece := do
  match ← Reader.one fun c => c ≠ '"' && !decide (c < ' ') with
  | '\\' => Reader.one (fun _ => true) >>= escapeOf
  | c => return .char c

/-- A string in quotes, `none` if it is no text. -/
def string : Reader (Option String) := do
  Reader.char '"'
  let pieces ← Reader.many piece
  Reader.char '"'
  return (joinPieces pieces).map String.ofList

/-! ## Numbers -/

def digits : Reader (List Char) := Reader.span₁ Char.isDigit

/-- Digits without a leading zero. -/
def wholeDigits : Reader (List Char) := do
  match ← digits with
  | ['0'] => return ['0']
  | '0' :: _ => failure
  | ds => return ds

def fraction : Reader (List Char) := do
  Reader.char '.'
  return '.' :: (← digits)

def exponent : Reader (List Char) := do
  let e ← Reader.one fun c => c == 'e' || c == 'E'
  let sign ← Reader.optional (Reader.one fun c => c == '+' || c == '-')
  return e :: (sign.toList ++ (← digits))

def numberLiteral : Reader String := do
  let sign ← Reader.optional (Reader.one (· == '-'))
  let whole ← wholeDigits
  let frac ← Reader.optional fraction
  let exp ← Reader.optional exponent
  -- A point or an exponent without digits is left over, and nothing may follow a number that it
  -- could belong to.
  return String.ofList (sign.toList ++ whole ++ frac.getD [] ++ exp.getD [])

/-! ## Values -/

def isSpace (c : Char) : Bool := c == ' ' || c == '\n' || c == '\t' || c == '\r'

def space : Reader Unit := Reader.skip isSpace

/-- A character with space around it. -/
def mark (c : Char) : Reader Unit := do
  space
  Reader.char c
  space

variable {α : Type}

/-- Items with commas between them, up to the closing character. -/
def separated (item : Reader α) (close : Char) : Reader (List α) := do
  space
  (do Reader.char close; return []) <|> do
    let first ← item
    let rest ← Reader.many do mark ','; item
    mark close
    return first :: rest

/-- A member of an object. -/
def memberOf (value : Reader JsonValue) : Reader (Option String × JsonValue) := do
  let name ← string
  mark ':'
  return (name, ← value)

/-- A value with at most `depth` arrays and objects inside each other. -/
def valueWithin : Nat → Reader JsonValue
  | 0 => failure
  | depth + 1 => do
    match ← Reader.peek with
    | some 'n' => Reader.word "null" *> pure null
    | some 't' => Reader.word "true" *> pure (boolean true)
    | some 'f' => Reader.word "false" *> pure (boolean false)
    | some '"' => return ((← string).map text).getD unpaired
    | some '[' =>
      Reader.char '['
      return array (← separated (valueWithin depth) ']')
    | some '\x7b' =>
      Reader.char '\x7b'
      return object (← separated (memberOf (valueWithin depth)) '\x7d')
    | _ => number <$> numberLiteral

/-- The value of a whole text. -/
def ofText? (s : String) : Option JsonValue :=
  Reader.run? (do space; let v ← valueWithin (s.length + 1); space; return v) s

/-! ## Looking into a value -/

def text? : JsonValue → Option String
  | text s => some s
  | _ => none

def boolean? : JsonValue → Option Bool
  | boolean b => some b
  | _ => none

def array? : JsonValue → Option (List JsonValue)
  | array items => some items
  | _ => none

/-- A number written with digits alone. -/
def natural? : JsonValue → Option Nat
  | number s => s.toNat?
  | _ => none

/-- A record with these fields: an object that names none of them twice, whatever else it holds, or
an array of exactly their values in order. -/
def record? (fields : List String) : JsonValue → Option (String → Option JsonValue)
  | array items =>
    if items.length = fields.length then some fun k => (fields.zip items).lookup k else none
  | object members => do
    let named ← members.mapM fun (k, v) => k.map (·, v)
    if fields.all fun f => decide ((named.filter (·.1 == f)).length ≤ 1) then
      some fun k => named.lookup k
    else none
  | _ => none

/-! ## Writing -/

/-- A character as it stands between quotes. -/
def escape (c : Char) : String :=
  match c with
  | '"' => "\\\""
  | '\\' => "\\\\"
  | '\x08' => "\\b"
  | '\x0c' => "\\f"
  | '\n' => "\\n"
  | '\r' => "\\r"
  | '\t' => "\\t"
  | c => if c < ' ' then "\\u00" ++ Hex.encode [c.toNat.toUInt8] else c.toString

/-- Text in quotes. -/
def quoted (s : String) : String := "\"" ++ String.join (s.toList.map escape) ++ "\""

/-- Texts of items as an array, without spaces. -/
def writeArray (items : List String) : String := "[" ++ ",".intercalate items ++ "]"

/-- Names and texts of members as an object, without spaces. -/
def writeObject (members : List (String × String)) : String :=
  "\x7b" ++ ",".intercalate (members.map fun (k, v) => quoted k ++ ":" ++ v) ++ "\x7d"

end JsonValue
end DeskStream
