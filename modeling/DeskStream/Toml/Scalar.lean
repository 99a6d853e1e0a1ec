import DeskStream.Number.Shortest
import DeskStream.Text.Hex
import DeskStream.Text.Reader
import DeskStream.Toml.Value
/-!
# Scalars of TOML

Space and line ends, keys, strings, numbers, dates and times, as TOML 1.0 spells them.
-/

namespace DeskStream.Toml

open Text

/-! ## Space -/

def space : Reader Unit := Reader.skip fun c => c == ' ' || c == '\t'

def newline : Reader Unit := Reader.char '\n' <|> Reader.word "\r\n"

/-- A character that may stand in a comment or between quotes. -/
def isPlain (c : Char) : Bool := c == '\t' || (!decide (c < ' ') && c != '\x7f')

/-- A comment, up to the end of its line. -/
def comment : Reader Unit := do
  Reader.char '#'
  Reader.skip isPlain

/-- Space over several lines, with comments. -/
def lines : Reader Unit := do
  space
  let _ ← Reader.many do
    let _ ← Reader.optional comment
    newline
    space

/-! ## Strings -/

/-- A number of hexadecimal digits. -/
def hexNumber : Nat → Nat → Reader Nat
  | 0, n => pure n
  | k + 1, n => do
    let c ← Reader.one fun c => (Hex.value? c).isSome
    hexNumber k (16 * n + (Hex.value? c).getD 0)

/-- The character with a number, if there is one. -/
def scalar (n : Nat) : Reader Char := if n.isValidChar then pure (Char.ofNat n) else failure

/-- An escaped character. -/
def escaped : Reader Char := do
  Reader.char '\\'
  match ← Reader.one fun _ => true with
  | '"' => return '"'
  | '\\' => return '\\'
  | 'b' => return '\x08'
  | 'f' => return '\x0c'
  | 'n' => return '\n'
  | 'r' => return '\r'
  | 't' => return '\t'
  | 'u' => hexNumber 4 0 >>= scalar
  | 'U' => hexNumber 8 0 >>= scalar
  | _ => failure

/-- A backslash at the end of a line, with all blank space after it. -/
def joint : Reader Unit := do
  Reader.char '\\'
  space
  newline
  Reader.skip fun c => c == ' ' || c == '\t' || c == '\n'
  let _ ← Reader.many do
    Reader.word "\r\n"
    Reader.skip fun c => c == ' ' || c == '\t' || c == '\n'

/-- Text on one line in double quotes. -/
def basicString : Reader String := do
  Reader.char '"'
  let cs ← Reader.many (Reader.one (fun c => isPlain c && c != '"' && c != '\\') <|> escaped)
  Reader.char '"'
  return String.ofList cs

/-- Text on one line in single quotes, nothing escaped. -/
def literalString : Reader String := do
  Reader.char '\''
  let cs ← Reader.span fun c => isPlain c && c != '\''
  Reader.char '\''
  return String.ofList cs

/-- One or two quotes inside a text between three of them. -/
def innerQuotes (q : Char) : Reader (List Char) := do
  let run ← Reader.span (· == q)
  if run.length = 1 || run.length = 2 then return run else failure

/-- The quotes that end a text between three of them: up to two more belong to the text. -/
def closingQuotes (q : Char) : Reader (List Char) := do
  let run ← Reader.span (· == q)
  if 3 ≤ run.length && run.length ≤ 5 then return run.drop 3 else failure

/-- Text over several lines between three quotes; a line end right after them is left out, and every
other one is a line feed. -/
def longString (q : Char) (piece : Reader (List Char)) : Reader String := do
  Reader.char q
  Reader.char q
  Reader.char q
  let _ ← Reader.optional newline
  let pieces ← Reader.many ((newline *> pure ['\n']) <|> innerQuotes q <|> piece)
  return String.ofList (pieces.flatten ++ (← closingQuotes q))

def longBasicString : Reader String := longString '"'
  (Reader.span₁ (fun c => isPlain c && c != '"' && c != '\\') <|> (joint *> pure [])
    <|> (List.singleton <$> escaped))

def longLiteralString : Reader String :=
  longString '\'' (Reader.span₁ fun c => isPlain c && c != '\'')

def string : Reader String :=
  longBasicString <|> longLiteralString <|> basicString <|> literalString

/-! ## Keys -/

def isBare (c : Char) : Bool := c.isAlphanum || c == '_' || c == '-'

/-- One part of a key. -/
def simpleKey : Reader String :=
  basicString <|> literalString <|> (String.ofList <$> Reader.span₁ isBare)

/-- Parts that a key may have. -/
def maxKeyLength : Nat := 79

/-- A key of one part or of several with dots between them. -/
def key : Reader (List String) := do
  space
  let first ← simpleKey
  let rest ← Reader.many do
    space
    Reader.char '.'
    space
    simpleKey
  space
  if rest.length < maxKeyLength then return first :: rest else failure

/-! ## Numbers -/

/-- Digits of a kind, with single underscores between them. -/
def grouped (p : Char → Bool) : Reader (List Char) := do
  let first ← Reader.one p
  let rest ← Reader.many (Reader.one p <|> (Reader.char '_' *> Reader.one p))
  return first :: rest

def sign : Reader Bool :=
  (Reader.char '-' *> pure true) <|> (Reader.char '+' *> pure false) <|> pure false

/-- Decimal digits without a leading zero. -/
def wholeDigits : Reader (List Char) := do
  match ← grouped Char.isDigit with
  | ['0'] => return ['0']
  | '0' :: _ => failure
  | ds => return ds

/-- The number that digits of a base denote. -/
def value (base : Nat) (digits : List Char) : Nat :=
  digits.foldl (fun n c => base * n + (Hex.value? c).getD 0) 0

/-- Integers end below this, and begin at its negative. -/
def integerLimit : Nat := Nat.pow 2 63

/-- An integer of 64 bits. -/
def inRange (n : Int) : Reader TomlValue :=
  if -integerLimit ≤ n && n < integerLimit then pure (.integer n) else failure

/-- Digits of another base after its mark. -/
def based (mark : String) (base : Nat) : Reader TomlValue := do
  Reader.word mark
  let digits ← grouped fun c => (Hex.value? c).any (· < base)
  inRange (value base digits)

def integer : Reader TomlValue :=
  based "0x" 16 <|> based "0o" 8 <|> based "0b" 2 <|> do
    let negative ← sign
    let n : Int := value 10 (← wholeDigits)
    inRange (if negative then -n else n)

def fraction : Reader (List Char) := Reader.char '.' *> grouped Char.isDigit

def exponent : Reader Int := do
  let _ ← Reader.one fun c => c == 'e' || c == 'E'
  let negative ← sign
  let n : Int := value 10 (← grouped Char.isDigit)
  return if negative then -n else n

def signed (negative : Bool) (x : Float) : Float := if negative then -x else x

/-- A number with a fraction, an exponent or both; too great a positive one is none. -/
def decimal : Reader TomlValue := do
  let negative ← sign
  let whole ← wholeDigits
  let frac ← Reader.optional fraction
  let exp ← Reader.optional exponent
  if frac.isNone && exp.isNone then failure
  else
    let places := (frac.getD []).length
    let x := (Number.Decimal.mk (value 10 (whole ++ frac.getD [])) (exp.getD 0 - places)).toFloat
    if x.isInf && !negative then failure else return .float (signed negative x)

def special : Reader TomlValue := do
  let negative ← sign
  let x ← (Reader.word "inf" *> pure (1 / 0)) <|> (Reader.word "nan" *> pure (0 / 0))
  return .float (signed negative x)

/-! ## Dates and times -/

/-- A number of so many digits in a range. -/
def field (digits low high : Nat) : Reader Nat := do
  let cs ← (List.range digits).mapM fun _ => Reader.one Char.isDigit
  let n := value 10 cs
  if low ≤ n && n ≤ high then return n else failure

/-- Days of a month. -/
def daysIn (year month : Nat) : Nat :=
  if month = 2 then
    if year % 4 = 0 && (year % 100 ≠ 0 || year % 400 = 0) then 29 else 28
  else if month = 4 || month = 6 || month = 9 || month = 11 then 30 else 31

def date : Reader Unit := do
  let year ← field 4 0 9999
  Reader.char '-'
  let month ← field 2 1 12
  Reader.char '-'
  let _ ← field 2 1 (daysIn year month)

def time : Reader Unit := do
  let _ ← field 2 0 23
  Reader.char ':'
  let _ ← field 2 0 59
  Reader.char ':'
  let _ ← field 2 0 60
  let _ ← Reader.optional do
    Reader.char '.'
    Reader.span₁ Char.isDigit

def offset : Reader Unit :=
  (do let _ ← Reader.one fun c => c == 'Z' || c == 'z') <|> do
    let _ ← Reader.one fun c => c == '+' || c == '-'
    let _ ← field 2 0 23
    Reader.char ':'
    let _ ← field 2 0 59

/-- A date, a time, or both with or without an offset. -/
def moment : Reader TomlValue := do
  (do
    date
    let _ ← Reader.optional do
      let _ ← Reader.one fun c => c == 'T' || c == 't' || c == ' '
      time
      let _ ← Reader.optional offset) <|> time
  return .moment

/-- A number, a date or a time. -/
def numeral : Reader TomlValue := moment <|> decimal <|> special <|> integer

end DeskStream.Toml
