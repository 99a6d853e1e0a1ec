import DeskStream.Text.Combining
import DeskStream.Text.Printable
/-!
# Quoted text

Text between double quotes. Quotes and backslashes are escaped, and so is every character that
cannot be shown on its own: combining marks, controls, fillers, separators other than the space.
-/

namespace DeskStream.Text

/-- The digits of a number in hexadecimal, lower case, without leading zeros. -/
def hexDigits (n : Nat) : String := String.ofList (Nat.toDigits 16 n)

/-- A character as it stands between quotes. -/
def escape (c : Char) : String :=
  match c with
  | '\x00' => "\\0"
  | '\t' => "\\t"
  | '\r' => "\\r"
  | '\n' => "\\n"
  | '"' => "\\\""
  | '\\' => "\\\\"
  | c =>
    if isCombining c || !isPrintable c then "\\u\x7b" ++ hexDigits c.toNat ++ "\x7d"
    else c.toString

/-- Text in quotes. -/
def quoted (s : String) : String := "\"" ++ String.join (s.toList.map escape) ++ "\""

end DeskStream.Text
