import DeskStream.Cli.Invocation
import DeskStream.Text.Blank
/-!
# Which log filters there are

A filter is a list of directives between commas. A directive is a level, or names what it is about
and may give a level for it: a target, a span in brackets, or both, where a span may list fields in
braces.

    info
    audio=debug
    session[connect\x7bpeer\x7d]=trace
-/

namespace DeskStream.Cli.LogFilter

/-- Names of levels, in either case, or numbers up to five. -/
def isLevel (cs : List Char) : Bool :=
  ["off", "error", "warn", "info", "debug", "trace"].contains (String.ofList (cs.map Char.toLower))
    || ((natural? cs).any (· ≤ 5))

/-- What may begin a target. Beyond ASCII every character may. -/
def beginsTarget (c : Char) : Bool :=
  c.isAlphanum || c == '-' || c == ':' || c == '_' || 128 ≤ c.toNat

/-- After what a directive is about: nothing, or a level that may be left out. -/
def isEnd : List Char → Bool
  | [] => true
  | '=' :: level => level.isEmpty || isLevel level
  | _ => false

/-- From inside the brackets of a span on. -/
def isSpan (cs : List Char) : Bool :=
  match cs.dropWhile (fun c => c ≠ ']' ∧ c ≠ '\x7b') with
  | ']' :: rest => isEnd rest
  | '\x7b' :: fields =>
    match fields.takeWhile (· ≠ '\x7d'), fields.dropWhile (· ≠ '\x7d') with
    | _ :: _, _ :: ']' :: rest => isEnd rest
    | _, _ => false
  | _ => false

def isDirective (cs : List Char) : Bool :=
  match cs with
  | '[' :: span => isSpan span
  | c :: _ =>
    beginsTarget c && match cs.dropWhile (fun c => c ≠ '=' ∧ c ≠ '[') with
      | '[' :: span => isSpan span
      | rest => isEnd rest
  | [] => false

/-- Whether a text is a filter. Nothing between two commas counts for nothing. -/
def isFilter (s : String) : Bool :=
  (s.toList.splitOnP (· == ',')).all fun cs => cs.isEmpty || isDirective (Text.trimChars Text.isBlank cs)

end DeskStream.Cli.LogFilter
