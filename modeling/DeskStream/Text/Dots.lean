import DeskStream.Text.Blank
/-!
# Dots at the ends of a name

Names of services and hosts are compared without the dots around them.
-/

namespace DeskStream.Text

def isDot (c : Char) : Bool := c == '.'

/-- A name without dots at either end. -/
def trimDots (s : String) : String := String.ofList (trimChars isDot s.toList)

/-- A name without dots at its end. -/
def trimEndDots (s : String) : String := String.ofList (trimEndChars isDot s.toList)

/-- The text before and after the last dot. -/
def splitLastDot (s : String) : Option (String × String) :=
  let reversed := s.toList.reverse
  let after := reversed.takeWhile (! isDot ·)
  match reversed.dropWhile (! isDot ·) with
  | [] => none
  | _ :: before => some (String.ofList before.reverse, String.ofList after.reverse)

/-- The text in front of a suffix. -/
def dropSuffix? (s suffix : String) : Option String :=
  if suffix.toList.isSuffixOf s.toList then
    some (String.ofList (s.toList.take (s.toList.length - suffix.toList.length)))
  else none

end DeskStream.Text
