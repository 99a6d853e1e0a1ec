import DeskStream.Toml.Scalar
/-!
# TOML documents

Lines that open tables and give keys values, read in order.
-/

namespace DeskStream.Toml

open Text

/-! ## Values -/

variable {α : Type}

/-- Items with commas between them; a comma may follow the last. -/
def items (item : Reader α) : Reader (List α) := do
  match ← Reader.optional item with
  | none => return []
  | some first =>
    let rest ← Reader.many do
      Reader.char ','
      item
    let _ ← Reader.optional (Reader.char ',')
    return first :: rest

/-- An item with space over several lines around it. -/
def spread (item : Reader α) : Reader α := do
  lines
  let v ← item
  lines
  return v

/-- Keys and values between braces, on one line and without a comma after the last. -/
def pairs (pair : Reader α) : Reader (List α) := do
  space
  match ← Reader.optional pair with
  | none => return []
  | some first => return first :: (← Reader.many do Reader.char ','; pair)

/-- A key and its value: the path to the key's table, its last part, the value. -/
def pairOf (value : Reader TomlValue) : Reader (List String × String × TomlValue) := do
  let path ← key
  Reader.char '='
  space
  let v ← value
  space
  match path.getLast? with
  | some last => return (path.dropLast, last, v)
  | none => failure

/-- The table of pairs between braces. -/
def inlineTable (ps : List (List String × String × TomlValue)) : Option TomlEntries :=
  ps.foldlM (fun es (path, key, v) => TomlEntries.assign path key v es) []

/-- A value with at most `depth` arrays and tables inside each other. -/
def valueWithin : Nat → Reader TomlValue
  | 0 => scalarValue
  | depth + 1 => do
    match ← Reader.peek with
    | some '[' =>
      Reader.char '['
      let vs ← items (spread (valueWithin depth))
      lines
      Reader.char ']'
      return .array vs
    | some '\x7b' =>
      Reader.char '\x7b'
      let ps ← pairs (pairOf (valueWithin depth))
      space
      Reader.char '\x7d'
      match inlineTable ps with
      | some es => return .table .inline es
      | none => failure
    | _ => scalarValue
where
  /-- A value that is neither an array nor a table. -/
  scalarValue : Reader TomlValue :=
    (TomlValue.text <$> string)
      <|> (Reader.word "true" *> pure (.boolean true))
      <|> (Reader.word "false" *> pure (.boolean false))
      <|> numeral

/-- Arrays and tables that may stand inside each other. -/
def maxDepth : Nat := 79

/-! ## Lines -/

/-- What a line says. -/
inductive Statement where
  | blank
  | openTable (path : List String) (key : String)
  | openNext (path : List String) (key : String)
  | assign (path : List String) (key : String) (v : TomlValue)

/-- A key between brackets. -/
def header (left right : String) (make : List String → String → Statement) : Reader Statement := do
  Reader.word left
  let path ← key
  Reader.word right
  match path.getLast? with
  | some last => return make path.dropLast last
  | none => failure

/-- A table's header. Two brackets always begin the header of an array of tables. -/
def anyHeader : Reader Statement := do
  let two ← (Reader.word "[[" *> pure true) <|> pure false
  if two then header "" "]]" .openNext else header "[" "]" .openTable

def assignment : Reader Statement := do
  let (path, key, v) ← pairOf (valueWithin maxDepth)
  return .assign path key v

/-- A line with its end, which the last may lack. -/
def line : Reader Statement := do
  space
  let s ← Reader.optional (anyHeader <|> assignment)
  space
  let _ ← Reader.optional comment
  newline <|> Reader.finish
  return s.getD .blank

/-- A document under construction: the table that is open, and everything so far. -/
structure Draft where
  header : List String := []
  root : TomlEntries := []

/-- What a line does to a document. -/
def Draft.apply (d : Draft) : Statement → Option Draft
  | .blank => some d
  | .openTable path key => do return ⟨path ++ [key], ← d.root.openTable path key⟩
  | .openNext path key => do return ⟨path ++ [key], ← d.root.openNext path key⟩
  | .assign path key v => do return { d with root := ← d.root.assignIn d.header path key v }

/-- The lines of a text, which a byte order mark may precede. -/
def statements : Reader (List Statement) := do
  let _ ← Reader.optional (Reader.char '\ufeff')
  let ss ← Reader.many line
  Reader.finish
  return ss

/-- The table that a text describes. -/
def ofText? (s : String) : Option TomlValue := do
  let ss ← Reader.run? statements s
  let d ← ss.foldlM Draft.apply {}
  return .table .header d.root

end DeskStream.Toml
