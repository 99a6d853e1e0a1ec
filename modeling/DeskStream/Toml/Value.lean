/-!
# TOML values

What a TOML text holds, and the tables that its keys and headers open.

A table remembers how it was opened, since that settles what may still be added to it: a header may
come back to a table that only was passed through, dotted keys may come back to a table that dotted
keys opened, and an inline table is closed. The last of an array of tables stands for the array.
-/

namespace DeskStream

/-- How a table was opened. -/
inductive TomlOrigin where
  /-- Between braces. -/
  | inline
  /-- By its own header. -/
  | header
  /-- On the way to the table of a header. -/
  | passed
  /-- On the way to the last part of a dotted key. -/
  | dotted
  deriving Repr, DecidableEq

inductive TomlValue where
  | text (s : String)
  | integer (n : Int)
  | float (x : Float)
  | boolean (b : Bool)
  /-- A date, a time or both. -/
  | moment
  | array (items : List TomlValue)
  | table (origin : TomlOrigin) (entries : List (String × TomlValue))
  /-- An array of tables that headers opened. -/
  | tables (items : List (List (String × TomlValue)))

/-- What a table holds, every key once. -/
abbrev TomlEntries := List (String × TomlValue)

namespace TomlEntries

/-- The entries with another value for a key that is there. -/
def set (es : TomlEntries) (key : String) (v : TomlValue) : TomlEntries :=
  es.map fun (k, old) => (k, if k = key then v else old)

/-- Change the table at the end of a path, opening what is missing on the way. -/
def update (dotted : Bool) (change : TomlOrigin → TomlEntries → Option TomlEntries) :
    List String → TomlOrigin → TomlEntries → Option TomlEntries
  | [], origin, es => change origin es
  | key :: path, _, es =>
    match es.lookup key with
    | none => do
      let origin : TomlOrigin := if dotted then .dotted else .passed
      return es ++ [(key, .table origin (← update dotted change path origin []))]
    | some (.table origin sub) =>
      if origin = .inline || (dotted && origin = .header) then none
      else do return es.set key (.table origin (← update dotted change path origin sub))
    | some (.tables items) =>
      match items.getLast? with
      | none => none
      | some last => do
        return es.set key (.tables (items.dropLast ++ [← update dotted change path .header last]))
    | some _ => none

/-- Give a dotted key a value. It must be new, and so must be the table that it is in, unless other
dotted keys opened that. -/
def assign (path : List String) (key : String) (v : TomlValue) (es : TomlEntries) :
    Option TomlEntries :=
  update true (fun origin es =>
    if !path.isEmpty && origin ≠ .dotted then none
    else if (es.lookup key).isSome then none
    else some (es ++ [(key, v)])) path .header es

/-- Open the table of a header. -/
def openTable (path : List String) (key : String) (es : TomlEntries) : Option TomlEntries :=
  update false (fun _ es =>
    match es.lookup key with
    | none => some (es ++ [(key, .table .header [])])
    | some (.table .passed sub) => some (es.set key (.table .header sub))
    | some _ => none) path .header es

/-- Open the next table of an array of tables. -/
def openNext (path : List String) (key : String) (es : TomlEntries) : Option TomlEntries :=
  update false (fun _ es =>
    match es.lookup key with
    | none => some (es ++ [(key, .tables [[]])])
    | some (.tables items) => some (es.set key (.tables (items ++ [[]])))
    | some _ => none) path .header es

/-- Give a dotted key a value in the table of a header. -/
def assignIn (header path : List String) (key : String) (v : TomlValue) (es : TomlEntries) :
    Option TomlEntries :=
  update false (fun _ es => assign path key v es) header .header es

end TomlEntries

/-! ## Looking into a value -/

namespace TomlValue

def text? : TomlValue → Option String
  | text s => some s
  | _ => none

def boolean? : TomlValue → Option Bool
  | boolean b => some b
  | _ => none

/-- An integer from zero up to below a limit. -/
def natural? (limit : Nat) : TomlValue → Option Nat
  | integer n => if 0 ≤ n && decide (n < limit) then some n.toNat else none
  | _ => none

/-- A number, rounded to single precision. -/
def float32? : TomlValue → Option Float32
  | float x => some x.toFloat32
  | integer n => some (Float32.ofInt n)
  | _ => none

/-- A record with these fields: a table, or an array of their values in order. What is missing is
left out and what is too much passed over; a moment has none of the fields. -/
def record? (fields : List String) : TomlValue → Option (String → Option TomlValue)
  | table _ es => some fun k => es.lookup k
  | array items => some fun k => (fields.zip items).lookup k
  | tables items => some fun k => (fields.zip (items.map (table .header))).lookup k
  | moment => some fun _ => none
  | _ => none

/-- The value of a field, or the default where there is none. -/
def fieldOr {α : Type} (v : Option TomlValue) (read : TomlValue → Option α) (default : α) :
    Option α :=
  match v with
  | none => some default
  | some v => read v

end TomlValue
end DeskStream
