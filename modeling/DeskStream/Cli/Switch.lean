/-!
# Reading a command line

A command line has options and operands. An option is named by a word after two hyphens, or by a
letter after one; letters may be written together. The value of an option stands behind an equals
sign, right behind its letter, or in the argument that follows, which then does not begin with a
hyphen. After two hyphens alone only operands follow. No option is given twice.

Arguments are read from left to right, and the first that asks for help, or is at fault, decides.
-/

namespace DeskStream.Cli

/-- What an option does. -/
inductive Effect where
  /-- It is noted with its value. -/
  | note
  | help
  | version
  deriving Repr, DecidableEq

/-- An option. -/
structure Switch where
  long : String
  short : Option Char := none
  /-- What its value is called; an option without one is a flag. -/
  value : Option String := none
  /-- The texts that are values. -/
  accepts : String → Bool := fun _ => true
  effect : Effect := .note
  summary : String
  /-- The value without the option. -/
  fallback : Option String := none
  /-- A variable of the environment that stands in for the option. -/
  source? : Option String := none
  /-- The variable holds a secret. -/
  isSecret : Bool := false
  /-- Where help texts show it. -/
  place : Nat := 999

/-- An option as messages name it. -/
def Switch.text (s : Switch) : String :=
  "--" ++ s.long ++ match s.value with
    | none => ""
    | some v => s!" <{v}>"

/-- What is wrong with a command line. -/
inductive Misuse where
  | unexpected (argument : String)
  | unneededValue (option value : String)
  | missingValue (option : String)
  | invalidValue (option value : String)
  | repeated (option : String)
  | unknownCommand (name : String)
  | missingCommand
  deriving Repr, DecidableEq

def Misuse.message : Misuse → String
  | unexpected a => s!"unexpected argument '{a}' found"
  | unneededValue s v => s!"unexpected value '{v}' for '{s}' found; no more were expected"
  | missingValue s => s!"a value is required for '{s}' but none was supplied"
  | invalidValue s v => s!"invalid value '{v}' for '{s}'"
  | repeated s => s!"the argument '{s}' cannot be used multiple times"
  | unknownCommand name => s!"unrecognized subcommand '{name}'"
  | missingCommand => "'rootstream' requires a subcommand but one was not provided"

/-- Why reading stops before the end. -/
inductive Stop where
  | help
  | version
  | misuse (m : Misuse)
  deriving Repr, DecidableEq

/-- What has been read. -/
structure Reading where
  /-- Options with their values, those of flags empty. -/
  given : List (String × String) := []
  operands : List String := []
  /-- Arguments that were left for someone else. -/
  rest : List String := []
  deriving Repr, DecidableEq

namespace Reading

def value? (r : Reading) (long : String) : Option String := r.given.lookup long

def has (r : Reading) (long : String) : Bool := (r.value? long).isSome

/-- An option is given. -/
def give (r : Reading) (s : Switch) (value : String) : Except Stop Reading :=
  match s.effect with
  | .help => .error .help
  | .version => .error .version
  | .note =>
    if r.has s.long then .error (.misuse (.repeated s.text))
    else if s.accepts value then .ok { r with given := r.given ++ [(s.long, value)] }
    else .error (.misuse (.invalidValue s.text value))

/-- An option named by a word; it may still want the argument that follows. -/
def giveLong (r : Reading) (switches : List Switch) (cs : List Char) :
    Except Stop (Reading × Option Switch) :=
  let name := String.ofList (cs.takeWhile (· ≠ '='))
  let attached := match cs.dropWhile (· ≠ '=') with
    | [] => none
    | _ :: value => some (String.ofList value)
  match switches.find? (·.long == name) with
  | none => .error (.misuse (.unexpected ("--" ++ name)))
  | some s =>
    match s.value, attached with
    | none, none => (r.give s "").map (·, none)
    | none, some v => .error (.misuse (.unneededValue s.text v))
    | some _, some v => (r.give s v).map (·, none)
    | some _, none => .ok (r, some s)

/-- Options named by letters; the last may still want the argument that follows. -/
def giveShort (r : Reading) (switches : List Switch) :
    List Char → Except Stop (Reading × Option Switch)
  | [] => .ok (r, none)
  | c :: cs =>
    match switches.find? (·.short == some c) with
    | none => .error (.misuse (.unexpected s!"-{c}"))
    | some s =>
      if s.value.isNone then
        match r.give s "" with
        | .error e => .error e
        | .ok r => giveShort r switches cs
      else match cs with
        | [] => .ok (r, some s)
        | '=' :: v => (r.give s (String.ofList v)).map (·, none)
        | v => (r.give s (String.ofList v)).map (·, none)

/-- Operands, of which there may be at most `room`. -/
def take (r : Reading) (room : Nat) (operands : List String) : Except Stop Reading :=
  let all := r.operands ++ operands
  match all.drop room with
  | [] => .ok { r with operands := all }
  | a :: _ => .error (.misuse (.unexpected a))

/-- How many operands there may be. -/
inductive Operands where
  /-- At most so many. -/
  | upTo (n : Nat)
  /-- One, with which reading ends. -/
  | command
  deriving Repr, DecidableEq

/-- Read arguments, of which the first may be the value of an option. -/
def read (switches : List Switch) (allowed : Operands) :
    Option Switch → Reading → List String → Except Stop Reading
  | none, r, [] => .ok r
  | some s, _, [] => .error (.misuse (.missingValue s.text))
  | some s, r, a :: args =>
    if a.startsWith "-" ∧ a ≠ "-" then .error (.misuse (.missingValue s.text))
    else
      match r.give s a with
      | .error e => .error e
      | .ok r => read switches allowed none r args
  | none, r, a :: args =>
    match a.toList with
    | ['-', '-'] =>
      match allowed with
      | .command => r.take 0 args
      | .upTo n => r.take n args
    | '-' :: '-' :: cs =>
      match r.giveLong switches cs with
      | .error e => .error e
      | .ok (r, pending) => read switches allowed pending r args
    | '-' :: c :: cs =>
      match r.giveShort switches (c :: cs) with
      | .error e => .error e
      | .ok (r, pending) => read switches allowed pending r args
    | _ =>
      match allowed with
      | .command => .ok { r with operands := [a], rest := args }
      | .upTo n =>
        match r.take n [a] with
        | .error e => .error e
        | .ok r => read switches allowed none r args

end Reading
end DeskStream.Cli
