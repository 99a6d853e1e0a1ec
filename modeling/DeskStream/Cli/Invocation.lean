import DeskStream.Cli.Switch
import DeskStream.Discovery.Peer
/-!
# Invocations of the program

The program lists hosts, or connects to one. Options common to both may stand before the command and
after it; where an option stands in both places the later one counts.
-/

namespace DeskStream.Cli

/-! ## Values -/

/-- The number that digits denote, possibly behind a plus sign. -/
def natural? (cs : List Char) : Option Nat :=
  let digits := match cs with
    | '+' :: r => r
    | r => r
  if digits ≠ [] ∧ digits.all (·.isDigit) then
    some (digits.foldl (fun n c => 10 * n + (c.toNat - '0'.toNat)) 0)
  else none

/-- A number of 64 bits. -/
def count? (s : String) : Option Nat := (natural? s.toList).filter (· < Nat.pow 2 64)

/-- A port. Zero may have a minus sign. -/
def port? (s : String) : Option UInt16 :=
  match s.toList with
  | '-' :: c :: cs =>
    if c = '+' then none else ((natural? (c :: cs)).filter (· = 0)).map UInt16.ofNat
  | cs => ((natural? cs).filter (· < Nat.pow 2 16)).map UInt16.ofNat

/-! ## Options -/

def commonSwitches : List Switch :=
  [{ long := "config", short := some 'c', value := some "CONFIG", accepts := (· ≠ "")
     summary := "Configuration file path", place := 0 },
   { long := "log-level", short := some 'l', value := some "LOG_LEVEL"
     summary := "Log level (trace, debug, info, warn, error)", fallback := some "info", place := 1 },
   { long := "json-logs", summary := "Output logs as JSON", place := 2 },
   { long := "help", short := some 'h', effect := .help, summary := "Print help" }]

def programSwitches : List Switch :=
  commonSwitches ++
    [{ long := "version", short := some 'V', effect := .version, summary := "Print version" }]

def discoverSwitches : List Switch :=
  commonSwitches ++
    [{ long := "seconds", short := some 's', value := some "SECONDS"
       accepts := fun v => (count? v).isSome
       summary := "How long to browse (seconds)", fallback := some "5", place := 0 }]

def connectSwitches : List Switch :=
  commonSwitches ++
    [{ long := "port", short := some 'p', value := some "PORT"
       accepts := fun v => (port? v).isSome
       summary := "Host port", fallback := some (toString defaultPort.toNat), place := 0 },
     { long := "name", short := some 'n', value := some "NAME"
       summary := "Advertised host name to look up", place := 1 },
     { long := "user", short := some 'u', value := some "USER"
       summary := "Username", source? := some "ROOTSTREAM_USER", place := 2 },
     { long := "password", value := some "PASSWORD", summary := "Password"
       source? := some "ROOTSTREAM_PASSWORD", isSecret := true, place := 3 },
     { long := "key", value := some "KEY", summary := "Key shared with the host (64 hex characters)"
       source? := some "ROOTSTREAM_KEY", isSecret := true, place := 4 },
     { long := "no-encrypt", summary := "Send and receive plaintext", place := 5 },
     { long := "interval", short := some 'i', value := some "INTERVAL"
       accepts := fun v => (count? v).isSome
       summary := "Metrics report interval (seconds)", fallback := some "2", place := 6 },
     { long := "duration", short := some 'd', value := some "DURATION"
       accepts := fun v => (count? v).isSome
       summary := "Disconnect after this many seconds (0 = until Ctrl+C)", fallback := some "0"
       place := 7 }]

/-! ## Commands -/

/-- What to connect to, and how. -/
structure ConnectRequest where
  host : Option String := none
  port : UInt16 := defaultPort
  /-- The name of the host, or the name to look it up by. -/
  name : Option String := none
  user : Option String := none
  password : Option String := none
  key : Option String := none
  isPlain : Bool := false
  /-- Seconds between reports, at least one. -/
  interval : Nat := 2
  /-- Seconds to stay connected, without limit if zero. -/
  duration : Nat := 0
  deriving Repr, DecidableEq

inductive Command where
  | discover (seconds : Nat)
  | connect (request : ConnectRequest)
  deriving Repr, DecidableEq

/-- A command with the options common to all. -/
structure Invocation where
  config : Option String := none
  logLevel : String := "info"
  isJson : Bool := false
  command : Command
  deriving Repr, DecidableEq

/-- A help text. -/
inductive Page where
  | program
  | discover
  | connect
  | help
  deriving Repr, DecidableEq

/-- What the program answers without doing anything. -/
inductive Reply where
  | page (p : Page)
  | version
  /-- There were no arguments at all. -/
  | bare
  | misuse (m : Misuse)
  deriving Repr, DecidableEq

def Reply.ofStop (p : Page) : Stop → Reply
  | .help => .page p
  | .version => .version
  | .misuse m => .misuse m

/-- The page of a command. -/
def Page.ofName? : String → Option Page
  | "discover" => some .discover
  | "connect" => some .connect
  | "help" => some .help
  | _ => none

/-- The page that a list of command names asks for. Commands have no commands of their own. -/
def Page.ofNames : List String → Except Misuse Page
  | [] => .ok .program
  | name :: names =>
    match Page.ofName? name, names with
    | none, _ => .error (.unknownCommand name)
    | some p, [] => .ok p
    | some _, further :: _ => .error (.unknownCommand further)

/-- What listing hosts is asked for. -/
def readDiscover (args : List String) : Except Stop (Reading × Command) := do
  let r ← Reading.read discoverSwitches (.upTo 0) none {} args
  return (r, .discover (((r.value? "seconds").bind count?).getD 5))

/-- What connecting is asked for. Variables of the environment stand in for options. -/
def readConnect (environment : String → Option String) (args : List String) :
    Except Stop (Reading × Command) := do
  let r ← Reading.read connectSwitches (.upTo 1) none {} args
  let seconds (long : String) (n : Nat) := ((r.value? long).bind count?).getD n
  return (r, .connect {
    host := r.operands.head?
    port := ((r.value? "port").bind port?).getD defaultPort
    name := r.value? "name"
    user := r.value? "user" <|> environment "ROOTSTREAM_USER"
    password := r.value? "password" <|> environment "ROOTSTREAM_PASSWORD"
    key := r.value? "key" <|> environment "ROOTSTREAM_KEY"
    isPlain := r.has "no-encrypt"
    interval := max (seconds "interval" 2) 1
    duration := seconds "duration" 0 })

namespace Invocation

/-- A command with the common options given before it and after it. -/
def ofReadings (before after : Reading) (command : Command) : Invocation :=
  let value? (long : String) := after.value? long <|> before.value? long
  { config := value? "config"
    logLevel := (value? "log-level").getD "info"
    isJson := after.has "json-logs" || before.has "json-logs"
    command }

/-- The invocation that a command line is, or the answer to it. -/
def read (environment : String → Option String) (args : List String) : Except Reply Invocation :=
  if args = [] then .error .bare
  else do
    let before ← (Reading.read programSwitches .command none {} args).mapError (.ofStop .program)
    match before.operands with
    | ["discover"] =>
      let (after, command) ← (readDiscover before.rest).mapError (.ofStop .discover)
      return ofReadings before after command
    | ["connect"] =>
      let (after, command) ← (readConnect environment before.rest).mapError (.ofStop .connect)
      return ofReadings before after command
    | ["help"] =>
      match Page.ofNames before.rest with
      | .ok p => .error (.page p)
      | .error m => .error (.misuse m)
    | name :: _ => .error (.misuse (.unknownCommand name))
    | [] => .error (.misuse .missingCommand)

end Invocation
end DeskStream.Cli
