import DeskStream.Cli.Invocation
/-!
# Help texts

A page says what a command is for, how it is written, and what each argument means. Options stand in
the order of their places, those that share one by their letters or else their words.
-/

namespace DeskStream.Cli

/-- A text filled up with spaces to a width. -/
def filled (width : Nat) (s : String) : String :=
  s ++ String.ofList (List.replicate (width - s.length) ' ')

/-- Rows of two columns, the second one aligned. -/
def columns (rows : List (String × String)) : List String :=
  let width := (rows.map (·.1.length)).foldl max 0
  rows.map fun (left, right) => "  " ++ filled width left ++ "  " ++ right

/-- What options are sorted by. -/
def Switch.rank (s : Switch) : Nat × String :=
  (s.place, match s.short with
    | some c => String.ofList [c.toLower, if c.isLower then '0' else '1']
    | none => s.long)

def Switch.precedes (s t : Switch) : Bool :=
  s.place < t.place || (s.place == t.place && !(t.rank.2 < s.rank.2))

/-- The two columns of an option. -/
def Switch.row (environment : String → Option String) (s : Switch) : String × String :=
  let letter := match s.short with
    | some c => s!"-{c}, "
    | none => "    "
  let source := match s.source? with
    | none => ""
    | some v =>
      let value := (environment v).getD ""
      if s.isSecret then s!" [env: {v}]" else s!" [env: {v}={value}]"
  let fallback := match s.fallback with
    | none => ""
    | some v => s!" [default: {v}]"
  (letter ++ s.text, s.summary ++ source ++ fallback)

/-- The options of a page, under their heading. -/
def optionLines (environment : String → Option String) (switches : List Switch) : List String :=
  "Options:" :: columns ((switches.mergeSort Switch.precedes).map (·.row environment))

namespace Page

def about : Page → String
  | program => "Headless RootStream client for discovery and link testing"
  | discover => "List hosts advertised on the local network"
  | connect => "Connect to a host and report link metrics"
  | help => "Print this message or the help of the given subcommand(s)"

def usage : Page → String
  | program => "Usage: rootstream [OPTIONS] <COMMAND>"
  | discover => "Usage: rootstream discover [OPTIONS]"
  | connect => "Usage: rootstream connect [OPTIONS] [HOST]"
  | help => "Usage: rootstream help [COMMAND]..."

/-- What a page says of the arguments, in paragraphs. -/
def paragraphs (environment : String → Option String) : Page → List (List String)
  | program =>
    [["Commands:"] ++ columns
      [("discover", discover.about), ("connect", connect.about), ("help", help.about)],
     optionLines environment programSwitches]
  | discover => [optionLines environment discoverSwitches]
  | connect =>
    [["Arguments:"] ++ columns [("[HOST]", "Host address; browse for `--name` if omitted")],
     optionLines environment connectSwitches]
  | help => [["Arguments:"] ++ columns [("[COMMAND]...", "Print help for the subcommand(s)")]]

/-- The lines of a page. -/
def lines (environment : String → Option String) (p : Page) : List String :=
  [p.about, "", p.usage] ++ (p.paragraphs environment).flatMap ("" :: ·)

end Page

/-- The line that tells the version. -/
def versionLine : String := "rootstream 0.3.0"

end DeskStream.Cli
