import DeskStream.Discovery.Peer
import DeskStream.Number.Fixed
import DeskStream.Session.Basic
/-!
# What the program prints

Lines of text, parts of which have a colour when they are shown on a terminal.
-/

namespace DeskStream.Cli

/-- A part of a line with the codes of its colour and weight, of which there may be none. -/
structure Part where
  text : String
  codes : List Nat := []
  deriving Repr, DecidableEq

/-- A line of output. -/
abbrev Line := List Part

namespace Part

def bold (p : Part) : Part := { p with codes := 1 :: p.codes }
def dimmed (p : Part) : Part := { p with codes := 2 :: p.codes }
def red (p : Part) : Part := { p with codes := p.codes ++ [31] }
def green (p : Part) : Part := { p with codes := p.codes ++ [32] }
def yellow (p : Part) : Part := { p with codes := p.codes ++ [33] }
def cyan (p : Part) : Part := { p with codes := p.codes ++ [36] }

/-- A part as it is written, with colours or without. -/
def render (coloured : Bool) (p : Part) : String :=
  if coloured ∧ p.codes ≠ [] then
    "\x1b[" ++ ";".intercalate (p.codes.map toString) ++ "m" ++ p.text ++ "\x1b[0m"
  else p.text

end Part

def Line.render (coloured : Bool) (l : Line) : String := String.join (l.map (·.render coloured))

namespace Report

def plain (text : String) : Part := { text }

def title : Part := (plain "RootStream").cyan.bold

/-- Hosts are looked for, for a number of seconds. -/
def browsing (serviceType : String) (seconds : Nat) : Line :=
  [title, plain s!" Browsing for {serviceType} ({seconds}s)"]

def noHosts : Line := [(plain "No hosts found").yellow]

/-- A host that was found. -/
def host (p : Peer) : Line :=
  [plain "  ", (plain p.name).green.bold, plain s!" {p.address} ", (plain p.id).dimmed]

/-- One line for each host. -/
def hosts (peers : List Peer) : List Line := if peers.isEmpty then [noHosts] else peers.map host

def connecting (p : Peer) : Line :=
  [title, plain " Connecting to ", (plain p.name).green, plain s!" at {p.address}"]

def state (s : ConnectionState) : Line :=
  let label := plain s.text
  [(plain "State:").bold, plain " ", match s with
    | .connected | .streaming => label.green
    | .connecting | .reconnecting => label.yellow
    | .error _ => label.red
    | .disconnected => label]

def disconnected : Line := [(plain "Disconnected").yellow]

/-- A text behind spaces up to a width. -/
def padded (width : Nat) (s : String) : String :=
  String.ofList (List.replicate (width - s.length) ' ') ++ s

/-- The quality of the link. -/
def metrics (m : MetricsSample) (stats : SessionStats) : Line :=
  let fps := padded 5 (Number.fixed 1 m.framesPerSecond)
  let rate := padded 8 (Number.fixed 0 (m.bitsPerSecond / 1000))
  let latency := padded 4 (toString m.latency.toNat)
  let mean := Number.fixed 1 m.meanLatency
  let jitter := Number.fixed 1 m.jitterDeviation
  let loss := Number.fixed 2 m.lossPercentage
  [plain (s!"  {fps} fps  {rate} kbps  latency {latency}ms (avg {mean}, jitter {jitter})"
    ++ s!"  loss {loss}%  drops {stats.protocolDrops}/{stats.cryptoDrops}")]

end Report
end DeskStream.Cli
