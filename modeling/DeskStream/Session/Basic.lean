import DeskStream.Discovery.Peer
import DeskStream.Metrics
import DeskStream.Security.KeyRing
import DeskStream.Session.Config
import DeskStream.Session.Error
/-!
# Sessions

A session is a connection to one host and what surrounds it. Several activities go on at once: calls
of the user, connector calls, a reconnect timer, writes, echoes, the receive loop of each link. An
activity is a `Task` that stands where it waits; a step takes one of them to its next wait.

Links and attempts carry the generation of the session in which they began. Every disconnect, every
loss of a link and every accepted connect begins a new one, so that what belongs to an earlier
generation is recognised when it finally completes.
-/

namespace DeskStream

open Wire

/-- What the world outside supplies to a step: both clocks, and a nonce not used before. -/
structure Moment where
  /-- Milliseconds of the wall clock. -/
  wall : UInt64
  /-- Nanoseconds of the monotonic clock. -/
  mono : Nat
  nonce : Nonce

/-- An open link, by the number the connector gave it. -/
structure Link where
  number : Nat
  generation : Nat
  deriving Repr, DecidableEq

/-- For whom a packet is sent. -/
inductive Origin where
  /-- A call of the user. -/
  | call (call : Nat)
  /-- The session token after connecting, for a connect call or a reconnect. -/
  | auth (call : Option Nat)
  /-- The answer to a keep-alive. -/
  | echo
  deriving Repr, DecidableEq

/-- An activity, by what it waits for. -/
inductive Task where
  /-- A connect call, for its turn. -/
  | connect (call : Nat) (peer : Peer)
  /-- A disconnect call, for its turn. -/
  | disconnect (call : Nat)
  /-- An outstanding connector call, for a connect call or a reconnect. -/
  | dial (call : Option Nat) (generation : Nat) (peer : Peer)
  /-- A disconnect call that has its turn, for the receive loop of its link to end. -/
  | join (call : Nat) (link : Nat)
  /-- A packet to send, not looked at yet. -/
  | send (origin : Origin) (kind : PacketKind) (payload : Bytes)
  /-- A packet to send, for its turn to write. -/
  | queued (origin : Origin) (kind : PacketKind) (payload : Bytes)
  /-- A packet being written, for the link to take it. -/
  | write (origin : Origin) (link : Link) (sequence : UInt32) (message : Bytes)
  /-- A reconnect, for its interval to pass. -/
  | timer (generation : Nat)
  /-- The closing of a link that has left the session. -/
  | close (link : Nat)
  /-- The receive loop of a link, for a message or to be cancelled. -/
  | listen (link : Link) (cancelled : Bool)
  deriving Repr, DecidableEq

/-- How a call ends. -/
inductive Outcome where
  /-- Connected, with the state that the caller sees. -/
  | connected (state : ConnectionState)
  | disconnected
  /-- Sent under a sequence number. -/
  | sent (sequence : UInt32)
  | failed (why : ClientError)
  deriving Repr, DecidableEq

/-- Counts of a session since the last accepted connect, each a 64-bit word: totals below `2 ^ 64` are
meant, and no step adds more than one to a count. -/
structure SessionStats where
  packetsSent : Nat := 0
  sendFailures : Nat := 0
  /-- Messages that are no packets, or media packets without their header. -/
  protocolDrops : Nat := 0
  /-- Messages that do not open. -/
  cryptoDrops : Nat := 0
  controlPackets : Nat := 0
  keepalivesEchoed : Nat := 0
  reconnectAttempts : Nat := 0
  deriving Repr, DecidableEq

/-- The names and values of all counts. -/
def SessionStats.counts (s : SessionStats) : List (String × Nat) :=
  [("packets_sent", s.packetsSent), ("send_failures", s.sendFailures),
   ("protocol_drops", s.protocolDrops), ("crypto_drops", s.cryptoDrops),
   ("control_packets", s.controlPackets), ("keepalives_echoed", s.keepalivesEchoed),
   ("reconnect_attempts", s.reconnectAttempts)]

/-- A session, its activities, and what others have seen of it, oldest first. -/
structure Session where
  config : SessionConfig
  ring : KeyRing
  pipeline : Pipeline
  metrics : LinkMetrics := {}
  state : ConnectionState := .disconnected
  link : Option Link := none
  generation : Nat := 0
  peer : Option Peer := none
  /-- The number of the next packet. -/
  sequence : UInt32 := 1
  /-- Send failures since the last success. -/
  failures : Nat := 0
  stats : SessionStats := {}
  /-- Activities by number, in the order in which they began. -/
  tasks : List (Nat × Task) := []
  /-- How many activities have begun. -/
  spawned : Nat := 0
  /-- How many links the connector has handed over. -/
  links : Nat := 0
  /-- Every change of the state. -/
  transitions : List ConnectionState := []
  /-- Control and auth packets passed on. -/
  control : List Packet := []
  /-- Hosts and ports that were dialled. -/
  dialled : List (String × UInt16) := []
  /-- Messages that links took, with the link. -/
  written : List (Nat × Bytes) := []
  /-- Links that were closed, once for each time. -/
  closed : List Nat := []
  /-- How calls ended. -/
  outcomes : List (Nat × Outcome) := []

namespace Session

/-- A disconnected session. -/
def ofConfig (config : SessionConfig) (ring : KeyRing) (format : PcmFormat) : Session :=
  { config, ring, pipeline := .ofConfig config.pipeline format }

/-! ## Activities -/

def task? (s : Session) (t : Nat) : Option Task := s.tasks.lookup t

/-- A new activity. -/
def spawn (s : Session) (task : Task) : Session :=
  { s with tasks := s.tasks ++ [(s.spawned, task)], spawned := s.spawned + 1 }

/-- An activity waits for something else. -/
def put (s : Session) (t : Nat) (task : Task) : Session :=
  { s with tasks := s.tasks.map fun (u, old) => (u, if u = t then task else old) }

/-- An activity is over. -/
def erase (s : Session) (t : Nat) : Session := { s with tasks := s.tasks.filter (·.1 ≠ t) }

/-- A call ends, and with it its activity. -/
def answer (s : Session) (t call : Nat) (o : Outcome) : Session :=
  { s.erase t with outcomes := s.outcomes ++ [(call, o)] }

/-- A disconnect is under way, and neither connect nor disconnect may begin. -/
def isLeaving (s : Session) : Bool :=
  s.tasks.any fun (_, task) => match task with
    | .join .. => true
    | _ => false

/-- A packet is being written, and no other may be. -/
def isWriting (s : Session) : Bool :=
  s.tasks.any fun (_, task) => match task with
    | .write .. => true
    | _ => false

/-- The receive loop of a link has not ended. -/
def isListening (s : Session) (link : Nat) : Bool :=
  s.tasks.any fun (_, task) => match task with
    | .listen l _ => l.number = link
    | _ => false

/-- The receive loop of a link is told to end. -/
def cancel (s : Session) (link : Nat) : Session :=
  { s with tasks := s.tasks.map fun (t, task) => (t, match task with
    | .listen l cancelled => .listen l (cancelled || l.number = link)
    | task => task) }

/-! ## States -/

/-- The state changes, if the generation is still current and the present state is one of those. -/
def transition (s : Session) (generation : Nat) (allowed : ConnectionState → Bool)
    (next : ConnectionState) : Session :=
  if s.generation = generation ∧ allowed s.state ∧ s.state ≠ next then
    { s with state := next, transitions := s.transitions ++ [next] }
  else s

/-- An attempt has failed. -/
def failAttempt (s : Session) (generation : Nat) (reason : String) : Session :=
  s.transition generation (·.isAttempting) (.error reason)

/-- Everything before the present generation is superseded. -/
def supersede (s : Session) : Session := { s with generation := s.generation + 1, link := none }

/-- A link that has left the session: its receive loop ends and it is closed, some time. -/
def abandon (s : Session) (link : Nat) : Session := (s.cancel link).spawn (.close link)

end Session
end DeskStream
