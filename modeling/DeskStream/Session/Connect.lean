import DeskStream.Session.Basic
/-!
# Connecting, losing a link, and disconnecting

    disconnected ──▶ connecting ──▶ connected ──▶ streaming
         ▲               │              └──────┬──────┘
         │               ▼                     ▼
         └──────────── error ◀────────── reconnecting ──▶ connected

A reconnect is tried once, after an interval. Disconnecting is possible from every state.
-/

namespace DeskStream.Session

open Wire

/-! ## Attempts -/

/-- The activity calls the connector, unless keys are needed and none are held. -/
def dial (s : Session) (t : Nat) (call : Option Nat) (generation : Nat) (peer : Peer) : Session :=
  if s.config.encrypt && !s.ring.isAuthenticated then
    let s := s.failAttempt generation CryptoError.notAuthenticated.message
    match call with
    | none => s.erase t
    | some call => s.answer t call (.failed (.crypto .notAuthenticated))
  else
    { s.put t (.dial call generation peer) with
      dialled := s.dialled ++ [(peer.connectHost, peer.port)] }

/-- A connect call that has its turn is accepted when nothing is connected: counts, numbers and
metrics begin anew, and the connector is called. -/
def connect (s : Session) (t call : Nat) (peer : Peer) : Session :=
  if s.state.canConnect then
    let stale := s.link
    let s := (s.transition s.generation (·.canConnect) .connecting).supersede
    let s := match stale with
      | none => s
      | some l => s.abandon l.number
    let s := { s with
      metrics := s.metrics.reset, stats := {}, sequence := 1, failures := 0, peer := some peer }
    s.dial t (some call) s.generation peer
  else s.answer t call (.failed (.connectRejected s.state))

/-- The connector has handed over a link for the current generation: it is installed with a receive
loop of its own, and the token is sent if there is one to send. -/
def install (s : Session) (t : Nat) (call : Option Nat) (link : Link) : Session :=
  let s := ({ s with link := some link }.spawn (.listen link false)).transition link.generation
    (·.isAttempting) .connected
  match s.config.sendAuthToken, s.ring.token? with
  | true, some token => s.put t (.send (.auth call) .auth token.text.toUTF8.toList)
  | _, _ =>
    match call with
    | none => s.erase t
    | some call => s.answer t call (.connected s.state)

/-- The connector call of an activity completes. A link that comes too late is closed. -/
def dialDone (s : Session) (t : Nat) (call : Option Nat) (generation : Nat)
    (result : Except TransportError Unit) : Session :=
  match result with
  | .error e =>
    let s := s.failAttempt generation e.message
    match call with
    | none => s.erase t
    | some call => s.answer t call (.failed (.connectionFailed e))
  | .ok () =>
    let number := s.links
    let s := { s with links := number + 1, metrics := s.metrics.newLink }
    if s.generation = generation then s.install t call ⟨number, generation⟩
    else
      let s := { s with closed := s.closed ++ [number] }
      match call with
      | none => s.erase t
      | some call => s.answer t call (.failed .cancelled)

/-! ## Loss of a link -/

/-- How a link was found to be lost. -/
inductive Loss where
  | io
  | sendFailures
  deriving Repr, DecidableEq

/-- The link of a generation is lost: it leaves the session, and a reconnect is due or the session
has failed. A link that is no longer installed is not lost again. -/
def lose (s : Session) (generation : Nat) (reason : String) (loss : Loss) : Session :=
  match s.link with
  | none => s
  | some l =>
    if l.generation = generation then
      let s := s.supersede.abandon l.number
      let any := fun _ => true
      let s := match loss with
        | .io => s.transition s.generation any (.error reason)
        | .sendFailures => s
      if s.config.autoReconnect then
        (s.transition s.generation any .reconnecting).spawn (.timer s.generation)
      else s.transition s.generation any (.error reason)
    else s

/-- The reconnect interval of an activity has passed. -/
def intervalOver (s : Session) (t generation : Nat) : Session :=
  if s.generation = generation then
    match s.peer with
    | none => s.erase t
    | some peer =>
      { s with stats := { s.stats with reconnectAttempts := s.stats.reconnectAttempts + 1 } }.dial
        t none generation peer
  else s.erase t

/-! ## Disconnecting -/

/-- Decoder and keys are released, and the session is disconnected. -/
def release (s : Session) : Session :=
  { s with pipeline := s.pipeline.reset, ring := s.ring.logout }.transition s.generation
    (fun _ => true) .disconnected

/-- A disconnect call that has its turn. With a link it waits for the receive loop to end. -/
def disconnect (s : Session) (t call : Nat) : Session :=
  let link := s.link
  let s := s.supersede
  match link with
  | some l => { (s.cancel l.number).put t (.join call l.number) with closed := s.closed ++ [l.number] }
  | none =>
    if s.state = .disconnected then s.answer t call .disconnected
    else s.release.answer t call .disconnected

/-- The receive loop has ended. -/
def joined (s : Session) (t call : Nat) : Session := s.release.answer t call .disconnected

/-- The user lets go of the session. -/
def letGo (s : Session) : Session :=
  match s.link with
  | none => s.supersede
  | some l => s.supersede.cancel l.number

/-- Nobody holds the session any more: its decode worker ends. -/
def free (s : Session) : Session :=
  { s with pipeline := { s.pipeline with video := s.pipeline.video.reset } }

end DeskStream.Session
