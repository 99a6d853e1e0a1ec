import DeskStream.Session.Connect
/-!
# Sending

A packet is looked at, waits for its turn, and is numbered, sealed and written. One packet is
written at a time, so that the order on the wire is the order of the numbers.
-/

namespace DeskStream.Session

open Wire

/-- A packet is done with, and with it its activity. A token that could not be sent does not keep a
connection from being made. -/
def concludeSend (s : Session) (t : Nat) (origin : Origin) (r : Except ClientError UInt32) : Session :=
  match origin, r with
  | .call call, .ok n => s.answer t call (.sent n)
  | .call call, .error e => s.answer t call (.failed e)
  | .auth (some call), _ => s.answer t call (.connected s.state)
  | .auth none, _ => s.erase t
  | .echo, .ok _ =>
    { s.erase t with stats := { s.stats with keepalivesEchoed := s.stats.keepalivesEchoed + 1 } }
  | .echo, .error _ => s.erase t

/-- A packet is looked at: without a connection it is refused. -/
def beginSend (s : Session) (t : Nat) (origin : Origin) (kind : PacketKind) (payload : Bytes) :
    Session :=
  if s.state.isConnected then s.put t (.queued origin kind payload)
  else s.concludeSend t origin (.error .notConnected)

/-- The message of a packet: sealed, if the session is so configured. -/
def message (s : Session) (m : Moment) (p : Packet) : Except CryptoError Bytes :=
  if s.config.encrypt then s.ring.encrypt m.nonce p.encode else .ok p.encode

/-- A packet has its turn: it takes the next number and is handed to the link. A number is used up
also when sealing fails. -/
def beginWrite (s : Session) (m : Moment) (t : Nat) (origin : Origin) (kind : PacketKind)
    (payload : Bytes) : Session :=
  match s.link with
  | none => s.concludeSend t origin (.error .notConnected)
  | some link =>
    let sequence := s.sequence
    let s := { s with sequence := sequence + 1 }
    match s.message m ⟨kind, m.wall, sequence, payload⟩ with
    | .error e => s.concludeSend t origin (.error (.crypto e))
    | .ok message => s.put t (.write origin link sequence message)

/-- A send failed because the link did: at the threshold the link is dropped. -/
def countFailure (s : Session) (generation : Nat) : Session :=
  let failures := s.failures + 1
  if s.config.sendThreshold ≤ failures then
    { s with failures := 0 }.lose generation s!"{failures} consecutive send failures" .sendFailures
  else { s with failures }

/-- The link has taken a message or failed to. -/
def writeDone (s : Session) (t : Nat) (origin : Origin) (link : Link) (sequence : UInt32)
    (message : Bytes) (result : Except TransportError Unit) : Session :=
  match result with
  | .ok () =>
    { s with
      failures := 0
      stats := { s.stats with packetsSent := s.stats.packetsSent + 1 }
      written := s.written ++ [(link.number, message)] }.concludeSend t origin (.ok sequence)
  | .error e =>
    let s := { s with stats := { s.stats with sendFailures := s.stats.sendFailures + 1 } }
    if e.isLinkFailure then
      (s.countFailure link.generation).concludeSend t origin (.error (.sendFailed e))
    else s.concludeSend t origin (.error (.transport e))

end DeskStream.Session
