import DeskStream.Session.Connect
/-!
# Receiving

A message is opened, read as a packet, measured and passed on. None is fatal: one that cannot be
used is dropped and counted.
-/

namespace DeskStream.Session

open Wire

def dropProtocol (s : Session) : Session :=
  { s with stats := { s.stats with protocolDrops := s.stats.protocolDrops + 1 } }

def dropCrypto (s : Session) : Session :=
  { s with stats := { s.stats with cryptoDrops := s.stats.cryptoDrops + 1 } }

/-- The plain text of a message. -/
def plaintext (s : Session) (message : Bytes) : Except CryptoError Bytes :=
  if s.config.encrypt then s.ring.decrypt message else .ok message

/-- Media goes to the pipeline, and the session is streaming once its header could be read. -/
def media (s : Session) (generation : Nat) (p : Packet) : Session :=
  let (pipeline, r) := s.pipeline.submit p
  let s := { s with pipeline }
  match r with
  | .error (.invalidPayload _) => s.dropProtocol
  | _ => s.transition generation (· = .connected) .streaming

/-- A packet is measured and passed on by its kind. -/
def packet (s : Session) (m : Moment) (generation : Nat) (p : Packet) : Session :=
  let s := { s with metrics := s.metrics.record p m.wall m.mono }
  match p.kind with
  | .video | .audio => s.media generation p
  | .keepAlive => s.spawn (.send .echo .keepAlive p.payload)
  | .control | .auth =>
    { s with
      stats := { s.stats with controlPackets := s.stats.controlPackets + 1 }
      control := s.control ++ [p] }
  | .input => s

/-- A message received on a link of a generation. -/
def receive (s : Session) (m : Moment) (generation : Nat) (message : Bytes) : Session :=
  match s.plaintext message with
  | .error _ => s.dropCrypto
  | .ok plain =>
    match Packet.decode plain with
    | .error _ => s.dropProtocol
    | .ok p => s.packet m generation p

/-- The link of a receive loop has failed or ended. -/
def linkEnded (s : Session) (t generation : Nat) (reason : String) : Session :=
  (s.erase t).lose generation reason .io

end DeskStream.Session
