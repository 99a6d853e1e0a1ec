import DeskStream.Discovery.Address
import DeskStream.Text.Dots
/-!
# Hosts that can be connected to

A peer is known by an id: from its advertisement, or from the address a user entered.
-/

namespace DeskStream

/-- The port of a host that advertises none. -/
def defaultPort : UInt16 := 8000

/-- The service type that hosts advertise. -/
def defaultServiceType : String := "_rootstream._tcp.local."

/-- A reachable host. -/
structure Peer where
  id : String
  name : String
  hostname : String
  port : UInt16
  addresses : List IpAddress := []
  /-- Entered by the user, and so never evicted. -/
  isManual : Bool := false
  deriving Repr, DecidableEq

namespace Peer

/-- The id of a host entered by the user. -/
def manualId (hostname : String) (port : UInt16) : String := s!"manual:{hostname}:{port.toNat}"

/-- The id of an advertised service instance. -/
def compositeId (inst serviceType domain : String) : String :=
  s!"{inst}.{Text.trimDots serviceType}.{Text.trimDots domain}"

/-- A host entered by the user. -/
def manual (name hostname : String) (port : UInt16) : Peer :=
  { id := manualId hostname port, name, hostname, port, isManual := true }

/-- The host to dial: the first version 4 address, else the first address, else the hostname. -/
def connectHost (p : Peer) : String :=
  match p.addresses.find? (·.isV4) <|> p.addresses.head? with
  | some a => a.text
  | none => p.hostname

/-- Host and port. -/
def address (p : Peer) : String := s!"{p.connectHost}:{p.port.toNat}"

end Peer

/-- One advertisement of a service instance. -/
structure Sighting where
  inst : String
  serviceType : String
  domain : String
  hostname : String
  port : UInt16
  /-- The name to show; the instance itself if the host sent none. -/
  name : Option String := none
  addresses : List IpAddress := []
  deriving Repr, DecidableEq

namespace Sighting

def peerId (s : Sighting) : String := Peer.compositeId s.inst s.serviceType s.domain

/-- The peer that an advertisement describes. -/
def toPeer (s : Sighting) : Peer :=
  { id := s.peerId, name := s.name.getD s.inst, hostname := s.hostname, port := s.port,
    addresses := s.addresses }

end Sighting
end DeskStream
