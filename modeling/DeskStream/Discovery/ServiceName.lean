import DeskStream.Discovery.Peer
/-!
# Names of advertised services

A full name is the name of an instance, its service type and a domain, with dots between them and
perhaps at the end: `Den PC._rootstream._tcp.local.`
-/

namespace DeskStream.ServiceName

/-- The service and the domain of a service type; without a dot the domain is the local one. -/
def split (serviceType : String) : String × String :=
  let trimmed := Text.trimEndDots serviceType
  (Text.splitLastDot trimmed).getD (trimmed, "local")

/-- The instance of a full name; a name of another service type is taken whole. -/
def inst (fullname serviceType : String) : String :=
  let fullname := Text.trimEndDots fullname
  match Text.dropSuffix? fullname (Text.trimEndDots serviceType) with
  | some front => Text.trimEndDots front
  | none => fullname

/-- The id of the peer that a full name belongs to. -/
def peerId (fullname serviceType : String) : String :=
  let (service, domain) := split serviceType
  Peer.compositeId (inst fullname serviceType) service domain

end DeskStream.ServiceName
