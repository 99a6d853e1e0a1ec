import DeskStream.Discovery.Error
import DeskStream.Discovery.ServiceName
import DeskStream.Text.Utf8
/-!
# Browsing for services

A browse turns what the network daemon reports about a service type into sightings and removals, for
as long as somebody takes them. Both carry the same id for the same instance.
-/

namespace DeskStream

/-- What is told about hosts. -/
inductive DiscoveryEvent where
  | sighted (s : Sighting)
  /-- The host with this id withdrew. -/
  | removed (id : String)
  | failed (reason : String)
  deriving Repr, DecidableEq

/-- A property that a service carries. -/
structure ServiceProperty where
  key : String
  value : Option Bytes
  deriving Repr, DecidableEq

/-- A service as the daemon resolves it. -/
structure ResolvedService where
  fullname : String
  hostname : String
  port : UInt16
  /-- In no particular order, and each counts once. -/
  addresses : List IpAddress := []
  properties : List ServiceProperty := []
  deriving Repr, DecidableEq

namespace ResolvedService

/-- The name to show: the first property with the key `name` in either case, leniently read. -/
def name? (s : ResolvedService) : Option String :=
  (s.properties.find? (·.key.toLower == "name")).bind fun p => p.value.map Text.ofUtf8Lossy

/-- The sighting of a service: its addresses sorted, the usual port where it tells none. -/
def toSighting (s : ResolvedService) (serviceType : String) : Sighting :=
  let (service, domain) := ServiceName.split serviceType
  { inst := ServiceName.inst s.fullname serviceType, serviceType := service, domain
    hostname := Text.trimEndDots s.hostname
    port := if s.port = 0 then defaultPort else s.port
    name := s.name?
    addresses := (s.addresses.mergeSort IpAddress.le).eraseDups }

end ResolvedService

/-- What the daemon reports. -/
inductive BrowseEvent where
  | searchStarted
  | found (fullname : String)
  | resolved (s : ResolvedService)
  | removed (fullname : String)
  | searchStopped
  deriving Repr, DecidableEq

/-- What is told on of a report. -/
def BrowseEvent.told? (serviceType : String) : BrowseEvent → Option DiscoveryEvent
  | resolved s => some (.sighted (s.toSighting serviceType))
  | removed fullname => some (.removed (ServiceName.peerId fullname serviceType))
  | _ => none

/-- A browse: it listens to the daemon until the search stops or nobody takes what it tells. -/
structure Browse where
  serviceType : String
  listening : Bool := true
  deriving Repr, DecidableEq

namespace Browse

/-- Take a report, or nothing when a wait for one is over. `taken` says whether somebody takes what
is told; a browse that nobody listens to ends with its next wait. -/
def hear (b : Browse) (taken : Bool) (e : Option BrowseEvent) : Browse × Option DiscoveryEvent :=
  if !b.listening then (b, none)
  else ({ b with listening := taken && e != some .searchStopped },
    if taken then e.bind (·.told? b.serviceType) else none)

end Browse

/-- What the calls to the daemon lead to: the reason for which each fails, if it does. -/
structure Daemon where
  starting : Option String := none
  browsing : Option String := none
  stopping : Option String := none
  closing : Option String := none

/-- A browse together with the daemon that serves it. -/
structure Browser where
  browse : Browse
  stopped : Bool := false
  deriving Repr, DecidableEq

namespace Browser

/-- Start to browse for a service type. -/
def start (d : Daemon) (serviceType : String) : Except DiscoveryError Browser :=
  match d.starting <|> d.browsing with
  | some reason => .error (.mdns reason)
  | none => .ok { browse := { serviceType } }

/-- Stop and close the daemon; only that it cannot be closed is a failure, and only once. -/
def stop (b : Browser) (d : Daemon) : Browser × Except DiscoveryError Unit :=
  if b.stopped then (b, .ok ())
  else ({ b with browse := { b.browse with listening := false }, stopped := true },
    match d.closing with
    | some reason => .error (.mdns reason)
    | none => .ok ())

end Browser
end DeskStream
