import DeskStream.Cli.Invocation
import DeskStream.Discovery.Service
/-!
# A list of advertised services

Services can be listed as text, and are then found as though the local network had advertised them.
A line is one service:

    instance and service type | hostname | port | addresses between commas | name to show

The name may be left out. A line that is no service is passed over.
-/

namespace DeskStream.Cli.Advertised

/-- A service from the fields of a line. -/
def service? : List String → Option ResolvedService
  | fullname :: hostname :: port :: addresses :: name => do
    return {
      fullname, hostname
      port := ← port? port
      addresses := (addresses.splitOn ",").filterMap IpAddress.ofText?
      properties := (name.take 1).map fun n => ⟨"name", some n.toUTF8.toList⟩ }
  | _ => none

/-- The services that a text lists. -/
def services (s : String) : List ResolvedService :=
  (s.splitOn "\n").filterMap fun line => service? (line.splitOn "|")

/-- The service hears of one more service, and its consumer takes note. -/
def hear (d : DiscoveryService) (clock : Nat) (s : ResolvedService) : DiscoveryService :=
  (d.hear (some (.resolved s))).1.consume clock

/-- A discovery service that has been started and has heard of all services. -/
def listen (c : DiscoveryConfig) (services : List ResolvedService) (now clock : Nat) :
    DiscoveryService :=
  services.foldl (hear · clock) (((DiscoveryService.ofConfig c).start {} now).reconcile now clock)

/-- The host that shows a name. -/
def find? (d : DiscoveryService) (name : String) : Option Peer := d.peers.find? (·.name == name)

end DeskStream.Cli.Advertised
