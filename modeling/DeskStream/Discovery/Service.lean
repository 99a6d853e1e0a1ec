import DeskStream.Discovery.Browse
import DeskStream.Discovery.Registry
/-!
# The discovery service

Events from browsing and from elsewhere wait in one queue. A single consumer applies them to the
registry in order and evicts stale hosts at regular intervals. It is started once: when it has been
stopped the queue is closed for good, and the registry keeps its hosts.

The passing of time and the ages of hosts are told by two clocks: intervals are in milliseconds of
the one, ages in nanoseconds of the other.
-/

namespace DeskStream

/-- How hosts are discovered. -/
structure DiscoveryConfig where
  /-- Browse the local network. -/
  mdns : Bool := true
  /-- The service type to browse for. -/
  serviceType : String := defaultServiceType
  /-- Seconds that an advertised host is kept without being sighted. -/
  staleTimeoutSecs : Nat := 60
  /-- Seconds between two passes for stale hosts. -/
  reconcileIntervalSecs : Nat := 5
  /-- Events that may wait. -/
  channelSize : Nat := 100
  deriving Repr, DecidableEq

namespace DiscoveryConfig

/-- The stale timeout in milliseconds. -/
def staleTimeout (c : DiscoveryConfig) : Nat := 1000 * c.staleTimeoutSecs

/-- Milliseconds between two passes, at least a second. -/
def reconcileInterval (c : DiscoveryConfig) : Nat := 1000 * max c.reconcileIntervalSecs 1

/-- Events that may wait, at least one. -/
def channelCapacity (c : DiscoveryConfig) : Nat := max c.channelSize 1

end DiscoveryConfig

/-- What the consumer is doing. -/
inductive Consumer where
  | unstarted
  /-- It takes events; the next pass for stale hosts is due at a time. -/
  | running (due : Nat)
  | ended
  deriving Repr, DecidableEq

/-- Why an event was not queued. -/
inductive SendRefusal where
  | full
  | closed
  deriving Repr, DecidableEq

/-- The discovery service. -/
structure DiscoveryService where
  config : DiscoveryConfig
  registry : Registry
  queue : List DiscoveryEvent := []
  consumer : Consumer := .unstarted
  browser : Option Browser := none

namespace DiscoveryService

def ofConfig (config : DiscoveryConfig) : DiscoveryService :=
  { config, registry := { staleTimeout := 1000000 * config.staleTimeout } }

def peers (s : DiscoveryService) : List Peer := s.registry.peers

/-- Start the consumer and, if so configured, browsing; that browsing fails is not fatal. -/
def start (s : DiscoveryService) (d : Daemon) (now : Nat) : DiscoveryService :=
  if s.consumer ≠ .unstarted then s
  else
    { s with
      consumer := .running now
      browser := if s.config.mdns then (Browser.start d s.config.serviceType).toOption else none }

/-- Stop browsing and the consumer. -/
def stop (s : DiscoveryService) : DiscoveryService :=
  match s.consumer with
  | .running _ => { s with consumer := .ended, queue := [], browser := none }
  | _ => { s with browser := none }

/-- Queue an event for the consumer. -/
def send (s : DiscoveryService) (e : DiscoveryEvent) : Except SendRefusal DiscoveryService :=
  if s.consumer = .ended then .error .closed
  else if s.config.channelCapacity ≤ s.queue.length then .error .full
  else .ok { s with queue := s.queue ++ [e] }

/-- What an event does to the registry. -/
def apply (r : Registry) (clock : Nat) : DiscoveryEvent → Registry
  | .sighted s => (r.upsert s clock).1
  | .removed id => (r.remove id).1
  | .failed _ => r

/-- The consumer takes the oldest event, if there is one. -/
def consume (s : DiscoveryService) (clock : Nat) : DiscoveryService :=
  match s.consumer, s.queue with
  | .running _, e :: queue => { s with queue, registry := apply s.registry clock e }
  | _, _ => s

/-- A pass that comes this late or less keeps to its timetable. -/
def tolerance : Nat := 5

/-- When the pass after one that was due comes: an interval later, counted from when it was due, or
from now when it came too late for that. -/
def nextPass (due now interval : Nat) : Nat :=
  if due + tolerance < now then now + interval else due + interval

/-- The pass for stale hosts, if it is due. -/
def reconcile (s : DiscoveryService) (now clock : Nat) : DiscoveryService :=
  match s.consumer with
  | .running due =>
    if due ≤ now then
      { s with
        consumer := .running (nextPass due now s.config.reconcileInterval)
        registry := (s.registry.evictStale clock).1 }
    else s
  | _ => s

/-- The browse takes a report and queues what it tells; the answer says whether it still listened.
Browsing has a thread of its own, which waits while the queue is full. Here what it tells is queued at
once, also past the capacity of the queue; its events keep their order, and nobody else may send until
there is room again. -/
def hear (s : DiscoveryService) (e : Option BrowseEvent) : DiscoveryService × Bool :=
  match s.browser with
  | none => (s, false)
  | some b =>
    let (browse, told) := b.browse.hear (s.consumer ≠ .ended) e
    ({ s with browser := some { b with browse }, queue := s.queue ++ told.toList },
      b.browse.listening)

def addManual (s : DiscoveryService) (name hostname : String) (port : UInt16) (clock : Nat) :
    DiscoveryService × Peer :=
  let (registry, peer) := s.registry.addManual name hostname port clock
  ({ s with registry }, peer)

end DiscoveryService
end DeskStream
