import DeskStream.Discovery.Service
/-!
# A discovery service on a virtual clock

After every operation the consumer runs until its queue is empty. Intervals pass on the virtual
clock, a tenth of a second at a time. The clock that ages hosts only ever moves a nanosecond for
each operation, so that with a stale timeout of zero every host is stale at the next pass, and with
a timeout of a second or more none ever is.
-/

namespace DeskStream.Rehearsal

/-- A discovery service with what surrounds it. -/
structure Neighbourhood where
  service : DiscoveryService
  daemon : Daemon := {}
  /-- Milliseconds passed. -/
  now : Nat := 0
  /-- Nanoseconds by which hosts have aged. -/
  clock : Nat := 0
  /-- Someone outside holds on to the sending end of the queue. -/
  sender : Bool := true

namespace Neighbourhood

/-- The consumer takes at most `n` events. -/
def consumeAtMost : Nat → Neighbourhood → Neighbourhood
  | 0, n => n
  | k + 1, n =>
    consumeAtMost k { n with service := n.service.consume n.clock, clock := n.clock + 1 }

/-- The consumer runs until it waits: a pass that is due, then the queue. -/
def settle (n : Neighbourhood) : Neighbourhood :=
  let clock := n.clock + 1
  let n := { n with service := n.service.reconcile n.now clock, clock }
  consumeAtMost n.service.queue.length n

def start (n : Neighbourhood) : Neighbourhood :=
  { n with service := n.service.start n.daemon n.now }.settle

def stop (n : Neighbourhood) : Neighbourhood := { n with service := n.service.stop }.settle

/-- Send an event from outside. -/
def send (n : Neighbourhood) (e : DiscoveryEvent) : Neighbourhood × Option SendRefusal :=
  if !n.sender then (n, some .closed)
  else match n.service.send e with
    | .ok service => ({ n with service }.settle, none)
    | .error refusal => (n, some refusal)

/-- The daemon reports. -/
def hear (n : Neighbourhood) (e : Option BrowseEvent) : Neighbourhood × Bool :=
  let (service, listened) := n.service.hear e
  ({ n with service }.settle, listened)

def addManual (n : Neighbourhood) (name hostname : String) (port : UInt16) :
    Neighbourhood × Peer :=
  let (service, peer) := n.service.addManual name hostname port n.clock
  ({ n with service }.settle, peer)

/-- Milliseconds that pass at a time. -/
def tick : Nat := 100

/-- The clock moves on by a number of milliseconds. -/
def advance (ms : Nat) (n : Neighbourhood) : Neighbourhood :=
  if h : ms = 0 then n
  else
    let part := min ms tick
    have : ms - part < ms := by have : tick = 100 := rfl; omega
    advance (ms - part) { n with now := n.now + part }.settle
termination_by ms

end Neighbourhood
end DeskStream.Rehearsal
