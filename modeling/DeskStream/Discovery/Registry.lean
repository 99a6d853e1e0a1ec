import DeskStream.Discovery.Peer
/-!
# The hosts that can be reached now

Advertised hosts are added or refreshed as they are sighted, and evicted once they have not been
sighted for longer than the stale timeout. Hosts entered by the user stay until they are removed.
Every change publishes all entries anew, sorted by name; a list once published never changes.
Times are in nanoseconds.
-/

namespace DeskStream

/-- A reachable host and when it was seen last. -/
structure Registry.Entry where
  peer : Peer
  lastSeen : Nat
  deriving Repr, DecidableEq

/-- Order by name, then by id. -/
def Registry.Entry.le (a b : Registry.Entry) : Bool :=
  decide (a.peer.name < b.peer.name)
    || (a.peer.name == b.peer.name && !decide (b.peer.id < a.peer.id))

/-- What a sighting did. -/
inductive Upsert where
  | added
  | refreshed
  deriving Repr, DecidableEq

/-- The hosts that can be reached now. -/
structure Registry where
  /-- How long an advertised host is kept without being sighted. -/
  staleTimeout : Nat := 60000000000
  /-- Entries by id, in the order in which the ids were first seen. -/
  entries : List (String × Registry.Entry) := []
  /-- All entries as readers get them. -/
  snapshot : List Registry.Entry := []
  /-- The list that watchers were told last. -/
  watched : List Registry.Entry := []
  /-- Every list published, oldest first; the first is empty. A reader keeps the one it got. -/
  published : List (List Registry.Entry) := [[]]
  deriving Repr

namespace Registry

/-- The entry under an id. -/
def find? (r : Registry) (id : String) : Option Entry := r.entries.lookup id

def get? (r : Registry) (id : String) : Option Peer := (r.find? id).map Entry.peer

def size (r : Registry) : Nat := r.entries.length

def isEmpty (r : Registry) : Bool := r.entries.isEmpty

/-- The peers as readers get them. -/
def peers (r : Registry) : List Peer := r.snapshot.map Entry.peer

/-- Publish the entries, sorted. -/
def publish (r : Registry) : Registry :=
  let sorted := (r.entries.map (·.2)).mergeSort Entry.le
  { r with snapshot := sorted, watched := sorted, published := r.published ++ [sorted] }

/-- Put an entry in the place of the one under an id, or after all others. -/
def put (entries : List (String × Entry)) (id : String) (e : Entry) : List (String × Entry) :=
  if entries.any (·.1 == id) then entries.map fun old => if old.1 == id then (id, e) else old
  else entries ++ [(id, e)]

/-- Record a sighting. A host entered by the user keeps that mark. -/
def upsert (r : Registry) (s : Sighting) (now : Nat) : Registry × Upsert :=
  match r.find? s.peerId with
  | some old =>
    let peer := { s.toPeer with isManual := old.peer.isManual }
    ({ r with entries := put r.entries s.peerId ⟨peer, now⟩ }.publish, .refreshed)
  | none => ({ r with entries := put r.entries s.peerId ⟨s.toPeer, now⟩ }.publish, .added)

/-- Enter a host; entered again under another name, it is renamed. -/
def addManual (r : Registry) (name hostname : String) (port : UInt16) (now : Nat) :
    Registry × Peer :=
  let peer := Peer.manual name hostname port
  ({ r with entries := put r.entries peer.id ⟨peer, now⟩ }.publish, peer)

/-- Remove a host, whoever entered it. -/
def remove (r : Registry) (id : String) : Registry × Option Peer :=
  match r.find? id with
  | some e => ({ r with entries := r.entries.filter (·.1 != id) }.publish, some e.peer)
  | none => (r, none)

/-- An advertised host that was not sighted for longer than the timeout. -/
def isStale (r : Registry) (now : Nat) (e : Entry) : Bool :=
  !e.peer.isManual && decide (r.staleTimeout < now - e.lastSeen)

/-- Evict the stale hosts; only if there are any is the list published. -/
def evictStale (r : Registry) (now : Nat) : Registry × List Peer :=
  let (stale, kept) := r.entries.partition (r.isStale now ·.2)
  (if stale.isEmpty then r else { r with entries := kept }.publish, stale.map (·.2.peer))

end Registry
end DeskStream
