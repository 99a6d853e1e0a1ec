import DeskStream.Discovery.Peer
import DeskStream.Text.Json
/-!
# Peers as JSON

A peer is an object of six fields. The addresses may be missing, and unknown fields are passed over.
-/

namespace DeskStream.Peer

def jsonFields : List String := ["id", "name", "hostname", "port", "addresses", "is_manual"]

/-- The peer that a value describes. -/
def ofJson? (v : JsonValue) : Option Peer := do
  let field ← v.record? jsonFields
  let id ← field "id" >>= JsonValue.text?
  let name ← field "name" >>= JsonValue.text?
  let hostname ← field "hostname" >>= JsonValue.text?
  let port ← field "port" >>= JsonValue.natural?
  let isManual ← field "is_manual" >>= JsonValue.boolean?
  let addresses ← match field "addresses" with
    | none => some []
    | some a => do (← a.array?).mapM fun t => t.text? >>= IpAddress.ofText?
  if port < Nat.pow 2 16 then
    return { id, name, hostname, port := .ofNat port, addresses, isManual }
  else none

/-- The peer that a text describes. -/
def ofJsonText? (s : String) : Option Peer := JsonValue.ofText? s >>= ofJson?

/-- The text of a peer, its fields in order. -/
def toJsonText (p : Peer) : String := JsonValue.writeObject [
  ("id", JsonValue.quoted p.id),
  ("name", JsonValue.quoted p.name),
  ("hostname", JsonValue.quoted p.hostname),
  ("port", toString p.port.toNat),
  ("addresses", JsonValue.writeArray (p.addresses.map fun a => JsonValue.quoted a.text)),
  ("is_manual", toString p.isManual)]

end DeskStream.Peer
