/-!
# Configuration of a TCP transport
-/

namespace DeskStream

/-- How messages travel over TCP. -/
structure TcpConfig where
  /-- Octets that a message may have. -/
  maxMessageSize : Nat := 16 * 1024 * 1024
  /-- Octets read at a time to begin with. -/
  readBufferSize : Nat := 64 * 1024
  /-- Seconds between keep-alive probes, none if zero. -/
  keepaliveSecs : Nat := 30
  /-- Send small messages at once. -/
  nodelay : Bool := true
  /-- Milliseconds that connecting may take, without limit if zero. -/
  connectTimeout : Nat := 5000
  /-- Messages that may wait in each direction. -/
  channelBufferSize : Nat := 256
  deriving Repr, DecidableEq

end DeskStream
