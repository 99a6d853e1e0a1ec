import DeskStream.Security.Error
import DeskStream.Session.State
import DeskStream.Transport.Error
import DeskStream.Wire.DecodeError
/-!
# Why a call on a session fails
-/

namespace DeskStream

/-- Why a call on a session fails. -/
inductive ClientError where
  | connectionFailed (why : TransportError)
  | notConnected
  /-- Another attempt or a live connection owns the session. -/
  | connectRejected (state : ConnectionState)
  /-- The session was disconnected while the connection was being opened. -/
  | cancelled
  | sendFailed (why : TransportError)
  | protocol (why : Wire.WireError)
  | crypto (why : CryptoError)
  | transport (why : TransportError)
  | decode (why : DecodeError)
  | config (text : String)
  | other (text : String)
  deriving Repr, DecidableEq

def ClientError.message : ClientError → String
  | .connectionFailed e => s!"connection failed: {e.message}"
  | .notConnected => "not connected"
  | .connectRejected state => s!"connect rejected while {state.text}"
  | .cancelled => "connect cancelled"
  | .sendFailed e => s!"send failed: {e.message}"
  | .protocol e => s!"protocol error: {e.message}"
  | .crypto e => s!"crypto error: {e.message}"
  | .transport e => s!"transport error: {e.message}"
  | .decode e => s!"decode error: {e.message}"
  | .config text => s!"configuration error: {text}"
  | .other text => s!"client error: {text}"

end DeskStream
