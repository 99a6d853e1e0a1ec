/-!
# Why a transport fails
-/

namespace DeskStream

/-- Why a connection is not opened, or a message not sent. -/
inductive TransportError where
  | connectionFailed (text : String)
  | connectionClosed
  | sendFailed (text : String)
  | bindFailed (text : String)
  | acceptFailed (text : String)
  | messageTooLarge (length limit : Nat)
  | bufferFull
  | timeout
  | io (text : String)
  | notConnected
  | other (text : String)
  deriving Repr, DecidableEq

namespace TransportError

def message : TransportError → String
  | connectionFailed t => s!"connection failed: {t}"
  | connectionClosed => "connection closed"
  | sendFailed t => s!"send failed: {t}"
  | bindFailed t => s!"bind failed: {t}"
  | acceptFailed t => s!"accept failed: {t}"
  | messageTooLarge n m => s!"message too large: {n} > {m}"
  | bufferFull => "send buffer full"
  | timeout => "timeout"
  | io t => s!"io error: {t}"
  | notConnected => "not connected"
  | other t => s!"transport error: {t}"

/-- The link is gone, as opposed to a single message failing. -/
def isLinkFailure : TransportError → Bool
  | bufferFull | messageTooLarge .. => false
  | _ => true

end TransportError
end DeskStream
