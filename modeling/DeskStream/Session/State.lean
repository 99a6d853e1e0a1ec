/-!
# Where a session stands
-/

namespace DeskStream

/-- The stages of a connection. A streaming session is a connected one that has received media. -/
inductive ConnectionState where
  | disconnected
  | connecting
  | connected
  | streaming
  | reconnecting
  | error (reason : String)
  deriving Repr, DecidableEq, Inhabited

namespace ConnectionState

/-- The status line. -/
def text : ConnectionState → String
  | disconnected => "disconnected"
  | connecting => "connecting"
  | connected => "connected"
  | streaming => "streaming"
  | reconnecting => "reconnecting"
  | error reason => s!"error: {reason}"

/-- A link is up. -/
def isConnected : ConnectionState → Bool
  | connected | streaming => true
  | _ => false

/-- Connecting may start from here. -/
def canConnect : ConnectionState → Bool
  | disconnected | error _ => true
  | _ => false

def isError : ConnectionState → Bool
  | error _ => true
  | _ => false

/-- A connection is being attempted or about to be. -/
def isAttempting : ConnectionState → Bool
  | connecting | reconnecting => true
  | _ => false

end ConnectionState
end DeskStream
