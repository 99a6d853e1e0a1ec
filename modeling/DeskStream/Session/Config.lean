import DeskStream.Pipeline
/-!
# Configuration of a session
-/

namespace DeskStream

/-- How a session behaves. Capacities of zero are raised to one where a queue is made. -/
structure SessionConfig where
  /-- Seal every message with the session key. -/
  encrypt : Bool := true
  /-- Reconnect once after the link is lost. -/
  autoReconnect : Bool := true
  /-- Milliseconds before a reconnect attempt. -/
  reconnectInterval : Nat := 1000
  /-- Send failures in a row that drop the link. -/
  sendFailureThreshold : Nat := 3
  /-- Decode failures in a row that recreate the decode session. -/
  decodeFailureThreshold : Nat := 3
  presentationQueueCapacity : Nat := 3
  decodeQueueCapacity : Nat := 8
  /-- Control packets kept for a subscriber. -/
  controlChannelSize : Nat := 64
  /-- Send the session token after connecting. -/
  sendAuthToken : Bool := true
  /-- Volume to start with. -/
  volume : Float32 := 1
  deriving BEq

namespace SessionConfig

def pipeline (c : SessionConfig) : PipelineConfig where
  decodeQueueCapacity := c.decodeQueueCapacity
  presentationQueueCapacity := c.presentationQueueCapacity
  failureThreshold := c.decodeFailureThreshold
  volume := c.volume

/-- Send failures in a row that drop the link, at least one. -/
def sendThreshold (c : SessionConfig) : Nat := max c.sendFailureThreshold 1

/-- Capacity of the channels for control packets and transitions. -/
def channelCapacity (c : SessionConfig) : Nat := max c.controlChannelSize 1

end SessionConfig
end DeskStream
