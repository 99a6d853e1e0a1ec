import DeskStream.Session.Config
import DeskStream.Toml.Document
/-!
# Session settings as text

A session is configured by a TOML table. What it leaves out takes its default, and keys that mean
nothing here are passed over.
-/

namespace DeskStream

/-- Integers of TOML end below this. -/
def tomlLimit : Nat := Toml.integerLimit

/-- Intervals and sizes end below this. -/
def wordLimit : Nat := Nat.pow 2 64

/-- Counts of failures end below this. -/
def countLimit : Nat := Nat.pow 2 32

namespace SessionConfig

/-- The keys in the order in which they are written. -/
def tomlKeys : List String :=
  ["encrypt", "auto_reconnect", "reconnect_interval_ms", "send_failure_threshold",
   "decode_failure_threshold", "presentation_queue_capacity", "decode_queue_capacity",
   "control_channel_size", "send_auth_token", "volume"]

/-- The configuration that a table describes. -/
def ofToml? (v : TomlValue) : Option SessionConfig := do
  let field ← v.record? tomlKeys
  let d : SessionConfig := {}
  let flag (key : String) := TomlValue.fieldOr (field key) TomlValue.boolean?
  let number (key : String) (limit : Nat) := TomlValue.fieldOr (field key) (TomlValue.natural? limit)
  return {
    encrypt := ← flag "encrypt" d.encrypt
    autoReconnect := ← flag "auto_reconnect" d.autoReconnect
    reconnectInterval := ← number "reconnect_interval_ms" wordLimit d.reconnectInterval
    sendFailureThreshold := ← number "send_failure_threshold" countLimit d.sendFailureThreshold
    decodeFailureThreshold := ← number "decode_failure_threshold" countLimit d.decodeFailureThreshold
    presentationQueueCapacity :=
      ← number "presentation_queue_capacity" wordLimit d.presentationQueueCapacity
    decodeQueueCapacity := ← number "decode_queue_capacity" wordLimit d.decodeQueueCapacity
    controlChannelSize := ← number "control_channel_size" wordLimit d.controlChannelSize
    sendAuthToken := ← flag "send_auth_token" d.sendAuthToken
    volume := ← TomlValue.fieldOr (field "volume") TomlValue.float32? d.volume }

/-- The configuration that a text describes. -/
def ofTomlText? (s : String) : Option SessionConfig := Toml.ofText? s >>= ofToml?

/-- A number as TOML writes it, if it is not too great. -/
def tomlNumber? (n : Nat) : Option String := if n < tomlLimit then some (toString n) else none

/-- The text of a configuration, a line for each key. The volume is written as a double. -/
def toTomlText? (c : SessionConfig) : Option String := do
  let values := [
    toString c.encrypt, toString c.autoReconnect, ← tomlNumber? c.reconnectInterval,
    ← tomlNumber? c.sendFailureThreshold, ← tomlNumber? c.decodeFailureThreshold,
    ← tomlNumber? c.presentationQueueCapacity, ← tomlNumber? c.decodeQueueCapacity,
    ← tomlNumber? c.controlChannelSize, toString c.sendAuthToken,
    Number.positional c.volume.toFloat]
  return String.join ((tomlKeys.zip values).map fun (k, v) => k ++ " = " ++ v ++ "\n")

end SessionConfig
end DeskStream
