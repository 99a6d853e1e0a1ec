import DeskStream.Discovery.Service
import DeskStream.Settings.Session
import DeskStream.Text.Utf8
import DeskStream.Transport.Config
/-!
# The configuration file

One file configures a client: tables for the session, the transport, discovery and signing in, each
with defaults for all that it leaves out.
-/

namespace DeskStream

def TcpConfig.tomlKeys : List String :=
  ["max_message_size", "read_buffer_size", "keepalive_secs", "nodelay", "connect_timeout_ms",
   "channel_buffer_size"]

/-- The configuration that a table describes. -/
def TcpConfig.ofToml? (v : TomlValue) : Option TcpConfig := do
  let field ← v.record? tomlKeys
  let d : TcpConfig := {}
  let number (key : String) := TomlValue.fieldOr (field key) (TomlValue.natural? wordLimit)
  return {
    maxMessageSize := ← number "max_message_size" d.maxMessageSize
    readBufferSize := ← number "read_buffer_size" d.readBufferSize
    keepaliveSecs := ← number "keepalive_secs" d.keepaliveSecs
    nodelay := ← TomlValue.fieldOr (field "nodelay") TomlValue.boolean? d.nodelay
    connectTimeout := ← number "connect_timeout_ms" d.connectTimeout
    channelBufferSize := ← number "channel_buffer_size" d.channelBufferSize }

def DiscoveryConfig.tomlKeys : List String :=
  ["mdns", "service_type", "stale_timeout_secs", "reconcile_interval_secs", "channel_size"]

/-- The configuration that a table describes. -/
def DiscoveryConfig.ofToml? (v : TomlValue) : Option DiscoveryConfig := do
  let field ← v.record? tomlKeys
  let d : DiscoveryConfig := {}
  let number (key : String) := TomlValue.fieldOr (field key) (TomlValue.natural? wordLimit)
  return {
    mdns := ← TomlValue.fieldOr (field "mdns") TomlValue.boolean? d.mdns
    serviceType := ← TomlValue.fieldOr (field "service_type") TomlValue.text? d.serviceType
    staleTimeoutSecs := ← number "stale_timeout_secs" d.staleTimeoutSecs
    reconcileIntervalSecs := ← number "reconcile_interval_secs" d.reconcileIntervalSecs
    channelSize := ← number "channel_size" d.channelSize }

/-- How to sign in, as far as it is settled. -/
structure AuthConfig where
  username : Option String := none
  password : Option String := none
  /-- The key shared with the host, in hexadecimal. -/
  sharedKey : Option String := none
  deriving Repr, DecidableEq

def AuthConfig.tomlKeys : List String := ["username", "password", "shared_key"]

/-- The configuration that a table describes. -/
def AuthConfig.ofToml? (v : TomlValue) : Option AuthConfig := do
  let field ← v.record? tomlKeys
  let text (key : String) :=
    TomlValue.fieldOr (field key) (fun v => (TomlValue.text? v).map some) none
  return {
    username := ← text "username", password := ← text "password"
    sharedKey := ← text "shared_key" }

/-- All that configures a client. -/
structure ClientConfig where
  session : SessionConfig := {}
  transport : TcpConfig := {}
  discovery : DiscoveryConfig := {}
  auth : AuthConfig := {}

/-- Why there is no configuration. -/
inductive ConfigError where
  /-- The file is not there, or it is no text. -/
  | unreadable
  /-- The text describes no configuration. -/
  | invalid
  deriving Repr, DecidableEq

namespace ClientConfig

def tomlKeys : List String := ["session", "transport", "discovery", "auth"]

/-- The configuration that a table of tables describes. -/
def ofToml? (v : TomlValue) : Option ClientConfig := do
  let field ← v.record? tomlKeys
  return {
    session := ← TomlValue.fieldOr (field "session") SessionConfig.ofToml? {}
    transport := ← TomlValue.fieldOr (field "transport") TcpConfig.ofToml? {}
    discovery := ← TomlValue.fieldOr (field "discovery") DiscoveryConfig.ofToml? {}
    auth := ← TomlValue.fieldOr (field "auth") AuthConfig.ofToml? {} }

/-- The configuration in the octets of a file, if the file is there. -/
def ofFile (contents : Option Bytes) : Except ConfigError ClientConfig :=
  match contents.bind Text.ofUtf8? with
  | none => .error .unreadable
  | some s =>
    match Toml.ofText? s >>= ofToml? with
    | none => .error .invalid
    | some c => .ok c

end ClientConfig
end DeskStream
