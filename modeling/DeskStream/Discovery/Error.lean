/-!
# Failures of discovery
-/

namespace DeskStream

/-- Why discovery failed. -/
inductive DiscoveryError where
  | mdns (reason : String)
  | invalidPeer (reason : String)
  | io (reason : String)
  | other (reason : String)
  deriving Repr, DecidableEq

/-- The text of a failure. -/
def DiscoveryError.message : DiscoveryError → String
  | mdns reason => s!"mDNS error: {reason}"
  | invalidPeer reason => s!"invalid peer: {reason}"
  | io reason => s!"io error: {reason}"
  | other reason => s!"discovery error: {reason}"

end DeskStream
