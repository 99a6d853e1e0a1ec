/-!
# Why sealing, opening or signing in fails
-/

namespace DeskStream

/-- Why credentials are rejected. -/
inductive Rejection where
  | unknownUser (name : String)
  | wrongPassword
  | noBackend
  deriving Repr, DecidableEq

/-- Why a message is not sealed or opened, or a user not signed in. -/
inductive CryptoError where
  | shortMessage (length : Nat)
  | tagMismatch
  | notAuthenticated
  | rejected (why : Rejection)
  | encryptionFailed
  deriving Repr, DecidableEq

def Rejection.message : Rejection → String
  | .unknownUser name => s!"unknown user: {name}"
  | .wrongPassword => "invalid password"
  | .noBackend => "no authentication backend"

def CryptoError.message : CryptoError → String
  | .shortMessage n => s!"sealed message too short: {n} bytes (minimum 28)"
  | .tagMismatch => "authentication tag mismatch"
  | .notAuthenticated => "no session key (not authenticated)"
  | .rejected why => s!"authentication failed: {why.message}"
  | .encryptionFailed => "encryption failed"

/-- The message is at fault and the keys stay usable. -/
def CryptoError.isPerMessage : CryptoError → Bool
  | .shortMessage _ | .tagMismatch => true
  | _ => false

end DeskStream
