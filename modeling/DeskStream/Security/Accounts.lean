import DeskStream.Crypto.Sha256
import DeskStream.Security.Error
/-!
# Accounts

Who may sign in: names with the SHA-256 digests of their passwords, and the key that every signed-in
session shares with the host, if one is configured.
-/

namespace DeskStream

/-- A string of exactly `n` octets. -/
abbrev Octets (n : Nat) := { b : Bytes // b.length = n }

/-- A 256-bit symmetric key. -/
abbrev Key := Octets 32

/-- The SHA-256 digest of a password. -/
abbrev Digest := Octets 32

/-- Proof of a sign-in, opaque to the client. -/
structure Token where
  text : String
  deriving Repr, DecidableEq

/-- A name and a password. -/
structure Credentials where
  username : String
  password : String

/-- What an accepted sign-in hands back. -/
structure Grant where
  token : Token
  key : Option Key

/-- The digest of a password's UTF-8 octets. -/
def Digest.ofPassword (password : String) : Digest :=
  ⟨Sha256.digest password.toUTF8.toList, Sha256.length_digest _⟩

/-- Comparison that looks at every octet, whatever the outcome. -/
def sameDigest (a b : Bytes) : Bool := (Bytes.xor a b).foldl (· ||| ·) 0 == 0

/-- Registered users and the key they share with the host. -/
structure Accounts where
  users : List (String × Digest) := []
  sharedKey : Option Key := none

namespace Accounts

/-- The digest registered for a name. -/
def digest? (a : Accounts) (name : String) : Option Digest := a.users.lookup name

/-- A name is registered with a digest, in place of an earlier one. -/
def register (a : Accounts) (name : String) (d : Digest) : Accounts :=
  { a with users := (name, d) :: a.users.filter (·.1 != name) }

/-- A name is registered with a password. -/
def addUser (a : Accounts) (name password : String) : Accounts :=
  a.register name (.ofPassword password)

/-- A name is removed; the answer says whether it was there. -/
def revoke (a : Accounts) (name : String) : Accounts × Bool :=
  ({ a with users := a.users.filter (·.1 != name) }, (a.digest? name).isSome)

/-- Check credentials. `fresh` is the token of this sign-in, should it succeed. -/
def authenticate (a : Accounts) (c : Credentials) (fresh : Token) : Except CryptoError Grant :=
  match a.digest? c.username with
  | none => .error (.rejected (.unknownUser c.username))
  | some d =>
    if sameDigest d.val (Digest.ofPassword c.password).val then .ok ⟨fresh, a.sharedKey⟩
    else .error (.rejected .wrongPassword)

end Accounts
end DeskStream
