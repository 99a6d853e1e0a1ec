import DeskStream.Crypto.Aead
import DeskStream.Security.Accounts
/-!
# Session keys

A key ring is signed in, holding a token and a key, or it is not. It seals and opens messages:

    nonce 12 | ciphertext | tag 16

Nonces, tokens and keys that have to be fresh are arguments: the caller draws them.
-/

namespace DeskStream

/-- A number used once with a key. -/
abbrev Nonce := Octets 12

/-- Token and key of a signed-in session. -/
structure SessionKeys where
  token : Token
  key : Key

/-- What the caller draws at random for a sign-in. -/
structure Draw where
  token : Token
  key : Key

/-- Who can sign in, and the keys held now. Without accounts nobody can sign in again. -/
structure KeyRing where
  accounts : Option Accounts
  keys : Option SessionKeys

/-! ## Sealed messages -/

namespace Sealed

def nonceSize : Nat := 12
def tagSize : Nat := 16

/-- Nonce and tag around an empty message. -/
def minSize : Nat := nonceSize + tagSize

/-- A message sealed under a key and a nonce. -/
def ofMessage (key : Key) (nonce : Nonce) (message : Bytes) : Option Bytes :=
  (Aead.encrypt key.val nonce.val message).map fun (ciphertext, tag) => nonce.val ++ ciphertext ++ tag

/-- The message in a sealed string of at least `minSize` octets. -/
def toMessage? (key : Key) (sealedMessage : Bytes) : Option Bytes :=
  let rest := sealedMessage.drop nonceSize
  let n := rest.length - tagSize
  Aead.decrypt key.val (sealedMessage.take nonceSize) (rest.take n) (rest.drop n)

end Sealed

namespace KeyRing

/-- Nobody is signed in yet. -/
def ofAccounts (a : Accounts) : KeyRing := ⟨some a, none⟩

/-- Signed in with keys agreed on beforehand. -/
def preshared (token : Token) (key : Key) : KeyRing := ⟨none, some ⟨token, key⟩⟩

def isAuthenticated (r : KeyRing) : Bool := r.keys.isSome

/-- The token of the session, if signed in. -/
def token? (r : KeyRing) : Option Token := r.keys.map (·.token)

/-- Sign in: new keys replace those held, the shared key if there is one and else a fresh one. A
rejected sign-in changes nothing. -/
def authenticate (r : KeyRing) (c : Credentials) (fresh : Draw) : KeyRing × Except CryptoError Token :=
  match r.accounts with
  | none => (r, .error (.rejected .noBackend))
  | some a =>
    match a.authenticate c fresh.token with
    | .error e => (r, .error e)
    | .ok grant => ({ r with keys := some ⟨grant.token, grant.key.getD fresh.key⟩ }, .ok grant.token)

/-- Forget the keys. -/
def logout (r : KeyRing) : KeyRing := { r with keys := none }

/-- Register a user's digest. -/
def register (r : KeyRing) (name : String) (d : Digest) : KeyRing :=
  { r with accounts := r.accounts.map (·.register name d) }

/-- Remove a user; the answer says whether there was one. -/
def revoke (r : KeyRing) (name : String) : KeyRing × Bool :=
  match r.accounts with
  | none => (r, false)
  | some a => let (a, found) := a.revoke name; ({ r with accounts := some a }, found)

/-- Seal a message. -/
def encrypt (r : KeyRing) (nonce : Nonce) (message : Bytes) : Except CryptoError Bytes :=
  match r.keys with
  | none => .error .notAuthenticated
  | some keys =>
    match Sealed.ofMessage keys.key nonce message with
    | none => .error .encryptionFailed
    | some s => .ok s

/-- Open a sealed message. Its length is looked at first, so a short one is reported as such also
when no keys are held. -/
def decrypt (r : KeyRing) (sealedMessage : Bytes) : Except CryptoError Bytes :=
  if sealedMessage.length < Sealed.minSize then .error (.shortMessage sealedMessage.length)
  else match r.keys with
    | none => .error .notAuthenticated
    | some keys =>
      match Sealed.toMessage? keys.key sealedMessage with
      | none => .error .tagMismatch
      | some m => .ok m

end KeyRing
end DeskStream
