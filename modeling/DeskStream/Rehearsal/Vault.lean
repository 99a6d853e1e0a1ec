import DeskStream.Security.KeyRing
import DeskStream.Text.Hex
/-!
# A key ring under test

What is sealed is kept in numbered slots, from where copies can be damaged and opened. Draws and
nonces are counted: nothing of them is seen but that they are new.
-/

namespace DeskStream.Rehearsal

/-- The `n`-th draw. -/
def drawOf (n : Nat) : Draw :=
  ⟨⟨Hex.encode (Bytes.ofNatBE 32 (n + 1))⟩, ⟨Bytes.ofNatBE 32 (n + 1), Bytes.length_ofNatBE ..⟩⟩

/-- The `n`-th nonce. -/
def nonceOf (n : Nat) : Nonce := ⟨Bytes.ofNatBE 12 n, Bytes.length_ofNatBE ..⟩

/-- A key ring, with what was drawn and sealed so far. -/
structure Vault where
  ring : KeyRing
  drawn : Nat := 0
  /-- The token issued last. -/
  issued : Option Token := none
  slots : List Bytes := []
  /-- Accounts beside a preshared ring, which has no use for them. -/
  spare : KeyRing := .ofAccounts {}

namespace Vault

/-- Sign in, with the next draw. -/
def authenticate (v : Vault) (c : Credentials) : Vault × Except CryptoError Token :=
  let (ring, r) := v.ring.authenticate c (drawOf v.drawn)
  ({ v with ring, drawn := v.drawn + 1, issued := r.toOption <|> v.issued }, r)

/-- Seal a message into the next slot. -/
def fill (v : Vault) (message : Bytes) : Vault × Except CryptoError Bytes :=
  let r := v.ring.encrypt (nonceOf v.slots.length) message
  ({ v with slots := v.slots ++ r.toOption.toList }, r)

/-- No slot has the nonce of a sealed message. -/
def isFresh (v : Vault) (m : Bytes) : Bool := v.slots.all fun old => old.take 12 != m.take 12

/-- A copy of a sealed message with an octet changed, cut off, and with octets after it. -/
def damaged (m : Bytes) (flip : Option Nat) (mask : UInt8) (length : Nat) (tail : Bytes) : Bytes :=
  let m := match flip with
    | some i => m.modify (i % m.length) (· ^^^ mask)
    | none => m
  m.take length ++ tail

def register (v : Vault) (name : String) (d : Digest) : Vault :=
  { v with ring := v.ring.register name d, spare := v.spare.register name d }

/-- Revoke a user; the answer says whether there was one. -/
def revoke (v : Vault) (name : String) : Vault × Bool :=
  let (ring, found) := v.ring.revoke name
  let (spare, spareFound) := v.spare.revoke name
  ({ v with ring, spare }, found || (v.ring.accounts.isNone && spareFound))

/-- Users of the accounts that there are. -/
def users (v : Vault) : Nat := ((v.ring.accounts <|> v.spare.accounts).map (·.users.length)).getD 0

end Vault
end DeskStream.Rehearsal
