import DeskStream.Security.KeyRing
import DeskStream.Text.Quoted
/-!
# Secrets in diagnostics

Texts that may go into a log. A password or a key is never in them, and of a token only what tells
two sessions apart.
-/

namespace DeskStream

/-- Characters of a token that a log shows. -/
def Token.shown : Nat := 8

/-- The beginning of a token. -/
def Token.redacted (t : Token) : String :=
  s!"SessionToken({String.ofList (t.text.toList.take Token.shown)}…)"

/-- The name in quotes, and no password. -/
def Credentials.redacted (c : Credentials) : String :=
  "Credentials \x7b username: " ++ Text.quoted c.username ++ ", password: \"<redacted>\" \x7d"

/-- Nothing of a key. -/
def redactedKey : String := "SymmetricKey(<redacted>)"

/-- The beginning of the token, and whether there is a key. -/
def Grant.redacted (g : Grant) : String :=
  let key := match g.key with
    | none => "None"
    | some _ => s!"Some({redactedKey})"
  "AuthGrant \x7b token: " ++ g.token.redacted ++ ", key: " ++ key ++ " \x7d"

/-- Whether keys are held. -/
def KeyRing.redacted (r : KeyRing) : String :=
  "SecuritySession \x7b authenticated: " ++ toString r.isAuthenticated ++ " \x7d"

end DeskStream
