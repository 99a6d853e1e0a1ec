import DeskStream.Cli.Invocation
import DeskStream.Cli.LogFilter
import DeskStream.Discovery.Browse
import DeskStream.Security.KeyRing
import DeskStream.Security.SharedKey
import DeskStream.Session.Error
import DeskStream.Settings.Client
/-!
# From an invocation to what is done

What a command line asks for is joined with the configuration file: options win over the file. Then
it is settled which host is meant, and the user is signed in.
-/

namespace DeskStream.Cli

/-- Why the program gives up. -/
inductive Failure where
  | logFilter
  | config (path : String) (why : ConfigError)
  /-- A user name or a password is missing, and keys are needed. -/
  | noCredentials
  | key (why : KeyTextError)
  | rejected (why : CryptoError)
  /-- Neither a host nor a name to look up. -/
  | noHost
  | hostNotFound (name : String)
  | session (why : ClientError)
  deriving Repr, DecidableEq

def Failure.message : Failure → String
  | logFilter => "Failed to parse log level"
  | config path .unreadable => s!"Failed to read {path}"
  | config path .invalid => s!"Invalid config {path}"
  | noCredentials => "encryption needs --user and --password (or --no-encrypt)"
  | key why => why.message
  | rejected _ => "Authentication failed"
  | noHost => "give a host address or --name"
  | hostNotFound name => s!"host {Text.quoted name} not found"
  | session why => why.message

/-- The configuration in the file that an invocation names; the defaults if it names none. -/
def Invocation.settings (i : Invocation) (contents : Option Bytes) : Except Failure ClientConfig :=
  if LogFilter.isFilter i.logLevel then
    match i.config with
    | none => .ok {}
    | some path => (ClientConfig.ofFile contents).mapError (.config path)
  else .error .logFilter

namespace ConnectRequest

/-- The configuration with what the command line settles. -/
def override (r : ConnectRequest) (c : ClientConfig) : ClientConfig :=
  { c with
    session := { c.session with encrypt := c.session.encrypt && !r.isPlain }
    auth :=
      { username := r.user <|> c.auth.username
        password := r.password <|> c.auth.password
        sharedKey := r.key <|> c.auth.sharedKey } }

/-- The host that is meant. -/
inductive Target where
  | known (peer : Peer)
  /-- The host advertised under a name. -/
  | named (name : String)
  deriving Repr, DecidableEq

def target (r : ConnectRequest) : Except Failure Target :=
  match r.host, r.name with
  | some host, name => .ok (.known (.manual (name.getD host) host r.port))
  | none, some name => .ok (.named name)
  | none, none => .error .noHost

end ConnectRequest

/-- The keys that a configuration signs in to. Without a user nobody is signed in, which will do
when nothing is sealed. -/
def signIn (c : ClientConfig) (fresh : Draw) : Except Failure KeyRing :=
  match c.auth.username, c.auth.password with
  | some username, some password => do
    let sharedKey ← match c.auth.sharedKey with
      | none => .ok none
      | some text => ((SharedKey.parse text).mapError Failure.key).map some
    let accounts : Accounts := { ({} : Accounts).addUser username password with sharedKey }
    match (KeyRing.ofAccounts accounts).authenticate ⟨username, password⟩ fresh with
    | (ring, .ok _) => .ok ring
    | (_, .error e) => .error (.rejected e)
  | _, _ => if c.session.encrypt then .error .noCredentials else .ok (.ofAccounts {})

end DeskStream.Cli
