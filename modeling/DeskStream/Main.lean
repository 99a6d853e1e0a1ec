import DeskStream.Cli.Advertised
import DeskStream.Cli.Help
import DeskStream.Cli.Watch
import Std.Async
import Std.Sync.Channel
/-!
# The program

Sockets, alarms, files and output for what the command line asks for. What is decided is decided
elsewhere.
-/

namespace DeskStream.Cli

open Std.Async

/-! ## Clocks and random numbers -/

def clocks : IO Watch.Clocks := do
  let wall ← Std.Time.Timestamp.now
  return ⟨.ofNat wall.toMillisecondsSinceUnixEpoch.toInt.toNat, ← IO.monoNanosNow⟩

/-- As many random octets, by the numbers that they denote. -/
def randomOctets (n : Nat) : IO (Octets n) := do
  let b ← IO.getRandomBytes (.ofNat n)
  return ⟨Bytes.ofNatBE n (Bytes.toNatBE b.toList), Bytes.length_ofNatBE ..⟩

def draw : IO Draw := do
  return ⟨⟨Hex.encode (← randomOctets 32).val⟩, ← randomOctets 32⟩

/-! ## Failures of the system -/

/-- The number of a failure, if the system gave one. -/
def systemCode : IO.Error → Option UInt32
  | .alreadyExists _ c _ | .otherError c _ | .resourceBusy c _ | .resourceVanished c _
  | .unsupportedOperation c _ | .hardwareFault c _ | .unsatisfiedConstraints c _
  | .illegalOperation c _ | .protocolError c _ | .timeExpired c _ | .interrupted _ c _
  | .noFileOrDirectory _ c _ | .invalidArgument _ c _ | .permissionDenied _ c _
  | .resourceExhausted _ c _ | .inappropriateType _ c _ | .noSuchThing _ c _ => some c
  | _ => none

/-- The text of a failure that sockets know. -/
def systemText : Nat → Option String
  | 32 => some "Broken pipe"
  | 99 => some "Cannot assign requested address"
  | 101 => some "Network is unreachable"
  | 104 => some "Connection reset by peer"
  | 110 => some "Connection timed out"
  | 111 => some "Connection refused"
  | 113 => some "No route to host"
  | _ => none

/-- Why a socket fails, in words. -/
def reasonOf (e : IO.Error) : String :=
  let text? := do
    let code := (0 - (← systemCode e)).toNat
    let text ← systemText code
    return s!"{text} (os error {code})"
  text?.getD (toString e)

/-! ## Sockets and alarms -/

abbrev Socket := TCP.Socket.Client

/-- Where happenings arrive; one that tells of a new socket brings it. -/
abbrev Inbox := Std.CloseableChannel.Sync (Happening × Option Socket)

def tell (inbox : Inbox) (h : Happening) : IO Unit := discard (inbox.send (h, none)).toBaseIO

/-- A socket is open for an activity. -/
def bring (inbox : Inbox) (t : Nat) (socket : Socket) : IO Unit :=
  discard (inbox.send (.dialled t (.ok ()), some socket)).toBaseIO

/-- Something goes on aside. -/
def aside (a : Async Unit) : IO Unit := discard a.toIO

/-- An open socket to the first address of a host that can be reached. -/
def openSocket (host : String) (port : UInt16) : Async Socket := do
  let mut failure := IO.userError "could not resolve to any addresses"
  for address in ← DNS.getAddrInfo host (toString port.toNat) do
    try
      let socket ← TCP.Socket.Client.mk
      socket.connect (match address with
        | .v4 a => .v4 ⟨a, port⟩
        | .v6 a => .v6 ⟨a, port⟩)
      return socket
    catch e => failure := e
  throw failure

/-- The options of a new socket; one that cannot be set is let be. -/
def tune (c : TcpConfig) (socket : Socket) : IO Unit := do
  if c.nodelay then
    try socket.noDelay catch _ => pure ()
  if 0 < c.keepaliveSecs then
    try socket.keepAlive true (.ofNat c.keepaliveSecs) (Int.natCast_nonneg _) catch _ => pure ()

def dial (inbox : Inbox) (c : TcpConfig) (t : Nat) (host : String) (port : UInt16) : IO Unit := do
  aside do
    try
      let socket ← openSocket host port
      tune c socket
      bring inbox t socket
    catch e => tell inbox (.dialled t (.error (.connectionFailed (reasonOf e))))
  if 0 < c.connectTimeout then
    aside do
      sleep (.ofNat c.connectTimeout)
      tell inbox (.dialled t (.error .timeout))

/-- Pieces are read until there are no more. -/
partial def readPieces (inbox : Inbox) (link : Nat) (size : UInt64) (socket : Socket) :
    Async Unit := do
  match ← socket.recv? size with
  | none => tell inbox (.arrived link [])
  | some b =>
    unless b.isEmpty do tell inbox (.arrived link b.toList)
    readPieces inbox link size socket

def read (inbox : Inbox) (c : TcpConfig) (link : Nat) (socket : Socket) : IO Unit :=
  aside do
    try readPieces inbox link (.ofNat (max c.readBufferSize 4096)) socket
    catch e => tell inbox (.unreadable link (reasonOf e))

def write (inbox : Inbox) (link : Nat) (socket : Socket) (octets : Bytes) : IO Unit :=
  aside do
    try
      socket.send ⟨octets.toArray⟩
      tell inbox (.written link none)
    catch e => tell inbox (.written link (some (reasonOf e)))

def shut (socket : Socket) : IO Unit :=
  aside do try socket.shutdown catch _ => pure ()

/-- Something is done when the user interrupts the program. -/
def onInterrupt (a : IO Unit) : IO Unit := do
  let waiter ← Signal.Waiter.mk .sigint false
  discard (AsyncTask.mapIO (fun _ => a) (← waiter.wait))

/-! ## Output -/

def printLine (l : Line) : IO Unit := do
  let out ← IO.getStdout
  out.putStrLn (l.render (← out.isTty))
  out.flush

/-- Give up, with the reason. -/
def giveUp (f : Failure) : IO UInt32 := do
  IO.eprintln s!"Error: {f.message}"
  return 1

/-! ## Commands -/

/-- Hosts are looked for until something else is wanted. -/
partial def browse (d : DiscoveryService) (wanted : DiscoveryService → IO Bool) :
    IO DiscoveryService := do
  if ← wanted d then
    IO.sleep 100
    browse (d.reconcile (← IO.monoMsNow) (← IO.monoNanosNow)) wanted
  else return d.stop

/-- A discovery service that has heard of the services in the environment. -/
def discovery (c : DiscoveryConfig) : IO DiscoveryService := do
  let services := Advertised.services ((← IO.getEnv "FAKE_MDNS").getD "")
  return Advertised.listen c services (← IO.monoMsNow) (← IO.monoNanosNow)

def discover (c : ClientConfig) (seconds : Nat) : IO UInt32 := do
  printLine (Report.browsing c.discovery.serviceType seconds)
  let interrupted ← IO.mkRef false
  onInterrupt (interrupted.set true)
  let deadline := (← IO.monoMsNow) + 1000 * seconds
  let d ← browse (← discovery c.discovery) fun _ => do
    return (← IO.monoMsNow) < deadline && !(← interrupted.get)
  (Report.hosts d.peers).forM printLine
  return 0

/-- Milliseconds that a host is looked for. -/
def lookupTime : Nat := 10000

/-- The host that an invocation means. -/
def findHost (c : ClientConfig) : ConnectRequest.Target → IO (Except Failure Peer)
  | .known peer => return .ok peer
  | .named name => do
    let deadline := (← IO.monoMsNow) + lookupTime
    let d ← browse (← discovery c.discovery) fun d => do
      return (Advertised.find? d name).isNone && (← IO.monoMsNow) < deadline
    return (Advertised.find? d name).elim (.error (.hostNotFound name)) .ok

/-- Sockets by link. -/
abbrev Sockets := List (Nat × Socket)

def grant (inbox : Inbox) (c : TcpConfig) (sockets : Sockets) : Wish → IO Unit
  | .dial t host port => dial inbox c t host port
  | .write link octets => (sockets.lookup link).forM (write inbox link · octets)
  | .shut link => (sockets.lookup link).forM shut
  | .later 0 h => tell inbox h
  | .later time h => aside do
    sleep (.ofNat time)
    tell inbox h
  | .print line => printLine line

/-- Happenings are dealt with until the program is over. -/
partial def watch (inbox : Inbox) (sockets : Sockets) (w : Watch) : IO UInt32 := do
  match w.phase with
  | .finished (.ok ()) => return 0
  | .finished (.error f) => giveUp f
  | before =>
    let some (h, socket) ← inbox.recv | return 0
    let (next, wishes) := w.happen (← clocks) h
    let fresh := (socket.filter fun _ => w.links.length < next.links.length).map fun s =>
      (w.links.length, s)
    fresh.forM fun (link, s) => read inbox w.transport link s
    let sockets := fresh.toList ++ sockets
    wishes.forM (grant inbox w.transport sockets)
    match before, next.phase with
    | .connecting, .watching => onInterrupt (tell inbox .interrupted)
    | _, _ => pure ()
    watch inbox sockets next

def connect (c : ClientConfig) (request : ConnectRequest) : IO UInt32 := do
  let c := request.override c
  match request.target with
  | .error f => giveUp f
  | .ok target =>
    match ← findHost c target with
    | .error f => giveUp f
    | .ok peer =>
      match signIn c (← draw) with
      | .error f => giveUp f
      | .ok ring =>
        let inbox : Inbox ← Std.CloseableChannel.Sync.new
        let base ← randomOctets 12
        let (w, wishes) := Watch.start request c ring peer (Bytes.toNatBE base.val) (← clocks)
        wishes.forM (grant inbox c.transport [])
        watch inbox [] w

def run (i : Invocation) : IO UInt32 := do
  let contents ← match i.config with
    | none => pure none
    | some path =>
      try
        let b ← IO.FS.readBinFile path
        pure (some b.toList)
      catch _ => pure none
  match i.settings contents with
  | .error f => giveUp f
  | .ok c =>
    match i.command with
    | .discover seconds => discover c seconds
    | .connect request => connect c request

/-- The variables of the environment that options may stand for. -/
def environment : IO (String → Option String) := do
  let names := connectSwitches.filterMap (·.source?)
  let values ← names.mapM fun name => return (name, ← IO.getEnv name)
  return fun name => (values.lookup name).join

end DeskStream.Cli

open DeskStream.Cli in
/-- The program, given its arguments; the answer is its exit code. -/
def main (args : List String) : IO UInt32 := do
  let env ← environment
  match Invocation.read env args with
  | .ok i => run i
  | .error (.page p) =>
    (p.lines env).forM IO.println
    return 0
  | .error .version =>
    IO.println versionLine
    return 0
  | .error .bare =>
    (Page.program.lines env).forM IO.eprintln
    return 2
  | .error (.misuse m) =>
    IO.eprintln s!"error: {m.message}"
    return 2
