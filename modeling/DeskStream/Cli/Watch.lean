import DeskStream.Cli.Plan
import DeskStream.Cli.Report
import DeskStream.Session.Ready
import DeskStream.Transport.Connection
/-!
# Watching a connection

The program connects to a host, reports the state and the quality of the link for as long as it is
wanted, and disconnects. Whatever reaches it from outside is a happening; whatever it wants from
outside is a wish: a socket, an alarm, a line of output.

Each happening is dealt with until nothing is left to do: activities of the session go on, their
messages go through the connections of their links, and frames are taken as they are decoded.
-/

namespace DeskStream.Cli

/-- What reaches the program from outside. -/
inductive Happening where
  /-- A socket for an activity is open, or cannot be opened. -/
  | dialled (task : Nat) (result : Except TransportError Unit)
  /-- A reconnect interval has passed. -/
  | intervalOver (task : Nat)
  /-- A piece of what a link's host sends, an empty one at its end. -/
  | arrived (link : Nat) (piece : Bytes)
  | unreadable (link : Nat) (reason : String)
  /-- A socket is done with its octets. -/
  | written (link : Nat) (failure : Option String)
  /-- A second has passed. -/
  | second
  | reportDue
  | timeIsUp
  | interrupted

/-- What the program wants from outside. -/
inductive Wish where
  /-- A socket for an activity. -/
  | dial (task : Nat) (host : String) (port : UInt16)
  | write (link : Nat) (octets : Bytes)
  | shut (link : Nat)
  /-- A happening after some milliseconds. -/
  | later (milliseconds : Nat) (h : Happening)
  | print (line : Line)

/-- How far the program has come. -/
inductive Phase where
  | connecting
  | watching
  | leaving
  | finished (result : Except Failure Unit)

/-- A connection with what the program knows of its socket. -/
structure OpenLink where
  connection : TcpConnection
  /-- The socket has been handed a frame and is not done with it. -/
  isWriting : Bool := false
  /-- The socket has been shut. -/
  isShut : Bool := false

/-- The program while it is connected. -/
structure Watch where
  session : Session
  transport : TcpConfig
  request : ConnectRequest
  phase : Phase := .connecting
  /-- The number from which nonces are counted. -/
  nonceBase : Nat
  /-- Nonces drawn so far. -/
  drawn : Nat := 0
  /-- Connections by link. -/
  links : List OpenLink := []
  /-- Activities of which the wish has been made, with what they waited for. -/
  asked : List (Nat × Task) := []
  /-- Closed links that have been dealt with. -/
  closed : Nat := 0
  /-- Changes of the state that have been shown. -/
  shown : Nat := 0

namespace Watch

/-- Both clocks: milliseconds of the wall clock, nanoseconds of the monotonic one. -/
structure Clocks where
  wall : UInt64
  mono : Nat

/-- The number of the connect call. -/
def connectCall : Nat := 0

/-- The number of the disconnect call. -/
def disconnectCall : Nat := 1

/-- A moment with the next nonce. -/
def moment (w : Watch) (now : Clocks) : Moment where
  wall := now.wall
  mono := now.mono
  nonce := ⟨Bytes.ofNatBE 12 (w.nonceBase + w.drawn), Bytes.length_ofNatBE ..⟩

/-- A step of the session. -/
def act (w : Watch) (now : Clocks) (e : Session.Event) : Watch :=
  { w with session := w.session.step (w.moment now) e, drawn := w.drawn + 1 }

/-- A link's connection changes. -/
def onLink (w : Watch) (link : Nat) (f : OpenLink → OpenLink) : Watch :=
  { w with links := w.links.modify link f }

def onConnection (w : Watch) (link : Nat) (e : TcpConnection.Event) : Watch :=
  w.onLink link fun l => { l with connection := l.connection.step e }

/-! ## One thing at a time -/

/-- A thing done, with the wishes that it leads to. -/
abbrev Move := Option (Watch × List Wish)

/-- An activity goes on. -/
def goOn (w : Watch) (now : Clocks) : Move :=
  w.session.ready?.map fun t => (w.act now (.run t), [])

/-- The decode worker does something, or a frame is taken. -/
def decode (w : Watch) (now : Clocks) : Move :=
  let video := w.session.pipeline.video
  let decoder := VideoDecoder.passthrough
  let action? : Option VideoPath.Action := video.worker.bind fun worker =>
    match worker.current, worker.jobs with
    | some job, _ => some (.finish (decoder.decode job))
    | none, job :: _ => some (.next (decoder.accept job.unit.format))
    | none, [] => none
  match action? with
  | some action => some (w.act now (.work action), [])
  | none => if video.frames.items.isEmpty then none else some (w.act now .pop, [])

/-- An activity that has come to wait for the world outside makes its wish. -/
def ask (w : Watch) : Move :=
  let waiting := w.session.tasks.find? fun (t, task) =>
    (match task with
      | .dial .. | .write .. | .timer _ => true
      | _ => false) && !w.asked.contains (t, task)
  waiting.map fun (t, task) =>
    let w := { w with asked := w.asked ++ [(t, task)] }
    match task with
    | .dial _ _ peer => (w, [.dial t peer.connectHost peer.port])
    | .write _ link _ message => (w.onConnection link.number (.send t message), [])
    | task => (w, (w.session.sleep? task).toList.map (Wish.later · (.intervalOver t)))

/-- The connection of a link has answered calls; they are told to their activities. -/
def answer (w : Watch) (now : Clocks) (number : Nat) (link : OpenLink) : Move :=
  match link.connection.outcomes with
  | [] => none
  | outcomes =>
    let w := w.onLink number fun l =>
      { l with connection := { l.connection with outcomes := [] } }
    some (outcomes.foldl (fun w (t, r) => w.act now (.writeDone t r)) w, [])

/-- The receive loop of a link. -/
def listener? (w : Watch) (link : Nat) : Option Nat :=
  w.session.tasks.findSome? fun (t, task) => match task with
    | .listen l false => if l.number = link then some t else none
    | _ => none

/-- What a receive loop makes of an event of its link. -/
def eventOf (t : Nat) : Option LinkEvent → Session.Event
  | some (.data message) => .receive t message
  | some .disconnected | none => .linkEnded t TransportError.connectionClosed.message
  | some (.failed text) => .linkEnded t text

/-- The connection of a link has something for the receive loop. -/
def hear (w : Watch) (now : Clocks) (number : Nat) (link : OpenLink) : Move :=
  match link.connection.received with
  | [] =>
    if !link.connection.incoming.isEmpty then some (w.onConnection number .receive, [])
    else if !link.connection.told.isEmpty then some (w.onConnection number .deliver, [])
    else none
  | events =>
    let w := w.onLink number fun l =>
      { l with connection := { l.connection with received := [] } }
    match w.listener? number with
    | none => some (w, [])
    | some t => some (events.foldl (fun w e => w.act now (eventOf t e)) w, [])

/-- The socket of a link is handed a frame, or shut. -/
def serve (w : Watch) (number : Nat) (link : OpenLink) : Move :=
  if link.isWriting then none
  else if link.connection.isOver then
    if link.isShut then none
    else some (w.onLink number ({ · with isShut := true }), [.shut number])
  else if link.connection.isStopping ∧ link.connection.isIdle then
    some (w.onConnection number .stop, [])
  else match link.connection.outgoing with
    | [] => none
    | message :: _ =>
      if link.connection.isIdle then
        some (w.onLink number ({ · with isWriting := true }), [.write number (frame message)])
      else none

/-- Something about one of the links. -/
def tend (w : Watch) (now : Clocks) : Move :=
  w.links.zipIdx.findSome? fun (link, number) =>
    w.answer now number link <|> w.hear now number link <|> w.serve number link

/-- A link was closed by the session. -/
def close (w : Watch) : Move :=
  (w.session.closed[w.closed]?).map fun link =>
    ({ w with closed := w.closed + 1 }.onConnection link .close, [])

/-- How a call ended. -/
def outcome? (w : Watch) (call : Nat) : Option Outcome := w.session.outcomes.lookup call

/-- Connecting is over, the state has changed, or disconnecting is over. -/
def progress (w : Watch) : Move :=
  match w.phase with
  | .connecting =>
    match w.outcome? connectCall with
    | none => none
    | some (.failed why) => some ({ w with phase := .finished (.error (.session why)) }, [])
    | some _ =>
      let limit := if w.request.duration = 0 then []
        else [Wish.later (1000 * w.request.duration) .timeIsUp]
      some ({ w with phase := .watching, shown := 1 }, limit ++ [.later 0 .reportDue])
  | .watching =>
    if w.shown < w.session.transitions.length then
      some ({ w with shown := w.session.transitions.length }, [.print (Report.state w.session.state)])
    else none
  | .leaving =>
    (w.outcome? disconnectCall).map fun _ =>
      ({ w with phase := .finished (.ok ()) }, [.print Report.disconnected])
  | .finished _ => none

/-- One thing that is left to do. -/
def move (w : Watch) (now : Clocks) : Move :=
  match w.phase with
  | .finished _ => none
  | _ =>
    w.goOn now <|> w.decode now <|> w.ask <|> w.tend now <|> w.close <|> w.progress

/-- At most `n` things. -/
def settleAtMost : Nat → Clocks → Watch → Watch × List Wish
  | 0, _, w => (w, [])
  | n + 1, now, w =>
    match w.move now with
    | none => (w, [])
    | some (w, wishes) =>
      let (w, more) := settleAtMost n now w
      (w, wishes ++ more)

/-- More things than any happening leads to. -/
def patience : Nat := 1000000

def settle (w : Watch) (now : Clocks) : Watch × List Wish := settleAtMost patience now w

/-! ## Happenings -/

/-- The user wants no more. -/
def leave (w : Watch) (now : Clocks) : Watch :=
  match w.phase with
  | .watching => { w.act now (.callDisconnect disconnectCall) with phase := .leaving }
  | _ => w

/-- The socket of an activity is open: its connection begins, unless its queues cannot be made. -/
def dialled (w : Watch) (now : Clocks) (t : Nat) (r : Except TransportError Unit) : Watch :=
  match r, TcpConnection.ofConfig? w.transport with
  | .error e, _ => w.act now (.dialDone t (.error e))
  | .ok (), none =>
    w.act now (.dialDone t (.error (.connectionFailed "no room for messages")))
  | .ok (), some connection =>
    let links := w.session.links
    let w := w.act now (.dialDone t (.ok ()))
    if w.session.links = links then w else { w with links := w.links ++ [{ connection }] }

/-- What a happening does at once, with the wishes that it leads to. -/
def meet (w : Watch) (now : Clocks) : Happening → Watch × List Wish
  | .dialled t r => (w.dialled now t r, [])
  | .intervalOver t => (w.act now (.intervalOver t), [])
  | .arrived link piece => (w.onConnection link (.read piece), [])
  | .unreadable link reason => (w.onConnection link (.readFailed reason), [])
  | .written link failure =>
    let done := TcpConnection.Event.write (failure.map fun reason => (0, reason))
    ((w.onConnection link done).onLink link ({ · with isWriting := false }), [])
  | .second => (w.act now .tick, [.later 1000 .second])
  | .reportDue =>
    match w.phase with
    | .watching =>
      (w, [.print (Report.metrics w.session.metrics.sample w.session.stats),
        .later (1000 * w.request.interval) .reportDue])
    | _ => (w, [])
  | .timeIsUp | .interrupted => (w.leave now, [])

/-- What nobody asks for again is forgotten. -/
def forget (w : Watch) : Watch :=
  { w with
    session := { w.session with written := [], control := [] }
    links := w.links.map fun l =>
      { l with connection := { l.connection with begun := [], written := [] } }
    asked := w.asked.filter fun (t, task) => w.session.task? t = some task }

/-- A happening, and all that follows from it. -/
def happen (w : Watch) (now : Clocks) (h : Happening) : Watch × List Wish :=
  let (w, wishes) := w.meet now h
  let (w, more) := w.settle now
  (w.forget, wishes ++ more)

/-- The program begins to connect to a host. -/
def start (request : ConnectRequest) (c : ClientConfig) (ring : KeyRing) (peer : Peer)
    (nonceBase : Nat) (now : Clocks) : Watch × List Wish :=
  let session := Session.ofConfig c.session ring .s16le
  let w : Watch := { session, transport := c.transport, request, nonceBase }
  let (w, wishes) := (w.act now (.callConnect connectCall peer)).settle now
  (w, [.print (Report.connecting peer), .later 1000 .second] ++ wishes)

end Watch
end DeskStream.Cli
