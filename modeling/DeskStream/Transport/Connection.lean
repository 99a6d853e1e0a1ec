import DeskStream.Transport.Config
import DeskStream.Transport.Frame
/-!
# TCP connections

A connection has a sender, a consumer and one loop that serves the socket. Callers leave messages in
a queue, from which the loop writes them as frames; what arrives the loop reads as frames and leaves
in a second queue for the consumer. Both queues hold `channelBufferSize` items. While the second is
full the loop stands still, and nothing is written either.

A step is a call, or something that the loop or the socket does. A step that is not due leaves the
connection as it is, so that a run may be any list of steps: each one is an interleaving.
-/

namespace DeskStream

/-- A connection, and what others have seen of it, oldest first. -/
structure TcpConnection where
  config : TcpConfig
  /-- The sender takes messages. -/
  isConnected : Bool := true
  /-- Send calls that wait for room, with their messages. -/
  waiting : List (Nat × Bytes) := []
  /-- Messages taken from callers that the loop has not looked at. -/
  outgoing : List Bytes := []
  /-- Messages that the loop has begun to write. -/
  begun : List Bytes := []
  /-- Octets that the socket took. -/
  written : Bytes := []
  /-- The loop is told to stop. -/
  isStopping : Bool := false
  reader : FrameReader
  /-- What the loop has for the consumer's queue before it does anything else. -/
  told : List LinkEvent := []
  /-- The loop ends once it has told that. -/
  isEnding : Bool := false
  isOver : Bool := false
  /-- What waits for the consumer. -/
  incoming : List LinkEvent := []
  /-- Somebody consumes. -/
  isConsumed : Bool := true
  /-- What the consumer was given; nothing at all once the connection is over. -/
  received : List (Option LinkEvent) := []
  /-- How calls ended. -/
  outcomes : List (Nat × Except TransportError Unit) := []

namespace TcpConnection

/-- The most items that a queue can be made for. -/
def capacityLimit : Nat := Nat.pow 2 61 - 1

/-- A connection over an open socket. There are no queues without room, and no connection then. -/
def ofConfig? (config : TcpConfig) : Option TcpConnection :=
  if 0 < config.channelBufferSize ∧ config.channelBufferSize ≤ capacityLimit then
    some { config, reader := { limit := config.maxMessageSize } }
  else none

/-- Messages taken from callers, in that order. -/
def accepted (c : TcpConnection) : List Bytes := c.begun ++ c.outgoing

/-! ## The sender -/

/-- Whether the sender takes a message. -/
def check (c : TcpConnection) (message : Bytes) : Except TransportError Unit :=
  if !c.isConnected then .error .notConnected
  else if c.config.maxMessageSize < message.length then
    .error (.messageTooLarge message.length c.config.maxMessageSize)
  else .ok ()

def hasRoom (c : TcpConnection) : Bool := c.outgoing.length < c.config.channelBufferSize

def answer (c : TcpConnection) (call : Nat) (r : Except TransportError Unit) : TcpConnection :=
  { c with outcomes := c.outcomes ++ [(call, r)] }

/-- A message is taken. -/
def accept (c : TcpConnection) (call : Nat) (message : Bytes) : TcpConnection :=
  { c with outgoing := c.outgoing ++ [message] }.answer call (.ok ())

/-- What a sender without a loop answers to calls that wait. -/
def channelClosed : TransportError := .sendFailed "Channel closed"

/-- A send call begins; it waits for room. -/
def send (c : TcpConnection) (call : Nat) (message : Bytes) : TcpConnection :=
  match c.check message with
  | .error e => c.answer call (.error e)
  | .ok () =>
    if c.isOver then c.answer call (.error channelClosed)
    else if c.waiting = [] ∧ c.hasRoom then c.accept call message
    else { c with waiting := c.waiting ++ [(call, message)] }

/-- A send call that does not wait. -/
def trySend (c : TcpConnection) (call : Nat) (message : Bytes) : TcpConnection :=
  match c.check message with
  | .error e => c.answer call (.error e)
  | .ok () =>
    if c.isOver then c.answer call (.error .connectionClosed)
    else if c.hasRoom then c.accept call message
    else c.answer call (.error .bufferFull)

/-- The sender takes nothing more, and the loop is told to stop. Closing twice is closing. -/
def close (c : TcpConnection) : TcpConnection :=
  if c.isConnected then { c with isConnected := false, isStopping := true } else c

/-- The sender is given up. -/
def dropSender (c : TcpConnection) : TcpConnection := { c with isStopping := true }

/-! ## The loop -/

/-- The loop ends: calls that wait have failed. -/
def finish (c : TcpConnection) : TcpConnection :=
  { c with
    isConnected := false, isOver := true, told := [], waiting := []
    outcomes := c.outcomes ++ c.waiting.map fun (call, _) => (call, .error channelClosed) }

/-- The loop waits for what happens next. -/
def isIdle (c : TcpConnection) : Bool := !c.isOver && !c.isEnding && c.told.isEmpty

/-- The call that has waited longest goes on. -/
def resumeCall (c : TcpConnection) : TcpConnection :=
  match c.waiting with
  | [] => c
  | (call, message) :: waiting =>
    if c.hasRoom then { c with waiting }.accept call message else c

/-- The loop takes the oldest message and writes its frame. If the socket fails it has taken only
some of the octets, and the loop ends with the reason. -/
def write (c : TcpConnection) (failure : Option (Nat × String)) : TcpConnection :=
  match c.isIdle, c.outgoing with
  | true, message :: outgoing =>
    let c := { c with outgoing, begun := c.begun ++ [message] }.resumeCall
    match failure with
    | none => { c with written := c.written ++ frame message }
    | some (octets, text) =>
      { c with
        written := c.written ++ (frame message).take octets
        told := [.failed text], isEnding := true }
  | _, _ => c

/-- A piece of the stream arrives, an empty one at its end. -/
def read (c : TcpConnection) (piece : Bytes) : TcpConnection :=
  if c.isIdle then
    let (reader, told) := c.reader.feed piece
    { c with reader, told, isEnding := reader.isOver }
  else c

/-- The socket cannot be read. -/
def readFailed (c : TcpConnection) (text : String) : TcpConnection :=
  if c.isIdle then { c with told := [.failed text], isEnding := true } else c

/-- The loop queues what it has told, as far as there is room; it ends when nobody consumes. -/
def deliver (c : TcpConnection) : TcpConnection :=
  match c.isOver, c.told with
  | false, e :: told =>
    if !c.isConsumed then c.finish
    else if c.incoming.length < c.config.channelBufferSize then
      let c := { c with told, incoming := c.incoming ++ [e] }
      if c.isEnding && told.isEmpty then c.finish else c
    else c
  | _, _ => c

/-- The loop notices that it is told to stop. What it has not written is lost. -/
def stop (c : TcpConnection) : TcpConnection :=
  if c.isIdle && c.isStopping then c.finish else c

/-! ## The consumer -/

/-- The consumer is given what has waited longest, or nothing when the connection is over. -/
def receive (c : TcpConnection) : TcpConnection :=
  match c.incoming with
  | e :: incoming => { c with incoming, received := c.received ++ [some e] }
  | [] => if c.isOver then { c with received := c.received ++ [none] } else c

/-- Nobody consumes any more. -/
def dropConsumer (c : TcpConnection) : TcpConnection :=
  { c with isConsumed := false, incoming := [] }

/-! ## Runs -/

/-- What may happen next. -/
inductive Event where
  | send (call : Nat) (message : Bytes)
  | trySend (call : Nat) (message : Bytes)
  | close
  | dropSender
  | write (failure : Option (Nat × String))
  | read (piece : Bytes)
  | readFailed (text : String)
  | deliver
  | stop
  | receive
  | dropConsumer
  deriving Repr, DecidableEq

/-- One step. -/
def step (c : TcpConnection) : Event → TcpConnection
  | .send call message => c.send call message
  | .trySend call message => c.trySend call message
  | .close => c.close
  | .dropSender => c.dropSender
  | .write failure => c.write failure
  | .read piece => c.read piece
  | .readFailed text => c.readFailed text
  | .deliver => c.deliver
  | .stop => c.stop
  | .receive => c.receive
  | .dropConsumer => c.dropConsumer

/-- A run: steps in order. -/
def run (c : TcpConnection) (events : List Event) : TcpConnection := events.foldl step c

end TcpConnection
end DeskStream
