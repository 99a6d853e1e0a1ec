import DeskStream.Session.Receive
import DeskStream.Session.Send
/-!
# Steps of a session

A step is a call that begins, an activity that goes on, or something that happens outside. A step
that is not due leaves the session as it is, so that a run may be any list of steps: each one is an
interleaving of what goes on.

Assumed is that activities are interleaved at the points where they wait, and nowhere else: all that
an activity does from one wait to the next is a single step, with no other thread at work in between.
-/

namespace DeskStream.Session

open Wire

/-- What may happen next. Activities are named by number. -/
inductive Event where
  /-- Calls of the user begin. -/
  | callConnect (call : Nat) (peer : Peer)
  | callDisconnect (call : Nat)
  | callSend (call : Nat) (kind : PacketKind) (payload : Bytes)
  /-- An activity that needs nothing from outside goes on. -/
  | run (task : Nat)
  /-- A connector call completes. -/
  | dialDone (task : Nat) (result : Except TransportError Unit)
  /-- A reconnect interval has passed. -/
  | intervalOver (task : Nat)
  /-- A link has taken a message or failed to. -/
  | writeDone (task : Nat) (result : Except TransportError Unit)
  /-- A receive loop is given a message, or told that its link is gone. -/
  | receive (task : Nat) (message : Bytes)
  | linkEnded (task : Nat) (reason : String)
  /-- A second of the metrics has passed. -/
  | tick
  /-- The decode worker does something. -/
  | work (action : VideoPath.Action)
  /-- The user takes a frame, or changes the volume. -/
  | pop
  | setVolume (volume : Float32)
  /-- Keys change under the session. -/
  | authenticate (credentials : Credentials) (fresh : Draw)
  | logout
  /-- The user lets go of the session, and then everyone else. -/
  | letGo
  | free

/-- An activity that needs nothing from outside goes on, if it is its turn. -/
def resume (s : Session) (m : Moment) (t : Nat) : Task → Session
  | .connect call peer => if s.isLeaving then s else s.connect t call peer
  | .disconnect call => if s.isLeaving then s else s.disconnect t call
  | .join call link => if s.isListening link then s else s.joined t call
  | .send origin kind payload => s.beginSend t origin kind payload
  | .queued origin kind payload => if s.isWriting then s else s.beginWrite m t origin kind payload
  | .close link => { s.erase t with closed := s.closed ++ [link] }
  | .listen _ cancelled => if cancelled then s.erase t else s
  | .dial .. | .write .. | .timer _ => s

/-- One step: an activity does all that it does until it waits again, and nothing else does anything
meanwhile. -/
def step (s : Session) (m : Moment) : Event → Session
  | .callConnect call peer => s.spawn (.connect call peer)
  | .callDisconnect call => s.spawn (.disconnect call)
  | .callSend call kind payload => s.spawn (.send (.call call) kind payload)
  | .run t =>
    match s.task? t with
    | some task => s.resume m t task
    | none => s
  | .dialDone t result =>
    match s.task? t with
    | some (.dial call generation _) => s.dialDone t call generation result
    | _ => s
  | .intervalOver t =>
    match s.task? t with
    | some (.timer generation) => s.intervalOver t generation
    | _ => s
  | .writeDone t result =>
    match s.task? t with
    | some (.write origin link sequence message) => s.writeDone t origin link sequence message result
    | _ => s
  | .receive t message =>
    match s.task? t with
    | some (.listen link false) => s.receive m link.generation message
    | _ => s
  | .linkEnded t reason =>
    match s.task? t with
    | some (.listen link false) => s.linkEnded t link.generation reason
    | _ => s
  | .tick => { s with metrics := s.metrics.tick m.mono }
  | .work action =>
    { s with pipeline := { s.pipeline with video := s.pipeline.video.work action } }
  | .pop => { s with pipeline := s.pipeline.pop.1 }
  | .setVolume volume => { s with pipeline := s.pipeline.setVolume volume }
  | .authenticate credentials fresh => { s with ring := (s.ring.authenticate credentials fresh).1 }
  | .logout => { s with ring := s.ring.logout }
  | .letGo => s.letGo
  | .free => s.free

/-- A run: steps in order, each at its moment. -/
def run (s : Session) (events : List (Moment × Event)) : Session :=
  events.foldl (fun s (m, e) => s.step m e) s

end DeskStream.Session
