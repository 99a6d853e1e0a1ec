import DeskStream.Rehearsal.Lock
import DeskStream.Rehearsal.Playout
import DeskStream.Session.Ready
/-!
# A session on a virtual clock

The surroundings of a session are scripted: what each connector call leads to, how each link takes
messages, what arrives on it. After every operation each activity runs until it waits, in the order
in which they were woken; the clock moves a millisecond at a time. Whatever happens to the session
is a step of it.
-/

namespace DeskStream.Rehearsal

open Wire

/-- How a link takes messages: after a delay, and then not at all if it is to fail. -/
structure Behaviour where
  delay : Nat := 0
  failure : Option TransportError := none

/-- What a connector call leads to. -/
structure Attempt where
  delay : Nat := 0
  failure : Option TransportError := none
  behaviour : Behaviour := {}

/-- What a receive loop is given. -/
inductive Arrival where
  | message (octets : Bytes)
  | connected
  | ended (reason : String)

/-- The far side of a link. -/
structure Cable where
  address : String
  behaviour : Behaviour := {}
  inbox : List Arrival := []
  /-- More can arrive. -/
  isOpen : Bool := true

/-- What can be woken. -/
inductive Actor where
  | task (number : Nat)
  | worker
  deriving DecidableEq

/-- A session with its surroundings. Times are in milliseconds. -/
structure Stage where
  session : Session
  decoder : Decoder
  now : Nat := 0
  /-- Nonces drawn so far. -/
  drawn : Nat := 0
  /-- What has been woken and not run yet, in order. -/
  ready : List Actor := []
  /-- What is to be woken, and when, in the order in which that was asked for. -/
  alarms : List (Actor × Nat) := []
  lifecycle : Lock := {}
  sending : Lock := {}
  /-- What the connector calls to come lead to, success once it is exhausted. -/
  script : List Attempt := []
  /-- What outstanding connector calls lead to, by task. -/
  attempts : List (Nat × Attempt) := []
  cables : List Cable := []
  /-- Calls begun so far. -/
  started : Nat := 0
  /-- The user has not let go of the session. -/
  held : Bool := true

namespace Stage

/-- The wall clock at the start, in milliseconds. -/
def epoch : Nat := 1700000000000

/-- The present moment, with the next nonce. -/
def moment (g : Stage) : Moment where
  wall := .ofNat (epoch + g.now)
  mono := 1000000 * g.now
  nonce := ⟨Bytes.ofNatBE 12 g.drawn, Bytes.length_ofNatBE ..⟩

/-- Wake an actor, unless it has been woken already. -/
def wake (g : Stage) (a : Actor) : Stage :=
  if g.ready.contains a then g else { g with ready := g.ready ++ [a] }

def wakeAll (g : Stage) (actors : List Actor) : Stage := actors.foldl wake g

/-- Receive loops that have been told to end and were not before. -/
def cancelled (old new : Session) : List Actor :=
  new.tasks.filterMap fun (t, task) => match task, old.task? t with
    | .listen _ true, some (.listen _ false) => some (.task t)
    | _, _ => none

/-- Disconnect calls whose receive loop has ended. -/
def joinable (old new : Session) : List Actor :=
  new.tasks.filterMap fun (t, task) => match task with
    | .join _ link => if old.isListening link && !new.isListening link then some (.task t) else none
    | _ => none

/-- Activities that have begun. -/
def begun (old new : Session) : List Actor :=
  (new.tasks.filter fun (t, _) => decide (old.spawned ≤ t)).map fun (t, _) => .task t

/-- The decode worker, if there is something for it to do. -/
def workable (g : Stage) : List Actor :=
  if (g.decoder.act g.now g.session.pipeline.video).isSome then [.worker] else []

/-- A step of the session, waking whatever can now go on. -/
def act (g : Stage) (e : Session.Event) : Stage :=
  let old := g.session
  let g := { g with session := old.step g.moment e, drawn := g.drawn + 1 }
  let g := g.wakeAll (cancelled old g.session ++ joinable old g.session ++ begun old g.session)
  g.wakeAll g.workable

def releaseLifecycle (g : Stage) : Stage :=
  let (lifecycle, next) := g.lifecycle.release
  { g with lifecycle }.wakeAll (next.map Actor.task).toList

def releaseSending (g : Stage) : Stage :=
  let (sending, next) := g.sending.release
  { g with sending }.wakeAll (next.map Actor.task).toList

/-! ## Going on -/

/-- Whether an activity that takes a time is over: the alarm is set when it first asks. -/
def elapsed (g : Stage) (t time : Nat) : Stage × Bool :=
  match g.alarms.lookup (.task t) with
  | some due =>
    if due ≤ g.now then ({ g with alarms := g.alarms.filter (·.1 ≠ .task t) }, true) else (g, false)
  | none =>
    if time = 0 then (g, true)
    else ({ g with alarms := g.alarms ++ [(.task t, g.now + time)] }, false)

/-- What a connector call leads to, settled when it is made. -/
def attempt (g : Stage) (t : Nat) : Stage × Attempt :=
  match g.attempts.lookup t with
  | some a => (g, a)
  | none =>
    let a := g.script.headD {}
    ({ g with script := g.script.tail, attempts := g.attempts ++ [(t, a)] }, a)

/-- How a link answers a message handed to it. -/
def reply (g : Stage) (link : Nat) : Except TransportError Unit :=
  if g.session.closed.contains link then .error .notConnected
  else match (g.cables[link]?).bind (·.behaviour.failure) with
    | some e => .error e
    | none => .ok ()

/-- The next arrival on a link. -/
def arrival (g : Stage) (link : Nat) : Option (Stage × Arrival) :=
  match g.cables[link]? with
  | none => none
  | some cable =>
    match cable.inbox with
    | [] => none
    | a :: inbox => some ({ g with cables := g.cables.set link { cable with inbox } }, a)

/-- One move of an activity; the answer says whether it went on or waits. -/
def move (g : Stage) (t : Nat) : Stage × Bool :=
  match g.session.task? t with
  | none => (g, false)
  | some task =>
    match task with
    | .connect .. =>
      let (lifecycle, mine) := g.lifecycle.acquire t
      let g := { g with lifecycle }
      if mine then ((g.act (.run t)).releaseLifecycle, true) else (g, false)
    | .disconnect _ =>
      let (lifecycle, mine) := g.lifecycle.acquire t
      let g := { g with lifecycle }
      if mine then
        let g := g.act (.run t)
        (if (g.session.task? t).isSome then g else g.releaseLifecycle, true)
      else (g, false)
    | .join _ link =>
      if g.session.isListening link then (g, false) else ((g.act (.run t)).releaseLifecycle, true)
    | .dial _ _ peer =>
      let (g, attempt) := g.attempt t
      let (g, isOver) := g.elapsed t attempt.delay
      if isOver then
        match attempt.failure with
        | some e => (g.act (.dialDone t (.error e)), true)
        | none =>
          let cable : Cable := { address := peer.address, behaviour := attempt.behaviour }
          ({ g with cables := g.cables ++ [cable] }.act (.dialDone t (.ok ())), true)
      else (g, false)
    | .queued .. =>
      let (sending, mine) := g.sending.acquire t
      let g := { g with sending }
      if mine then
        let g := g.act (.run t)
        (if (g.session.task? t).isSome then g else g.releaseSending, true)
      else (g, false)
    | .write _ link _ _ =>
      let time := ((g.cables[link.number]?).map (·.behaviour.delay)).getD 0
      let (g, isOver) := g.elapsed t time
      if isOver then ((g.act (.writeDone t (g.reply link.number))).releaseSending, true) else (g, false)
    | .timer _ =>
      let (g, isOver) := g.elapsed t ((g.session.sleep? task).getD 0)
      if isOver then (g.act (.intervalOver t), true) else (g, false)
    | .send .. | .close _ | .listen _ true => (g.act (.run t), true)
    | .listen link false =>
      match g.arrival link.number with
      | none => (g, false)
      | some (g, .message octets) => (g.act (.receive t octets), true)
      | some (g, .connected) => (g, true)
      | some (g, .ended reason) => (g.act (.linkEnded t reason), true)

/-- An activity goes on for at most `n` moves, until it waits. -/
def moveAtMost : Nat → Nat → Stage → Stage
  | 0, _, g => g
  | n + 1, t, g =>
    match g.move t with
    | (g, true) => moveAtMost n t g
    | (g, false) => g

/-- The worker does at most `n` things, until it waits. -/
def workAtMost : Nat → Stage → Stage
  | 0, g => g
  | n + 1, g =>
    match g.decoder.act g.now g.session.pipeline.video with
    | none => g
    | some (decoder, action) => workAtMost n ({ g with decoder }.act (.work action))

/-- The alarm of the worker is set for when its decoder is done. -/
def setWorkerAlarm (g : Stage) : Stage :=
  let alarms := g.alarms.filter (·.1 ≠ .worker)
  if (g.session.pipeline.video.worker.bind (·.current)).isSome then
    { g with alarms := alarms ++ [(.worker, g.decoder.due)] }
  else { g with alarms }

/-- Moves that an activity can make besides taking arrivals: it passes each station once. -/
def stations : Nat := 16

/-- Arrivals that wait on all links together. -/
def arrivals (g : Stage) : Nat := g.cables.foldl (fun n cable => n + cable.inbox.length) 0

/-- An actor goes on until it waits. -/
def poll (g : Stage) : Actor → Stage
  | .task t => moveAtMost (stations + g.arrivals) t g
  | .worker => (workAtMost (Decoder.workload g.session.pipeline.video) g).setWorkerAlarm

/-- The user and every call have let go of the session. -/
def isLetGo (g : Stage) : Bool := !g.held && g.session.outcomes.length == g.started

/-- An activity that keeps the session alive. -/
def keepsAlive : Task → Bool
  | .close _ => false
  | _ => true

/-- Once it is let go of the session loses its link, and once no activity is left it is freed. -/
def settleHandle (g : Stage) : Stage :=
  if g.isLetGo then
    let g := g.act .letGo
    if g.session.tasks.any (keepsAlive ·.2) then g else g.act .free
  else g

/-- At most `n` of the woken go on. -/
def settleAtMost : Nat → Stage → Stage
  | 0, g => g
  | n + 1, g =>
    match g.ready with
    | [] => g
    | a :: ready =>
      settleAtMost n ({ g with ready }.poll a).settleHandle

/-- More than any operation wakes. -/
def patience : Nat := 100000

/-- Everyone goes on until all wait. -/
def settle (g : Stage) : Stage := settleAtMost patience g

/-! ## Operations -/

/-- A call begins, without going on yet. -/
def call (g : Stage) (e : Session.Event) : Stage := { g with started := g.started + 1 }.act e

/-- The receive loops of a link. -/
def listeners (g : Stage) (link : Nat) : List Actor :=
  g.session.tasks.filterMap fun (t, task) => match task with
    | .listen l _ => if l.number = link then some (.task t) else none
    | _ => none

/-- What arrives on a link is handed to its receive loop; the answer says whether there is one and
more can arrive. -/
def deliver (g : Stage) (link : Nat) (arrivals : List Arrival) : Stage × Bool :=
  match g.cables[link]?, g.listeners link with
  | some cable, loop :: loops =>
    if cable.isOpen then
      let cable := { cable with inbox := cable.inbox ++ arrivals }
      (({ g with cables := g.cables.set link cable }.wakeAll (loop :: loops)).settle, true)
    else (g, false)
  | _, _ => (g, false)

/-- Nothing more arrives on a link; the answer says whether more could. -/
def endFeed (g : Stage) (link : Nat) : Stage × Bool :=
  match g.cables[link]? with
  | none => (g, false)
  | some cable =>
    if cable.isOpen then
      let (g, _) := g.deliver link [.ended TransportError.connectionClosed.message]
      match g.cables[link]? with
      | none => (g, true)
      | some cable => ({ g with cables := g.cables.set link { cable with isOpen := false } }, true)
    else (g, false)

/-- A link takes messages differently from now on. -/
def behave (g : Stage) (link : Nat) (b : Behaviour) : Stage :=
  match g.cables[link]? with
  | none => g
  | some cable => { g with cables := g.cables.set link { cable with behaviour := b } }

/-- The user lets go of the session. -/
def letGo (g : Stage) : Stage := ({ g with held := false }.settleHandle).settle

/-- The clock moves on by a number of milliseconds. -/
def advance : Nat → Stage → Stage
  | 0, g => g
  | n + 1, g =>
    let g := { g with now := g.now + 1 }
    let due := g.alarms.filter fun (_, time) => decide (time ≤ g.now)
    advance n (g.wakeAll (due.map (·.1))).settle

/-- The user takes at most `limit` frames, or all of them. -/
def pop (g : Stage) (limit : Option Nat) : Stage × List DecodedFrame :=
  let waiting := g.session.pipeline.video.frames.items
  let taken := waiting.take (limit.getD waiting.length)
  (taken.foldl (fun g _ => g.act .pop) g, taken)

end Stage

/-! ## Subscribers -/

/-- The least power of two that is not below a number. -/
def powerAtLeast (n : Nat) : Nat := if n ≤ 1 then 1 else 1 <<< (Nat.log2 (n - 1) + 1)

/-- What a subscriber that had read up to a position finds: how much it missed, and the newest
items of a channel that keeps `capacity` of them. -/
def unread {α : Type} (capacity position : Nat) (history : List α) : Nat × List α :=
  let news := history.drop position
  let missed := news.length - powerAtLeast capacity
  (missed, news.drop missed)

end DeskStream.Rehearsal
