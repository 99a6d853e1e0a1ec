import DeskStream.Video.Decoder
import DeskStream.Video.FrameQueue
/-!
# The video path

    submit ──▶ decode queue ──▶ worker ──▶ presentation queue ──▶ pop

Submitting never waits: a full decode queue refuses the frame. A worker, started by the first frame,
decodes one frame at a time in a session for its format. A session is closed when the format changes
and after too many failures in a row. Frames not newer than the last one presented are dropped.

The worker's steps are separate operations, since a decoder takes its time: `next` takes a frame to
the decoder and `finish` is told the outcome. A step that is not due leaves the path as it is.
-/

namespace DeskStream

open Wire

/-- Counts of the video path, each a 64-bit word: totals below `2 ^ 64` are meant. Overflow of the
presentation queue is counted there. -/
structure VideoStats where
  submitted : Nat := 0
  refused : Nat := 0
  decoded : Nat := 0
  presented : Nat := 0
  late : Nat := 0
  failures : Nat := 0
  sessionsOpened : Nat := 0
  sessionsRecreated : Nat := 0
  deriving Repr, DecidableEq

/-- The decode worker. -/
structure Worker where
  /-- Frames that wait for the decoder, oldest first. -/
  jobs : List VideoJob := []
  /-- The frame inside the decoder. -/
  current : Option VideoJob := none
  /-- The format of the open decode session. -/
  session : Option VideoFormat := none
  /-- Decode failures since the last success or forced close. -/
  failures : Nat := 0
  deriving Repr, DecidableEq

/-- Limits of the video path. -/
structure VideoLimits where
  decodeQueue : Nat
  presentationQueue : Nat
  failureThreshold : Nat
  deriving Repr, DecidableEq

/-- What was asked of the decoder about sessions. -/
inductive DecoderCall where
  | opened (format : VideoFormat)
  /-- It was asked to open a session and could not. -/
  | refused (format : VideoFormat)
  | closed (format : VideoFormat)
  deriving Repr, DecidableEq

namespace DecoderCall

def opened? : DecoderCall → Option VideoFormat
  | opened format => some format
  | refused _ | closed _ => none

def closed? : DecoderCall → Option VideoFormat
  | closed format => some format
  | opened _ | refused _ => none

end DecoderCall

/-- Worker, presentation queue, and what was asked of the decoder so far. -/
structure VideoPath where
  limits : VideoLimits
  frames : FrameQueue DecodedFrame
  worker : Option Worker := none
  /-- Timestamp of the newest frame handed to the presentation queue. -/
  lastPresented : Option UInt64 := none
  stats : VideoStats := {}
  /-- Calls of the decoder about sessions, oldest first. -/
  calls : List DecoderCall := []
  deriving Repr, DecidableEq

namespace VideoPath

def ofLimits (l : VideoLimits) : VideoPath := { limits := l, frames := .ofCapacity l.presentationQueue }

/-- The decode sessions that were opened, by format. -/
def opened (v : VideoPath) : List VideoFormat := v.calls.filterMap DecoderCall.opened?

/-- The decode sessions that were closed, by format. -/
def closed (v : VideoPath) : List VideoFormat := v.calls.filterMap DecoderCall.closed?

theorem opened_of_calls {v v' : VideoPath} {calls : List DecoderCall} (h : v'.calls = v.calls ++ calls) :
    v'.opened = v.opened ++ calls.filterMap DecoderCall.opened? := by
  rw [opened, h, List.filterMap_append]
  rfl

theorem closed_of_calls {v v' : VideoPath} {calls : List DecoderCall} (h : v'.calls = v.calls ++ calls) :
    v'.closed = v.closed ++ calls.filterMap DecoderCall.closed? := by
  rw [closed, h, List.filterMap_append]
  rfl

/-- Frames that may wait for the decoder. -/
def queueCapacity (v : VideoPath) : Nat := max v.limits.decodeQueue 1

/-- Failures in a row that force a new session. -/
def threshold (v : VideoPath) : Nat := max v.limits.failureThreshold 1

/-- Queue a video payload for the worker. -/
def submit (v : VideoPath) (payload : Bytes) (timestamp : UInt64) :
    VideoPath × Except DecodeError Unit :=
  match VideoUnit.decode payload with
  | .error e => (v, .error (.invalidPayload e))
  | .ok unit =>
    let v := { v with stats := { v.stats with submitted := v.stats.submitted + 1 } }
    let w := v.worker.getD {}
    if w.jobs.length < v.queueCapacity then
      ({ v with worker := some { w with jobs := w.jobs ++ [⟨unit, timestamp⟩] } }, .ok ())
    else
      ({ v with
        worker := some w
        stats := { v.stats with refused := v.stats.refused + 1 } }, .error (.dropped .queueFull))

/-- The open session, if any, is closed. -/
def closeSession (v : VideoPath) (w : Worker) : VideoPath × Worker :=
  ({ v with calls := v.calls ++ w.session.toList.map .closed }, { w with session := none })

/-- A session for a format: the open one if it is for this format, else a new one in its place. The
decoder may refuse the format. -/
def ensureSession (v : VideoPath) (w : Worker) (format : VideoFormat)
    (accept : VideoFormat → Except DecodeError Unit) : VideoPath × Worker :=
  if w.session = some format then (v, w)
  else
    let (v, w) := v.closeSession w
    match accept format with
    | .ok () =>
      ({ v with
        calls := v.calls ++ [.opened format]
        stats := { v.stats with sessionsOpened := v.stats.sessionsOpened + 1 } },
        { w with session := some format })
    | .error _ =>
      ({ v with
        calls := v.calls ++ [.refused format]
        stats := { v.stats with failures := v.stats.failures + 1 } }, w)

/-- An idle worker takes the oldest frame to the decoder. If no session can be opened for it the
frame is used up.

This is one step: a decoder that takes its time to open a session, and a reset that comes while it
does, are not told apart from one that opens it at once. -/
def next (v : VideoPath) (accept : VideoFormat → Except DecodeError Unit) : VideoPath :=
  match v.worker with
  | none => v
  | some w =>
    match w.current, w.jobs with
    | none, job :: jobs =>
      let (v, w) := v.ensureSession { w with jobs } job.unit.format accept
      { v with worker := some { w with current := w.session.map fun _ => job } }
    | _, _ => v

/-- Hand a frame to the presentation queue unless it is not newer than the last one. -/
def present (v : VideoPath) (f : DecodedFrame) : VideoPath :=
  if v.lastPresented.any fun last => f.timestamp ≤ last then
    { v with stats := { v.stats with late := v.stats.late + 1 } }
  else
    { v with
      lastPresented := some f.timestamp
      frames := (v.frames.push f).1
      stats := { v.stats with presented := v.stats.presented + 1 } }

/-- A decode failure; at the threshold the session is closed and the count starts anew. -/
def fail (v : VideoPath) (w : Worker) : VideoPath × Worker :=
  let v := { v with stats := { v.stats with failures := v.stats.failures + 1 } }
  let w := { w with failures := w.failures + 1 }
  if v.threshold ≤ w.failures then
    let (v, w) := v.closeSession w
    ({ v with stats := { v.stats with sessionsRecreated := v.stats.sessionsRecreated + 1 } },
      { w with failures := 0 })
  else (v, w)

/-- The decoder is done with its frame. -/
def finish (v : VideoPath) (outcome : Except DecodeError DecodedFrame) : VideoPath :=
  match v.worker with
  | none => v
  | some w =>
    match w.current with
    | none => v
    | some _ =>
      let w := { w with current := none }
      match outcome with
      | .ok f =>
        { v with
          worker := some { w with failures := 0 }
          stats := { v.stats with decoded := v.stats.decoded + 1 } }.present f
      | .error _ =>
        let (v, w) := v.fail w
        { v with worker := some w }

/-- The renderer takes the oldest frame. -/
def pop (v : VideoPath) : VideoPath × Option DecodedFrame :=
  let (frames, f) := v.frames.pop
  ({ v with frames }, f)

/-- Stop the worker, close its session, and discard every frame that waits. -/
def reset (v : VideoPath) : VideoPath :=
  { v with
    worker := none
    calls := v.calls ++ (v.worker.bind (·.session)).toList.map .closed
    frames := v.frames.clear.1
    lastPresented := none }

/-- What the worker does next. -/
inductive Action where
  /-- It takes a frame to the decoder, which accepts the format or not. -/
  | next (accepted : Except DecodeError Unit)
  /-- The decoder is done with its frame. -/
  | finish (outcome : Except DecodeError DecodedFrame)

/-- One thing done by the worker. -/
def work (v : VideoPath) : Action → VideoPath
  | .next accepted => v.next fun _ => accepted
  | .finish outcome => v.finish outcome

end VideoPath
end DeskStream
