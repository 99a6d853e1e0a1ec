import DeskStream.Video.Path
/-!
# Decoders on a virtual clock

A decode worker runs until it waits: for a frame, or for a decoder that takes its time. The scripted
decoder accepts every format, hands the access unit on after a set time, and fails on demand.
-/

namespace DeskStream.Rehearsal

/-- What a decoder is to do, and when it will be done with the frame inside it. Times are in
milliseconds. -/
structure Decoder where
  scripted : Bool
  /-- Outcomes of the calls to come, success once they are exhausted. -/
  outcomes : List Bool := []
  /-- How long a call of the scripted decoder takes. -/
  hold : Nat := 0
  due : Nat := 0

namespace Decoder

/-- The formats for which a session can be opened. -/
def accept (d : Decoder) (format : Wire.VideoFormat) : Except DecodeError Unit :=
  if d.scripted then .ok () else VideoDecoder.passthrough.accept format

/-- How long a call takes. -/
def time (d : Decoder) : Nat := if d.scripted then d.hold else 0

/-- The outcome of a call that is due. -/
def decode (d : Decoder) (job : VideoJob) : Decoder × Except DecodeError DecodedFrame :=
  if d.scripted then
    ({ d with outcomes := d.outcomes.tail },
      if d.outcomes.headD true then .ok job.asFrame
      else .error (.codecFailure (.other "scripted failure")))
  else (d, VideoDecoder.passthrough.decode job)

/-- The next thing the worker does at an instant; nothing if it waits. -/
def act (d : Decoder) (now : Nat) (v : VideoPath) : Option (Decoder × VideoPath.Action) :=
  match v.worker with
  | none => none
  | some w =>
    match w.current, w.jobs with
    | some job, _ =>
      if d.due ≤ now then let (d, outcome) := d.decode job; some (d, .finish outcome) else none
    | none, job :: _ =>
      some ({ d with due := now + d.time }, .next (d.accept job.unit.format))
    | none, [] => none

/-- A bound on the things a worker can do before it waits. -/
def workload (v : VideoPath) : Nat :=
  match v.worker with
  | none => 0
  | some w => 2 * w.jobs.length + w.current.toList.length

/-- At most `n` things, until the worker waits. -/
def workAtMost : Nat → Nat → Decoder → VideoPath → Decoder × VideoPath
  | 0, _, d, v => (d, v)
  | n + 1, now, d, v =>
    match d.act now v with
    | none => (d, v)
    | some (d, action) => workAtMost n now d (v.work action)

/-- The worker runs until it waits. -/
def work (d : Decoder) (now : Nat) (v : VideoPath) : Decoder × VideoPath :=
  workAtMost (workload v) now d v

/-- More outcomes for the calls to come. -/
def expect (d : Decoder) (outcomes : List Bool) : Decoder :=
  { d with outcomes := d.outcomes ++ outcomes }

end Decoder
end DeskStream.Rehearsal
