import DeskStream.Audio.Buffer
/-!
# Where scheduled sound goes

A playback queue that an audio output drains, refusing buffers when the output falls behind, and a
sink that only counts.
-/

namespace DeskStream

/-- A bounded playback queue. Without a listener every buffer is refused. -/
structure PlaybackQueue where
  capacity : Nat
  waiting : List PcmBuffer := []
  dropped : Nat := 0
  listening : Bool := true

namespace PlaybackQueue

/-- A queue holds at least one buffer. -/
def ofCapacity (n : Nat) : PlaybackQueue := { capacity := max n 1 }

/-- Append a buffer, or drop it when the output is behind or gone. -/
def schedule (q : PlaybackQueue) (b : PcmBuffer) : PlaybackQueue :=
  if q.listening && decide (q.waiting.length < q.capacity) then
    { q with waiting := q.waiting ++ [b] }
  else { q with dropped := q.dropped + 1 }

/-- The output takes the oldest buffer. -/
def drain (q : PlaybackQueue) : PlaybackQueue × Option PcmBuffer :=
  ({ q with waiting := q.waiting.tail }, q.waiting.head?)

/-- The output goes away, with whatever it had not taken. -/
def close (q : PlaybackQueue) : PlaybackQueue := { q with waiting := [], listening := false }

end PlaybackQueue

/-- A sink that counts what it is given. -/
structure CountingSink where
  buffers : Nat := 0
  frames : Nat := 0

/-- Count a buffer. -/
def CountingSink.schedule (s : CountingSink) (b : PcmBuffer) : CountingSink :=
  ⟨s.buffers + 1, s.frames + b.frames⟩

end DeskStream
