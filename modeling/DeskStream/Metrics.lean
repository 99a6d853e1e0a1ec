import DeskStream.Clock
import DeskStream.Wire.Packet
/-!
# Quality of a link

Every packet received is measured: frames and octets over windows of a second, latency and its
spread over the newest packets, loss and reordering from the sequence numbers.

A window closes at the first packet or tick a second after it began; the packet at which it closes
belongs to the next window. Sequence numbers are compared by signed distance, so that they may wrap.
-/

namespace DeskStream

open Wire

/-- What is known of a link. Counts are kept in 64-bit words, and are told here as numbers: totals below
`2 ^ 64` are meant. The one that grows fastest is `lost`, by at most `2 ^ 31 - 1` for each packet. -/
structure MetricsSample where
  framesPerSecond : Float := 0
  bitsPerSecond : Float := 0
  latency : UInt64 := 0
  meanLatency : Float := 0
  /-- Variance of the newest latencies. -/
  jitter : Float := 0
  received : Nat := 0
  lost : Nat := 0
  /-- Late or duplicate arrivals. -/
  reordered : Nat := 0
  /-- Packets stamped ahead of the local clock. -/
  clockSkew : Nat := 0

namespace MetricsSample

/-- Lost packets in a hundred sent, zero before any packet. -/
def lossPercentage (s : MetricsSample) : Float :=
  let total := UInt64.ofNat s.received + UInt64.ofNat s.lost
  if total = 0 then 0 else (UInt64.ofNat s.lost).toFloat / total.toFloat * 100

/-- Jitter as a standard deviation in milliseconds. -/
def jitterDeviation (s : MetricsSample) : Float := s.jitter.sqrt

/-- The names and values of all counts. -/
def counts (s : MetricsSample) : List (String × Nat) :=
  [("received", s.received), ("lost", s.lost), ("reordered", s.reordered),
   ("clock_skew", s.clockSkew)]

end MetricsSample

/-- Measurements of one session. Times are in nanoseconds on a monotonic clock. -/
structure LinkMetrics where
  sample : MetricsSample := {}
  windowStart : Option Nat := none
  windowFrames : Nat := 0
  windowBytes : Nat := 0
  /-- The number after the newest packet of this link. -/
  expected : Option UInt32 := none
  /-- The newest latencies, oldest first. -/
  latencies : List UInt64 := []
  /-- What watchers of the metrics see. -/
  watched : MetricsSample := {}
  /-- How often they were given a value. -/
  published : Nat := 0

namespace LinkMetrics

/-- Nanoseconds of a window. -/
def window : Nat := 1000000000

/-- Latencies kept for mean and variance. -/
def latencySamples : Nat := 32

/-- A time span in seconds, whole seconds and the rest converted apart. -/
def seconds (nanoseconds : Nat) : Float :=
  (UInt64.ofNat (nanoseconds / 1000000000)).toFloat
    + (UInt64.ofNat (nanoseconds % 1000000000)).toFloat / 1000000000

/-- Watchers are given the sample. -/
def publish (m : LinkMetrics) : LinkMetrics :=
  { m with watched := m.sample, published := m.published + 1 }

/-- The window is over at an instant. A clock that goes backwards stands still. -/
def windowOver (m : LinkMetrics) (instant : Nat) : Bool :=
  match m.windowStart with
  | none => false
  | some start => window ≤ instant - start

/-- Rates of the window are taken and a new one begins. -/
def closeWindow (m : LinkMetrics) (instant : Nat) : LinkMetrics :=
  let elapsed := seconds (instant - m.windowStart.getD instant)
  { m with
    sample := { m.sample with
      framesPerSecond := (UInt64.ofNat m.windowFrames).toFloat / elapsed
      bitsPerSecond := (UInt64.ofNat m.windowBytes * 8).toFloat / elapsed }
    windowFrames := 0
    windowBytes := 0
    windowStart := some instant }

/-- Close the window if it is over. -/
def roll (m : LinkMetrics) (instant : Nat) : LinkMetrics :=
  if m.windowOver instant then m.closeWindow instant else m

/-- Signed distance from the expected number to one received. -/
def distance (expected sequence : UInt32) : Int := (sequence - expected).toInt32.toInt

/-- Loss and reordering, from the sequence number. -/
def trackSequence (m : LinkMetrics) (sequence : UInt32) : LinkMetrics :=
  match m.expected with
  | none => { m with expected := some (sequence + 1) }
  | some expected =>
    let d := distance expected sequence
    if 0 ≤ d then
      { m with
        expected := some (sequence + 1)
        sample := { m.sample with lost := m.sample.lost + d.toNat } }
    else { m with sample := { m.sample with reordered := m.sample.reordered + 1 } }

/-- Mean of latencies; their sum is a 64-bit word. -/
def mean (latencies : List UInt64) : Float :=
  (latencies.foldl (· + ·) 0).toFloat / (UInt64.ofNat latencies.length).toFloat

/-- Mean square of the deviations from a mean. -/
def variance (latencies : List UInt64) (mean : Float) : Float :=
  (latencies.foldl (fun sum l => let d := l.toFloat - mean; sum + d * d) 0)
    / (UInt64.ofNat latencies.length).toFloat

/-- A latency in place of the oldest, once as many as are kept. -/
def remember (latencies : List UInt64) (l : UInt64) : List UInt64 :=
  (if latencies.length = latencySamples then latencies.tail else latencies) ++ [l]

/-- Latency, its mean and its spread. -/
def trackLatency (m : LinkMetrics) (now timestamp : UInt64) : LinkMetrics :=
  let l := Latency.between now timestamp
  let latencies := remember m.latencies l.milliseconds
  let mean := mean latencies
  { m with
    latencies
    sample := { m.sample with
      clockSkew := m.sample.clockSkew + l.clamped.toNat
      latency := l.milliseconds
      meanLatency := mean
      jitter := variance latencies mean } }

/-- The packet counts towards the open window. -/
def count (m : LinkMetrics) (p : Packet) : LinkMetrics :=
  { m with
    sample := { m.sample with received := m.sample.received + 1 }
    windowBytes := m.windowBytes + p.size
    windowFrames := m.windowFrames + (p.kind == .video).toNat }

/-- The first window begins with the first packet. -/
def begin (m : LinkMetrics) (instant : Nat) : LinkMetrics :=
  { m with windowStart := some (m.windowStart.getD instant) }

/-- A packet received at `now` milliseconds of the wall clock and `instant` of the monotonic one. -/
def record (m : LinkMetrics) (p : Packet) (now : UInt64) (instant : Nat) : LinkMetrics :=
  let m := ((m.roll instant).begin instant).count p
  ((m.trackSequence p.sequence).trackLatency now p.timestamp).publish

/-- Close the window if it is over, without a packet. -/
def tick (m : LinkMetrics) (instant : Nat) : LinkMetrics :=
  if m.windowOver instant then (m.closeWindow instant).publish else m

/-- The host numbers its packets anew; the counts carry on. -/
def newLink (m : LinkMetrics) : LinkMetrics := { m with expected := none }

/-- A new session. -/
def reset (m : LinkMetrics) : LinkMetrics := { published := m.published + 1 }

end LinkMetrics
end DeskStream
