import DeskStream.Pipeline
import DeskStream.Rehearsal.Decoder
/-!
# A pipeline on a virtual clock

After every operation the worker runs until it waits. The clock moves a millisecond at a time.
-/

namespace DeskStream.Rehearsal

open Wire

/-- A pipeline, its video decoder and the time in milliseconds. -/
structure Playout where
  pipeline : Pipeline
  decoder : Decoder
  now : Nat := 0

namespace Playout

/-- The worker runs until it waits. -/
def settle (p : Playout) : Playout :=
  let (decoder, video) := p.decoder.work p.now p.pipeline.video
  { p with decoder, pipeline := { p.pipeline with video } }

/-- Packets are submitted before the worker takes any; what is no packet has no result. -/
def submitAll (p : Playout) (packets : List (Option Packet)) :
    Playout × List (Option (Except DecodeError Unit)) :=
  let (pipeline, results) := packets.foldl (fun (pipeline, results) packet =>
    match packet with
    | none => (pipeline, results ++ [none])
    | some packet =>
      let (pipeline, r) := pipeline.submit packet
      (pipeline, results ++ [some r])) (p.pipeline, [])
  ({ p with pipeline }.settle, results)

/-- At most `limit` frames are taken for presentation. -/
def take : Nat → Pipeline → Pipeline × List DecodedFrame
  | 0, p => (p, [])
  | n + 1, p =>
    match p.pop with
    | (p, none) => (p, [])
    | (p, some f) => let (p, fs) := take n p; (p, f :: fs)

/-- Take at most `limit` frames, or all of them. -/
def pop (p : Playout) (limit : Option Nat) : Playout × List DecodedFrame :=
  let waiting := p.pipeline.video.frames.items.length
  let (pipeline, fs) := take (min waiting (limit.getD waiting)) p.pipeline
  ({ p with pipeline }.settle, fs)

def reset (p : Playout) : Playout := { p with pipeline := p.pipeline.reset }.settle

/-- The clock moves on by a number of milliseconds. -/
def advance : Nat → Playout → Playout
  | 0, p => p
  | n + 1, p => advance n { p with now := p.now + 1 }.settle

end Playout
end DeskStream.Rehearsal
