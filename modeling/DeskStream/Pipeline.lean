import DeskStream.Audio.Path
import DeskStream.Wire.Packet
import DeskStream.Video.Path
/-!
# From packets to pictures and sound

Video goes through a worker to the presentation queue, audio straight to the renderer. The two paths
share nothing but the entry and the reset.
-/

namespace DeskStream

open Wire

/-- Limits and the volume to start with. -/
structure PipelineConfig where
  decodeQueueCapacity : Nat := 8
  presentationQueueCapacity : Nat := 3
  failureThreshold : Nat := 3
  volume : Float32 := 1

def PipelineConfig.videoLimits (c : PipelineConfig) : VideoLimits :=
  ⟨c.decodeQueueCapacity, c.presentationQueueCapacity, c.failureThreshold⟩

/-- The two paths of media packets. -/
structure Pipeline where
  video : VideoPath
  audio : AudioPath

namespace Pipeline

def ofConfig (c : PipelineConfig) (format : PcmFormat) : Pipeline :=
  ⟨.ofLimits c.videoLimits, .ofVolume format c.volume⟩

/-- Route a packet to its path; what is neither video nor audio passes by. -/
def submit (p : Pipeline) (packet : Packet) : Pipeline × Except DecodeError Unit :=
  match packet.kind with
  | .video =>
    let (video, r) := p.video.submit packet.payload packet.timestamp
    ({ p with video }, r)
  | .audio =>
    let (audio, r) := p.audio.submit packet.payload packet.timestamp
    ({ p with audio }, r)
  | _ => (p, .ok ())

/-- Stop decoding and forget what was played; the next frame starts afresh. -/
def reset (p : Pipeline) : Pipeline := ⟨p.video.reset, p.audio.reset⟩

def setVolume (p : Pipeline) (volume : Float32) : Pipeline :=
  { p with audio := p.audio.setVolume volume }

def pop (p : Pipeline) : Pipeline × Option DecodedFrame :=
  let (video, f) := p.video.pop
  ({ p with video }, f)

/-- The names and values of all counts. -/
def counts (p : Pipeline) : List (String × Nat) :=
  let v := p.video.stats
  let a := p.audio.stats
  [("frames_submitted", v.submitted),
   ("dropped_decode_queue_full", v.refused),
   ("frames_decoded", v.decoded),
   ("frames_presented", v.presented),
   ("dropped_late", v.late),
   ("dropped_presentation_overflow", p.video.frames.dropped),
   ("decode_failures", v.failures),
   ("sessions_opened", v.sessionsOpened),
   ("session_recreations", v.sessionsRecreated),
   ("audio_buffers", a.buffers),
   ("audio_silence_buffers", a.silenceBuffers),
   ("audio_decode_failures", a.failures)]

end Pipeline
end DeskStream
