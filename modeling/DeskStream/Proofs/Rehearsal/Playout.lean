import DeskStream.Proofs.Video.Moves
import DeskStream.Rehearsal.Playout
/-!
# What is done with a pipeline on a clock

A pipeline is given commands, with a scripted decoder and a clock that moves on command. Each thing the
worker does leaves it less to do (`workload_work_lt`), so after a command it has come to where it waits
(`waits_perform`), and from there it does nothing by itself (`settle_of_waits`).
-/

namespace DeskStream

open Wire

namespace Rehearsal

open VideoPath (Move)

namespace Decoder

variable {d d' : Decoder} {now n : Nat} {v : VideoPath} {action : VideoPath.Action}

/-- Each thing the worker does leaves it less to do. -/
theorem workload_work_lt (h : d.act now v = some (d', action)) : workload (v.work action) < workload v := by
  obtain ⟨w, hw⟩ : ∃ w, v.worker = some w := by
    cases hw : v.worker with
    | none => simp [act, hw] at h
    | some w => exact ⟨w, rfl⟩
  have hm := VideoPath.move v (.work action)
  change Move v _ (v.work action) _ _ at hm
  generalize v.work action = v', v.note (.work action) = log, v.losses (.work action) = ledger at hm
  cases hm with
  | rest accepted hr =>
    -- It would not be the next thing.
    rcases w with ⟨_ | ⟨job, jobs⟩, _ | current, session, failures⟩ <;>
      simp_all [act, VideoPath.workerOrIdle, VideoPath.current?]
  | idle outcome hc =>
    rcases w with ⟨_ | ⟨job, jobs⟩, _ | current, session, failures⟩ <;>
      simp_all [act, VideoPath.workerOrIdle, VideoPath.current?]
  | reuse _ hw | reopen hw | unopened _ hw | late _ hw | present _ hw | fail _ hw | recreate _ hw =>
    simp only [workload, hw, List.length_cons, Option.toList_none, Option.toList_some, List.length_nil]
    omega

theorem act_workAtMost (h : workload v ≤ n) :
    (workAtMost n now d v).1.act now (workAtMost n now d v).2 = none := by
  induction n generalizing d v with
  | zero =>
    cases ha : d.act now v with
    | none => exact ha
    | some x =>
      have hlt : workload (v.work x.2) < workload v := workload_work_lt ha
      omega
  | succ n ih =>
    rw [workAtMost]
    split
    · assumption
    · rename_i d' action ha
      have hlt := workload_work_lt ha
      exact ih (by omega)

theorem work_of_waiting (h : d.act now v = none) : d.work now v = (d, v) := by
  unfold work
  cases workload v with
  | zero => rfl
  | succ n => rw [workAtMost, h]

end Decoder

namespace Playout

variable {p q : Playout}

/-- What may be done with a pipeline, its decoder and the clock. -/
inductive Command where
  /-- Packets are submitted, before the worker takes any. -/
  | submit (packets : List Packet)
  | pop (limit : Option Nat)
  | reset
  | setVolume (volume : Float32)
  /-- The decoder is told what its next calls come to, and how long the calls to come take. -/
  | expect (outcomes : List Bool)
  | hold (milliseconds : Nat)
  | advance (milliseconds : Nat)

/-- What is given back: results of packets, and frames. -/
structure Reply where
  results : List (Packet × Option (Except DecodeError Unit)) := []
  frames : List DecodedFrame := []

def perform (p : Playout) : Command → Playout × Reply
  | .submit packets =>
    let (q, results) := p.submitAll (packets.map some)
    (q, { results := packets.zip results })
  | .pop limit =>
    let (q, frames) := p.pop limit
    (q, { frames })
  | .reset => (p.reset, {})
  | .setVolume volume => ({ p with pipeline := p.pipeline.setVolume volume }, {})
  | .expect outcomes => ({ p with decoder := p.decoder.expect outcomes }, {})
  | .hold milliseconds => ({ p with decoder := { p.decoder with hold := milliseconds } }, {})
  | .advance milliseconds => (p.advance milliseconds, {})

def run (p : Playout) (commands : List Command) : Playout := commands.foldl (fun p c => (p.perform c).1) p

/-! ## Until the worker waits -/

/-- The worker waits, for a frame or for the decoder. -/
def Waits (p : Playout) : Prop := p.decoder.act p.now p.pipeline.video = none

theorem waits_settle (p : Playout) : p.settle.Waits := Decoder.act_workAtMost (Nat.le_refl _)

theorem settle_of_waits (h : p.Waits) : p.settle = p := by
  rw [settle, Decoder.work_of_waiting h]

/-- Whether the worker waits does not depend on the script. -/
theorem act_isNone_congr (d d' : Decoder) (h : d.due = d'.due) (now : Nat) (v : VideoPath) :
    d.act now v = none ↔ d'.act now v = none := by
  unfold Decoder.act
  rcases v.worker with _ | ⟨_ | ⟨job, jobs⟩, _ | current, session, failures⟩ <;> simp [h]

theorem waits_advance (h : p.Waits) (ms : Nat) : (p.advance ms).Waits := by
  induction ms generalizing p with
  | zero => exact h
  | succ n ih => exact ih (waits_settle _)

theorem waits_perform (h : p.Waits) (c : Command) : (p.perform c).1.Waits := by
  cases c with
  | submit | pop | reset => exact waits_settle _
  | setVolume => exact h
  | expect outcomes => exact (act_isNone_congr (p.decoder.expect outcomes) p.decoder rfl ..).2 h
  | hold ms => exact (act_isNone_congr { p.decoder with hold := ms } p.decoder rfl ..).2 h
  | advance ms => exact waits_advance h ms

/-! ## Packets submitted at once -/

/-- Packets are submitted in order, with their results. -/
def submits (p : Pipeline) : List Packet → Pipeline × List (Option (Except DecodeError Unit))
  | [] => (p, [])
  | packet :: packets =>
    let (q, r) := p.submit packet
    let (q, results) := submits q packets
    (q, some r :: results)

theorem foldl_submits (p : Pipeline) (packets : List Packet) (results : List (Option (Except DecodeError Unit))) :
    packets.foldl (fun x packet => ((x.1.submit packet).1, x.2 ++ [some (x.1.submit packet).2])) (p, results) =
      ((submits p packets).1, results ++ (submits p packets).2) := by
  induction packets generalizing p results with
  | nil => simp [submits]
  | cons packet packets ih => simp only [List.foldl_cons, ih, submits, List.append_assoc, List.singleton_append]

theorem submitAll_eq (p : Playout) (packets : List Packet) :
    p.submitAll (packets.map some) =
      ({ p with pipeline := (submits p.pipeline packets).1 }.settle, (submits p.pipeline packets).2) := by
  simp only [submitAll, List.foldl_map, foldl_submits, List.nil_append]

theorem perform_submit (p : Playout) (packets : List Packet) :
    p.perform (.submit packets) =
      ({ p with pipeline := (submits p.pipeline packets).1 }.settle,
        { results := packets.zip (submits p.pipeline packets).2 }) := by
  simp only [perform, submitAll_eq]

end Playout
end Rehearsal
end DeskStream
