import DeskStream.Metrics
import Mathlib.Algebra.BigOperators.Group.List.Basic
import Mathlib.Algebra.GroupWithZero.Nat
import Mathlib.Data.List.Chain
import Mathlib.Data.List.Induction
/-!
# Windows

Calls fall into windows: the first begins with the first packet, and each later one with the first call that comes a
second or more after the one before began (`Windowing`). At the end of each window the metrics have counted just what
its own calls record (`Windowing.ends`), and the call that begins the next one publishes the rates of that
(`windows_of_calls`).
-/

namespace DeskStream.LinkMetrics

open Wire

/-! ## Calls -/

/-- What can be asked of the metrics of a session, at any instants. -/
inductive Call where
  | record (p : Packet) (now : UInt64) (instant : Nat)
  | tick (instant : Nat)
  | newLink

namespace Call

def instant? : Call → Option Nat
  | record _ _ instant | tick instant => some instant
  | newLink => none

def packet? : Call → Option Packet
  | record p _ _ => some p
  | tick _ | newLink => none

end Call

def step (m : LinkMetrics) : Call → LinkMetrics
  | .record p now instant => m.record p now instant
  | .tick instant => m.tick instant
  | .newLink => m.newLink

def run (m : LinkMetrics) (calls : List Call) : LinkMetrics := calls.foldl step m

/-- What the packets that calls record come to. -/
def tally (worth : Packet → Nat) (calls : List Call) : Nat := ((calls.filterMap Call.packet?).map worth).sum

/-- The video packets that calls record. -/
def pictures (calls : List Call) : Nat := tally (fun p => if p.kind = .video then 1 else 0) calls

/-- The octets that calls record, thirteen of them in front of each payload. -/
def octets (calls : List Call) : Nat := tally (fun p => 13 + p.payload.length) calls

section
variable {worth : Packet → Nat} {m : LinkMetrics} {calls more : List Call}

theorem run_append : m.run (calls ++ more) = (m.run calls).run more := List.foldl_append

@[simp] theorem tally_append : tally worth (calls ++ more) = tally worth calls + tally worth more := by
  simp [tally]

theorem tally_cons (c : Call) (calls : List Call) : tally worth (c :: calls) = tally worth [c] + tally worth calls := by
  rw [← tally_append, List.singleton_append]

theorem tally_of_none (h : ∀ c ∈ calls, c.packet? = none) : tally worth calls = 0 := by
  have : calls.filterMap Call.packet? = [] := by simpa using h
  rw [tally, this]
  rfl

theorem pictures_le_octets (calls : List Call) : pictures calls ≤ octets calls := by
  unfold pictures octets tally
  induction calls.filterMap Call.packet? with
  | nil => exact Nat.le_refl _
  | cons p packets ih =>
    simp only [List.map_cons, List.sum_cons]
    split <;> omega

end

/-! ## Windows -/

/-- The call at which a window begins, when that is, and the calls after it, none of which finds the window over. -/
structure Window where
  opening : Call
  start : Nat
  others : List Call
  opens : opening.instant? = some start
  lasts : ∀ c ∈ others, ∀ instant ∈ c.instant?, instant < start + 1000000000

namespace Window

def calls (w : Window) : List Call := w.opening :: w.others

/-- The window goes on with a call. -/
def concat (w : Window) (c : Call) (h : ∀ instant ∈ c.instant?, instant < w.start + 1000000000) : Window :=
  { w with
    others := w.others ++ [c]
    lasts := by
      intro d hd
      rcases List.mem_append.1 hd with hd | hd
      · exact w.lasts d hd
      · obtain rfl := List.mem_singleton.1 hd
        exact h }

end Window

/-- Calls fall into windows. No packet comes before the first, which begins with one; each later one begins at a call
that finds the one before it over. -/
structure Windowing (calls idle : List Call) (windows : List Window) : Prop where
  calls : calls = idle ++ windows.flatMap Window.calls
  idle : ∀ c ∈ idle, c.packet? = none
  first : ∀ w ∈ windows.head?, w.opening.packet?.isSome
  apart : windows.IsChain fun w next => w.start + 1000000000 ≤ next.start

namespace Windowing
variable {calls idle : List Call} {windows before later : List Window} {w next : Window}

theorem nil : Windowing [] [] [] := ⟨rfl, List.forall_mem_nil _, nofun, .nil⟩

/-- The calls up to the end of a window fall into the windows up to that one. -/
theorem left (h : Windowing calls idle (before ++ later)) :
    Windowing (idle ++ before.flatMap Window.calls) idle before where
  calls := rfl
  idle := h.idle
  first w hw := h.first w (by rw [List.head?_append, Option.mem_def.1 hw, Option.some_or]; rfl)
  apart := h.apart.left_of_append

theorem start_le (h : Windowing calls idle (before ++ w :: next :: later)) : w.start + 1000000000 ≤ next.start := by
  have := h.apart.right_of_append
  exact (List.isChain_cons_cons.1 this).1

/-- There is one more call. It opens a window, or it goes with the calls before it. -/
theorem concat (h : Windowing calls idle windows) (c : Call) :
    ∃ idle windows, Windowing (calls ++ [c]) idle windows := by
  rcases List.eq_nil_or_concat windows with rfl | ⟨before, w, rfl⟩
  · have hcalls : calls = idle := by simpa using h.calls
    cases c with
    | record p now instant =>
      refine ⟨idle, [⟨.record p now instant, instant, [], rfl, List.forall_mem_nil _⟩], ?_, h.idle, ?_, .singleton _⟩
      · rw [hcalls]; rfl
      · rintro _ ⟨⟩; rfl
    | tick _ | newLink =>
      refine ⟨idle ++ [_], [], by rw [hcalls]; exact (List.append_nil _).symm, ?_, nofun, .nil⟩
      simpa [or_imp, forall_and, Call.packet?] using h.idle
  · rw [List.concat_eq_append] at h
    by_cases hc : ∃ instant, c.instant? = some instant ∧ w.start + 1000000000 ≤ instant
    · obtain ⟨instant, hi, hover⟩ := hc
      refine ⟨idle, before ++ [w] ++ [⟨c, instant, [], hi, List.forall_mem_nil _⟩], ?_, h.idle, ?_, ?_⟩
      · simp [h.calls, Window.calls]
      · intro v hv
        exact h.first v (by simpa [List.head?_append] using hv)
      · refine h.apart.append (.singleton _) ?_
        simpa using hover
    · have hlasts : ∀ instant ∈ c.instant?, instant < w.start + 1000000000 := by
        intro instant hi
        exact Nat.lt_of_not_le fun hover => hc ⟨instant, hi, hover⟩
      refine ⟨idle, before ++ [w.concat c hlasts], ?_, h.idle, ?_, ?_⟩
      · simp [h.calls, Window.calls, Window.concat]
      · intro v hv
        cases before with
        | nil =>
          obtain rfl := Option.some.inj hv
          exact h.first w rfl
        | cons first before => exact h.first v hv
      · have := List.isChain_append.1 h.apart
        exact this.1.append (.singleton _) (by simpa [Window.concat] using this.2.2)

theorem exists_of_calls (calls : List Call) : ∃ idle windows, Windowing calls idle windows := by
  induction calls using List.reverseRecOn with
  | nil => exact ⟨[], [], nil⟩
  | append_singleton calls c ih =>
    obtain ⟨idle, windows, h⟩ := ih
    exact h.concat c

end Windowing

/-! ## What is counted in a window -/

/-- The open window, and the rates of the one before it. -/
structure Gauge where
  start : Option Nat
  frames : Nat
  octets : Nat
  framesPerSecond : Float
  bitsPerSecond : Float

def gauge (m : LinkMetrics) : Gauge :=
  ⟨m.windowStart, m.windowFrames, m.windowBytes, m.sample.framesPerSecond, m.sample.bitsPerSecond⟩

section
variable {m : LinkMetrics} {c : Call} {calls : List Call} {start instant : Nat}

theorem gauge_trackSequence (m : LinkMetrics) (sequence : UInt32) : (m.trackSequence sequence).gauge = m.gauge := by
  unfold trackSequence
  split
  · rfl
  · simp only
    split <;> rfl

theorem gauge_record (m : LinkMetrics) (p : Packet) (now : UInt64) (instant : Nat) :
    (m.record p now instant).gauge = (((m.roll instant).begin instant).count p).gauge :=
  gauge_trackSequence ..

theorem windowOver_iff (h : m.windowStart = some start) :
    m.windowOver instant = true ↔ start + 1000000000 ≤ instant := by
  have hwindow : window = 1000000000 := rfl
  simp only [windowOver, h, decide_eq_true_eq]
  omega

theorem pictures_record (p : Packet) (now : UInt64) (instant : Nat) :
    pictures [.record p now instant] = (p.kind == .video).toNat := by
  obtain ⟨kind, _, _, _⟩ := p
  cases kind <;> rfl

theorem octets_record (p : Packet) (now : UInt64) (instant : Nat) : octets [.record p now instant] = p.size :=
  Nat.add_zero _

/-- Without a packet no first window begins. -/
theorem gauge_idle (h : m.windowStart = none) (hc : c.packet? = none) : (m.step c).gauge = m.gauge := by
  cases c with
  | record p now instant => cases hc
  | tick instant => rw [step, tick, windowOver, h, if_neg Bool.false_ne_true]
  | newLink => rfl

/-- The first packet begins the first window. -/
theorem gauge_first (h : m.windowStart = none) (hp : c.packet?.isSome) (hc : c.instant? = some instant) :
    (m.step c).gauge =
      { m.gauge with
        start := some instant, frames := m.windowFrames + pictures [c], octets := m.windowBytes + octets [c] } := by
  cases c with
  | record p now instant' =>
    obtain rfl : instant' = instant := Option.some.inj hc
    have hroll : m.roll instant' = m := by rw [roll, windowOver, h, if_neg Bool.false_ne_true]
    rw [step, gauge_record, hroll, pictures_record, octets_record]
    simp only [begin, count, gauge, h, Option.getD_none]
  | tick _ | newLink => cases hp

/-- A call that does not find the window over counts towards it. -/
theorem gauge_within (h : m.windowStart = some start) (hc : ∀ instant ∈ c.instant?, instant < start + 1000000000) :
    (m.step c).gauge =
      { m.gauge with frames := m.windowFrames + pictures [c], octets := m.windowBytes + octets [c] } := by
  have hopen {instant : Nat} (hi : c.instant? = some instant) : ¬ m.windowOver instant = true := by
    rw [windowOver_iff h]
    exact Nat.not_le_of_lt (hc instant hi)
  cases c with
  | record p now instant =>
    have hroll : m.roll instant = m := by rw [roll, if_neg (hopen rfl)]
    rw [step, gauge_record, hroll, pictures_record, octets_record]
    simp only [begin, count, gauge, h, Option.getD_some]
  | tick instant =>
    rw [step, tick, if_neg (hopen rfl)]
    rfl
  | newLink => rfl

/-- A call that finds the window over publishes its rates and begins the next one, to which it counts itself. -/
theorem gauge_over (h : m.windowStart = some start) (hc : c.instant? = some instant)
    (hover : start + 1000000000 ≤ instant) :
    (m.step c).watched = (m.step c).sample ∧
      (m.step c).gauge =
        { start := some instant, frames := pictures [c], octets := octets [c]
          framesPerSecond := (UInt64.ofNat m.windowFrames).toFloat / seconds (instant - start)
          bitsPerSecond := (UInt64.ofNat m.windowBytes * 8).toFloat / seconds (instant - start) } := by
  have hover := (windowOver_iff h).2 hover
  cases c with
  | record p now instant' =>
    obtain rfl : instant' = instant := Option.some.inj hc
    refine ⟨rfl, ?_⟩
    rw [step, gauge_record, roll, if_pos hover, pictures_record, octets_record]
    simp only [closeWindow, begin, count, gauge, h, Option.getD_some, Nat.zero_add]
  | tick instant' =>
    obtain rfl : instant' = instant := Option.some.inj hc
    rw [step, tick, if_pos hover]
    refine ⟨rfl, ?_⟩
    simp only [publish, closeWindow, gauge, h, Option.getD_some]
    rfl
  | newLink => cases hc

theorem gauge_run_idle (h : m.windowStart = none) (hc : ∀ c ∈ calls, c.packet? = none) :
    (m.run calls).gauge = m.gauge := by
  induction calls generalizing m with
  | nil => rfl
  | cons c calls ih =>
    obtain ⟨hc, hcalls⟩ := List.forall_mem_cons.1 hc
    have hg := gauge_idle h hc
    have hstart : (m.step c).windowStart = none := (congrArg Gauge.start hg).trans h
    exact (ih hstart hcalls).trans hg

theorem gauge_run_within (h : m.windowStart = some start)
    (hc : ∀ c ∈ calls, ∀ instant ∈ c.instant?, instant < start + 1000000000) :
    (m.run calls).gauge =
      { m.gauge with frames := m.windowFrames + pictures calls, octets := m.windowBytes + octets calls } := by
  induction calls generalizing m with
  | nil => rfl
  | cons c calls ih =>
    obtain ⟨hc, hcalls⟩ := List.forall_mem_cons.1 hc
    have hg := gauge_within h hc
    have hstart : (m.step c).windowStart = some start := (congrArg Gauge.start hg).trans h
    have hframes : (m.step c).windowFrames = m.windowFrames + pictures [c] := congrArg Gauge.frames hg
    have hoctets : (m.step c).windowBytes = m.windowBytes + octets [c] := congrArg Gauge.octets hg
    have hrest := ih hstart hcalls
    rw [hg, hframes, hoctets, Nat.add_assoc, Nat.add_assoc] at hrest
    rw [pictures, octets, tally_cons c calls, tally_cons c calls]
    exact hrest

end

/-! ## Windows of a run -/

/-- What metrics have at the end of a window: when it began, and the counts of its own calls. -/
structure Ends (m : LinkMetrics) (w : Window) : Prop where
  windowStart : m.windowStart = some w.start
  windowFrames : m.windowFrames = pictures w.calls
  windowBytes : m.windowBytes = octets w.calls

section
variable {m : LinkMetrics} {w v : Window} {calls idle : List Call} {windows before later : List Window}

theorem Ends.of_opening (hstart : (m.step w.opening).windowStart = some w.start)
    (hframes : (m.step w.opening).windowFrames = pictures [w.opening])
    (hoctets : (m.step w.opening).windowBytes = octets [w.opening]) : Ends (m.run w.calls) w := by
  have hg : ((m.step w.opening).run w.others).gauge = _ := gauge_run_within hstart w.lasts
  refine ⟨(congrArg Gauge.start hg).trans hstart, (congrArg Gauge.frames hg).trans ?_,
    (congrArg Gauge.octets hg).trans ?_⟩
  · rw [hframes]
    exact (tally_cons w.opening w.others).symm
  · rw [hoctets]
    exact (tally_cons w.opening w.others).symm

theorem Ends.first (h : m.gauge = gauge {}) (hw : w.opening.packet?.isSome) :
    Ends (m.run w.calls) w := by
  have hg := gauge_first (congrArg Gauge.start h) hw w.opens
  refine .of_opening (congrArg Gauge.start hg) ((congrArg Gauge.frames hg).trans ?_)
    ((congrArg Gauge.octets hg).trans ?_)
  · rw [show m.windowFrames = 0 from congrArg Gauge.frames h]
    exact Nat.zero_add _
  · rw [show m.windowBytes = 0 from congrArg Gauge.octets h]
    exact Nat.zero_add _

theorem Ends.next (h : Ends m w) (hv : w.start + 1000000000 ≤ v.start) : Ends (m.run v.calls) v := by
  obtain ⟨-, hg⟩ := gauge_over h.windowStart v.opens hv
  exact .of_opening (congrArg Gauge.start hg) (congrArg Gauge.frames hg) (congrArg Gauge.octets hg)

theorem Windowing.gauge_idle (h : Windowing calls idle windows) (hm : m.gauge = gauge {}) :
    (m.run idle).gauge = gauge {} :=
  (gauge_run_idle (congrArg Gauge.start hm) h.idle).trans hm

/-- By the end of a window its own calls are counted, and no others. -/
theorem Windowing.ends (h : Windowing calls idle (before ++ [w])) (hm : m.gauge = gauge {}) : Ends (m.run calls) w := by
  induction before using List.reverseRecOn generalizing w calls with
  | nil =>
    have hcalls : calls = idle ++ w.calls := by simpa using h.calls
    rw [hcalls, run_append]
    exact .first (h.gauge_idle hm) (h.first w rfl)
  | append_singleton before v ih =>
    have hleft := h.left
    have hcalls : calls = (idle ++ (before ++ [v]).flatMap Window.calls) ++ w.calls := by simp [h.calls]
    have hstart : v.start + 1000000000 ≤ w.start := by
      rw [List.append_assoc] at h
      exact h.start_le
    rw [hcalls, run_append]
    exact (ih hleft).next hstart

theorem tally_flatMap (worth : Packet → Nat) (windows : List Window) :
    tally worth (windows.flatMap Window.calls) = (windows.map fun w => tally worth w.calls).sum := by
  induction windows with
  | nil => rfl
  | cons w windows ih => rw [List.flatMap_cons, tally_append, ih, List.map_cons, List.sum_cons]

/-- Each packet is counted in one window: in a closed one, or in the one that is open now. -/
theorem Windowing.tally_eq (worth : Packet → Nat) (h : Windowing calls idle windows) :
    tally worth calls =
      (windows.dropLast.map fun w => tally worth w.calls).sum +
        tally worth ((windows.getLast?.map Window.calls).getD []) := by
  rw [h.calls, tally_append, tally_of_none h.idle, Nat.zero_add, tally_flatMap]
  rcases List.eq_nil_or_concat windows with rfl | ⟨closed, w, rfl⟩
  · rfl
  · simp

/-- What is counted now is what the last window has recorded. -/
theorem Windowing.counted (h : Windowing calls idle windows) (hm : m.gauge = gauge {}) :
    (m.run calls).windowFrames = pictures ((windows.getLast?.map Window.calls).getD []) ∧
      (m.run calls).windowBytes = octets ((windows.getLast?.map Window.calls).getD []) := by
  rcases List.eq_nil_or_concat windows with rfl | ⟨closed, w, rfl⟩
  · have hcalls : calls = idle := by simpa using h.calls
    have hg := h.gauge_idle hm
    rw [hcalls]
    exact ⟨congrArg Gauge.frames hg, congrArg Gauge.octets hg⟩
  · rw [List.concat_eq_append] at h ⊢
    have hends := h.ends hm
    rw [List.getLast?_concat]
    exact ⟨hends.windowFrames, hends.windowBytes⟩

/-- The words from which the rates of a window are computed are its counts. -/
theorem Ends.published (h : Ends m w) (hv : w.start + 1000000000 ≤ v.start) (hoctets : octets w.calls < 2 ^ 61) :
    let elapsed := v.start - w.start
    let time := (UInt64.ofNat (elapsed / 1000000000)).toFloat +
      (UInt64.ofNat (elapsed % 1000000000)).toFloat / 1000000000
    ∃ frames bits : UInt64, frames.toNat = pictures w.calls ∧ bits.toNat = octets w.calls * 8 ∧
      (m.step v.opening).watched.framesPerSecond = frames.toFloat / time ∧
      (m.step v.opening).watched.bitsPerSecond = bits.toFloat / time := by
  intro elapsed time
  obtain ⟨hwatched, hg⟩ := gauge_over h.windowStart v.opens hv
  have hframes := pictures_le_octets w.calls
  refine ⟨.ofNat (pictures w.calls), .ofNat (octets w.calls) * 8, ?_, ?_, ?_, ?_⟩
  · rw [UInt64.toNat_ofNat_of_lt' (by change _ < 2 ^ 64; omega)]
  · rw [UInt64.toNat_mul, UInt64.toNat_ofNat_of_lt' (by change _ < 2 ^ 64; omega)]
    exact Nat.mod_eq_of_lt (by change _ * 8 < _; omega)
  · rw [hwatched, ← h.windowFrames]
    exact congrArg Gauge.framesPerSecond hg
  · rw [hwatched, ← h.windowBytes]
    exact congrArg Gauge.bitsPerSecond hg

end

/-- After a reset any calls fall into windows. The video packets and the octets of the closed windows and those counted
now are all that were recorded. At the end of each window the counts are those of its own calls, and the call that
begins the next one, a second or more after the start, publishes their quotients by the time between the two starts: its
whole seconds, and its other nanoseconds over a thousand million. -/
theorem windows_of_calls (m : LinkMetrics) (calls : List Call) :
    let after (done : List Call) := m.reset.run done
    (∃ idle windows, Windowing calls idle windows) ∧
      ∀ idle windows, Windowing calls idle windows →
        (windows.dropLast.map (pictures ·.calls)).sum + (after calls).windowFrames = pictures calls ∧
        (windows.dropLast.map (octets ·.calls)).sum + (after calls).windowBytes = octets calls ∧
        (∀ before w later, windows = before ++ w :: later →
          Ends (after (idle ++ (before ++ [w]).flatMap Window.calls)) w) ∧
        ∀ before w next later, windows = before ++ w :: next :: later → octets w.calls < 2 ^ 61 →
          let closing := after (idle ++ (before ++ [w]).flatMap Window.calls ++ [next.opening])
          let elapsed := next.start - w.start
          let time := (UInt64.ofNat (elapsed / 1000000000)).toFloat +
            (UInt64.ofNat (elapsed % 1000000000)).toFloat / 1000000000
          w.start + 1000000000 ≤ next.start ∧
            ∃ frames bits : UInt64, frames.toNat = pictures w.calls ∧ bits.toNat = octets w.calls * 8 ∧
              closing.watched.framesPerSecond = frames.toFloat / time ∧
              closing.watched.bitsPerSecond = bits.toFloat / time := by
  intro after
  have hm : m.reset.gauge = gauge {} := rfl
  refine ⟨Windowing.exists_of_calls calls, fun idle windows h => ⟨?_, ?_, ?_, ?_⟩⟩
  · rw [(h.counted hm).1]
    exact (h.tally_eq _).symm
  · rw [(h.counted hm).2]
    exact (h.tally_eq _).symm
  · rintro before w later rfl
    rw [List.append_cons] at h
    exact h.left.ends hm
  · rintro before w next later rfl hoctets closing
    have hnext := h.start_le
    rw [List.append_cons] at h
    have hclosing : closing = (after (idle ++ (before ++ [w]).flatMap Window.calls)).step next.opening := run_append
    rw [hclosing]
    exact ⟨hnext, (h.left.ends hm).published hnext hoctets⟩

/-- Two pictures of a hundred octets together, with their headers, and a tick two and a half seconds after the first. -/
def pause : List Call :=
  [.record ⟨.video, 0, 1, List.replicate 37 0⟩ 0 7, .record ⟨.video, 0, 2, List.replicate 37 0⟩ 0 600000000,
    .tick 2500000007]

/-- Four fifths of a picture in a second, and 320 bits. -/
theorem windows_of_calls_pause :
    let after := (reset {}).run pause
    after.watched.framesPerSecond = 0.8 ∧ after.watched.bitsPerSecond = 320 := by
  intro after
  let first : Window :=
    { opening := .record ⟨.video, 0, 1, List.replicate 37 0⟩ 0 7
      start := 7
      others := [.record ⟨.video, 0, 2, List.replicate 37 0⟩ 0 600000000]
      opens := rfl
      lasts := by simp [Call.instant?] }
  let second : Window := ⟨.tick 2500000007, 2500000007, [], rfl, List.forall_mem_nil _⟩
  have hwindows : Windowing pause [] [first, second] :=
    ⟨rfl, List.forall_mem_nil _, by simp [first, Call.packet?], by simp [first, second]⟩
  obtain ⟨-, -, -, hrates⟩ := (windows_of_calls {} pause).2 [] _ hwindows
  obtain ⟨-, frames, bits, hframes, hbits, hfps, hbps⟩ := hrates [] first second [] rfl (by decide)
  have hframes : frames = 2 := UInt64.toNat_inj.1 (hframes.trans (by decide))
  have hbits : bits = 800 := UInt64.toNat_inj.1 (hbits.trans (by decide))
  rw [hframes] at hfps
  rw [hbits] at hbps
  exact ⟨hfps.trans (by decide +kernel), hbps.trans (by decide +kernel)⟩

end DeskStream.LinkMetrics
