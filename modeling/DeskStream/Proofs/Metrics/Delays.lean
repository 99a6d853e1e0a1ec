import DeskStream.Proofs.Metrics.Windows
import Mathlib.Algebra.Group.Action.Defs
import Mathlib.Algebra.Order.BigOperators.Group.List
import Mathlib.Algebra.Order.Ring.Nat
import Mathlib.Data.List.DropRight
/-!
# Latencies

What metrics know of latencies is a matter of the packets recorded: nothing else touches it (`delays_step`), so what is
kept are the newest 32 (`latencies_of_calls`). Their sum is a 64-bit word, and with the local clock below 2⁵⁹ it does
not wrap, whatever the packets are stamped.
-/

namespace DeskStream.LinkMetrics

open Wire

/-! ## What there is to know -/

namespace Call

def now? : Call → Option UInt64
  | record _ now _ => some now
  | tick _ | newLink => none

def latency? : Call → Option Latency
  | record p now _ => some (.between now p.timestamp)
  | tick _ | newLink => none

/-- How long a packet took, and nothing if it is stamped later than it is received. -/
def wait? : Call → Option Nat
  | record p now _ => some (now.toNat - p.timestamp.toNat)
  | tick _ | newLink => none

/-- A packet is recorded that is stamped later. -/
def isAhead : Call → Bool
  | record p now _ => decide (now < p.timestamp)
  | tick _ | newLink => false

end Call

/-- How long each packet took, in the order in which they came. -/
def waits (calls : List Call) : List Nat := calls.filterMap Call.wait?

/-- What metrics know of latencies. -/
structure Delays where
  latencies : List UInt64 := []
  latency : UInt64 := 0
  mean : Float := 0
  jitter : Float := 0
  clockSkew : Nat := 0

def delays (m : LinkMetrics) : Delays :=
  ⟨m.latencies, m.sample.latency, m.sample.meanLatency, m.sample.jitter, m.sample.clockSkew⟩

/-- One packet more. -/
def Delays.add (d : Delays) (l : Latency) : Delays :=
  let latencies := remember d.latencies l.milliseconds
  ⟨latencies, l.milliseconds, LinkMetrics.mean latencies, variance latencies (LinkMetrics.mean latencies),
    d.clockSkew + l.clamped.toNat⟩

section
variable {m : LinkMetrics} {calls : List Call}

theorem delays_roll (m : LinkMetrics) (instant : Nat) : (m.roll instant).delays = m.delays := by
  unfold roll
  split <;> rfl

theorem delays_trackSequence (m : LinkMetrics) (sequence : UInt32) : (m.trackSequence sequence).delays = m.delays := by
  unfold trackSequence
  split
  · rfl
  · dsimp only
    split <;> rfl

/-- Packets alone change it. Windows that close and links that change do not. -/
theorem delays_step (m : LinkMetrics) (c : Call) :
    (m.step c).delays = match c.latency? with
      | some l => m.delays.add l
      | none => m.delays := by
  cases c with
  | record p now instant =>
    change (((((m.roll instant).begin instant).count p).trackSequence p.sequence).delays).add _ = _
    rw [delays_trackSequence]
    change ((m.roll instant).delays).add _ = _
    rw [delays_roll]
    rfl
  | tick instant =>
    change (if m.windowOver instant then (m.closeWindow instant).publish else m).delays = m.delays
    split <;> rfl
  | newLink => rfl

theorem delays_run (m : LinkMetrics) (calls : List Call) :
    (m.run calls).delays = (calls.filterMap Call.latency?).foldl Delays.add m.delays := by
  induction calls generalizing m with
  | nil => rfl
  | cons c calls ih =>
    rw [run, List.foldl_cons, ← run, ih, delays_step]
    cases hc : c.latency? with
    | none => rw [List.filterMap_cons_none hc]
    | some l => rw [List.filterMap_cons_some hc, List.foldl_cons]

end

/-! ## The newest ones -/

/-- The oldest makes room, once there are as many as are kept. -/
theorem remember_rtake (ls : List UInt64) (l : UInt64) :
    remember (ls.rtake latencySamples) l = (ls ++ [l]).rtake latencySamples := by
  have hroom : (if (ls.rtake latencySamples).length = latencySamples then (ls.rtake latencySamples).tail
      else ls.rtake latencySamples) = ls.rtake 31 := by
    unfold latencySamples List.rtake
    rw [List.length_drop]
    split
    · rw [List.tail_drop]
      congr 1
      omega
    · congr 1
      omega
  rw [remember, hroom]
  exact (List.rtake_concat_succ ls 31 l).symm

/-- What is known after packets that took so long. -/
structure Delays.After (d : Delays) (ls : List Latency) : Prop where
  latencies : d.latencies = (ls.map Latency.milliseconds).rtake latencySamples
  latency : d.latency = (ls.getLast?.map Latency.milliseconds).getD 0
  clockSkew : d.clockSkew = ls.countP Latency.clamped
  mean : ls ≠ [] → d.mean = LinkMetrics.mean d.latencies
  jitter : ls ≠ [] → d.jitter = variance d.latencies d.mean

namespace Delays.After
variable {d : Delays} {ls : List Latency}

theorem nil : After {} [] := ⟨rfl, rfl, rfl, (absurd rfl ·), (absurd rfl ·)⟩

theorem add (h : d.After ls) (l : Latency) : (d.add l).After (ls ++ [l]) where
  latencies := by
    rw [Delays.add, h.latencies, remember_rtake, List.map_append]
    rfl
  latency := by
    rw [List.getLast?_concat]
    rfl
  clockSkew := by
    rw [Delays.add, h.clockSkew, List.countP_append, List.countP_singleton]
    cases l.clamped <;> rfl
  mean _ := rfl
  jitter _ := rfl

theorem foldl (ls : List Latency) : (ls.foldl Delays.add {}).After ls := by
  induction ls using List.reverseRecOn with
  | nil => exact nil
  | append_singleton ls l ih =>
    rw [List.foldl_concat]
    exact ih.add l

end Delays.After

/-! ## Their sum -/

/-- A sum of words that fits a word is the sum of what they stand for. -/
theorem toNat_foldl_add {ls : List UInt64} {sum : UInt64} (h : sum.toNat + (ls.map UInt64.toNat).sum < 2 ^ 64) :
    (ls.foldl (· + ·) sum).toNat = sum.toNat + (ls.map UInt64.toNat).sum := by
  induction ls generalizing sum with
  | nil => rfl
  | cons l ls ih =>
    rw [List.map_cons, List.sum_cons] at h ⊢
    have hl : (sum + l).toNat = sum.toNat + l.toNat := by
      rw [UInt64.toNat_add]
      exact Nat.mod_eq_of_lt (by omega)
    rw [List.foldl_cons, ih (by omega), hl, Nat.add_assoc]

theorem waits_eq (calls : List Call) :
    waits calls = ((calls.filterMap Call.latency?).map Latency.milliseconds).map UInt64.toNat := by
  rw [List.map_map, List.map_filterMap, waits]
  congr 1
  funext c
  cases c with
  | record p now instant => exact congrArg some (Latency.toNat_between now p.timestamp).symm
  | tick _ | newLink => rfl

theorem countP_clamped (calls : List Call) :
    (calls.filterMap Call.latency?).countP Latency.clamped = calls.countP Call.isAhead := by
  rw [List.countP_filterMap]
  congr 1
  funext c
  cases c with
  | record p now instant =>
    simp only [Call.latency?, Latency.between, Call.isAhead, Option.map_some, Option.getD_some]
    split
    · rename_i hle
      exact (decide_eq_false (UInt64.not_lt.2 hle)).symm
    · rename_i hle
      exact (decide_eq_true (UInt64.not_le.1 hle)).symm
  | tick _ | newLink => rfl

/-- The squares of the deviations from a mean, added up from the oldest on, over how many there are. -/
theorem variance_eq (ls : List UInt64) (mean : Float) :
    variance ls mean =
      ((ls.map UInt64.toNat).map fun w =>
          ((UInt64.ofNat w).toFloat - mean) * ((UInt64.ofNat w).toFloat - mean)).foldl (· + ·) 0 /
        (UInt64.ofNat ls.length).toFloat := by
  rw [variance, List.map_map, List.foldl_map]
  simp only [Function.comp_apply, UInt64.ofNat_toNat]

/-- With local clocks below 2⁵⁹ the newest latencies come to less than 2⁶⁴. -/
theorem sum_waits_lt {calls : List Call} (h : ∀ now ∈ calls.filterMap Call.now?, now.toNat < 2 ^ 59) :
    ((waits calls).rtake latencySamples).sum < 2 ^ 64 := by
  have hwait : ∀ w ∈ waits calls, w ≤ 2 ^ 59 - 1 := by
    intro w hw
    obtain ⟨c, hc, hw⟩ := List.mem_filterMap.1 hw
    cases c with
    | record p now instant =>
      obtain rfl := Option.some.inj hw
      have : now.toNat < 2 ^ 59 := h now (List.mem_filterMap.2 ⟨_, hc, rfl⟩)
      omega
    | tick _ | newLink => cases hw
  have hsum := List.sum_le_card_nsmul ((waits calls).rtake latencySamples) (2 ^ 59 - 1)
    fun w hw => hwait w (List.mem_of_mem_drop hw)
  have hlen : ((waits calls).rtake latencySamples).length ≤ 32 := by
    rw [List.rtake, List.length_drop, latencySamples]
    omega
  rw [smul_eq_mul] at hsum
  have := Nat.mul_le_mul_right (2 ^ 59 - 1) hlen
  omega

/-- Since a reset, whatever windows close and links change: the latencies kept are those of the newest 32 packets, or of
all if they are fewer, in the order in which they came; the newest is the one told; packets stamped later than they are
received are counted. While the local clock is below 2⁵⁹ no sum of those kept wraps, so that the mean is of just these
values, and so is the spread: the squares of their deviations from the mean, added up from the oldest on, over how many
they are. -/
theorem latencies_of_calls (m : LinkMetrics) (calls : List Call) :
    let after := m.reset.run calls
    let newest := (waits calls).rtake 32
    after.latencies.map UInt64.toNat = newest ∧
    after.sample.latency.toNat = (waits calls).getLast?.getD 0 ∧
    after.sample.clockSkew = calls.countP Call.isAhead ∧
    ((∀ now ∈ calls.filterMap Call.now?, now.toNat < 2 ^ 59) →
      newest.sum < 2 ^ 64 ∧ (after.latencies.foldl (· + ·) 0).toNat = newest.sum ∧
      (waits calls ≠ [] →
        after.sample.meanLatency =
          (UInt64.ofNat newest.sum).toFloat / (UInt64.ofNat newest.length).toFloat ∧
        after.sample.jitter =
          (newest.map fun w =>
              ((UInt64.ofNat w).toFloat - after.sample.meanLatency) *
                ((UInt64.ofNat w).toFloat - after.sample.meanLatency)).foldl (· + ·) 0 /
            (UInt64.ofNat newest.length).toFloat)) := by
  intro after newest
  have hd : after.delays.After (calls.filterMap Call.latency?) := by
    rw [show after.delays = _ from delays_run m.reset calls]
    exact .foldl _
  have hlatencies : after.latencies.map UInt64.toNat = newest := by
    rw [show after.latencies = _ from hd.latencies, List.rtake, List.map_drop, ← waits_eq,
      ← List.length_map UInt64.toNat, ← waits_eq]
    rfl
  have hlatency : after.sample.latency.toNat = (waits calls).getLast?.getD 0 := by
    rw [show after.sample.latency = _ from hd.latency, waits_eq, List.getLast?_map, List.getLast?_map]
    cases (calls.filterMap Call.latency?).getLast? <;> rfl
  refine ⟨hlatencies, hlatency, hd.clockSkew.trans (countP_clamped calls), fun hnow => ?_⟩
  have hlt : newest.sum < 2 ^ 64 := sum_waits_lt hnow
  have hsum : (after.latencies.foldl (· + ·) 0).toNat = newest.sum := by
    rw [toNat_foldl_add (by rw [hlatencies]; exact (Nat.zero_add _).symm ▸ hlt), hlatencies]
    exact Nat.zero_add _
  refine ⟨hlt, hsum, fun hany => ?_⟩
  have hany : calls.filterMap Call.latency? ≠ [] := by
    rintro hnone
    exact hany (by rw [waits_eq, hnone]; rfl)
  have hlen : after.latencies.length = newest.length := by rw [← hlatencies, List.length_map]
  constructor
  · rw [show after.sample.meanLatency = _ from hd.mean hany, ← hsum, ← hlen, UInt64.ofNat_toNat]
    rfl
  · rw [show after.sample.jitter = _ from hd.jitter hany, variance_eq, ← hlatencies, List.length_map]
    rfl

/-- The greatest latency in bounds, then a packet from as far ahead as can be: the mean is 2⁵⁸, and so is the deviation
of each from it. -/
theorem latencies_of_calls_ahead :
    let calls : List Call :=
      [.record ⟨.video, 0, 1, []⟩ 0x7ffffffffffffff 0, .tick 1000000000, .newLink,
        .record ⟨.audio, 0xffffffffffffffff, 1, []⟩ 5 1000000001]
    let after := (reset {}).run calls
    (∀ now ∈ calls.filterMap Call.now?, now.toNat < 2 ^ 59) ∧
      (after.latencies.foldl (· + ·) 0).toNat = 2 ^ 59 - 1 ∧ after.sample.latency.toNat = 0 ∧
      after.sample.clockSkew = 1 ∧
      after.sample.meanLatency = (UInt64.ofNat (2 ^ 58)).toFloat ∧
      after.sample.jitter = (UInt64.ofNat (2 ^ 58)).toFloat * (UInt64.ofNat (2 ^ 58)).toFloat := by
  intro calls after
  have hnow : ∀ now ∈ calls.filterMap Call.now?, now.toNat < 2 ^ 59 := by simp [calls, Call.now?]
  obtain ⟨-, hlatency, hskew, hsum⟩ := latencies_of_calls {} calls
  obtain ⟨-, htotal, hspread⟩ := hsum hnow
  obtain ⟨hmean, hjitter⟩ := hspread (by decide)
  have hmean := hmean.trans (show _ = (UInt64.ofNat (2 ^ 58)).toFloat by decide +kernel)
  rw [hmean] at hjitter
  exact ⟨hnow, htotal.trans (by decide), hlatency.trans (by decide), hskew.trans (by decide), hmean,
    hjitter.trans (by decide +kernel)⟩

end DeskStream.LinkMetrics
