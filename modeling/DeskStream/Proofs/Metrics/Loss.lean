import DeskStream.Metrics
import Mathlib.Algebra.BigOperators.Group.List.Basic
import Mathlib.Algebra.GroupWithZero.Nat
import Mathlib.Algebra.Ring.Int.Defs
/-!
# Loss and reordering

Senders count their packets without bound, and a packet carries what 32 bits hold of its number. As long as
each number is within half a round of the one that is due, the signed distance of the words is the difference of
the numbers (`distance_ofInt`), so what is counted is what would be counted from the numbers themselves, however
often the words wrap (`loss_of_numbers`).
-/

namespace DeskStream.LinkMetrics

open Wire

/-- A packet that arrives, by the number its sender has given it. -/
structure Arrival where
  number : Int
  kind : PacketKind
  timestamp : UInt64
  payload : Bytes
  /-- When it arrives, by both clocks. -/
  now : UInt64
  instant : Nat

def Arrival.packet (a : Arrival) : Packet := ⟨a.kind, a.timestamp, UInt32.ofInt a.number, a.payload⟩

/-- What happens on a link. -/
inductive Happening where
  | arrival (a : Arrival)
  | tick (instant : Nat)

def see (m : LinkMetrics) : Happening → LinkMetrics
  | .arrival a => m.record a.packet a.now a.instant
  | .tick instant => m.tick instant

/-- A link, from its beginning. -/
def onLink (m : LinkMetrics) (stream : List Happening) : LinkMetrics := stream.foldl see m.newLink

/-- Links, one after the other. -/
def overLinks (m : LinkMetrics) (links : List (List Happening)) : LinkMetrics := links.foldl onLink m

def Happening.number? : Happening → Option Int
  | .arrival a => some a.number
  | .tick _ => none

/-- The numbers that arrive, in order. -/
def numbers (stream : List Happening) : List Int := stream.filterMap Happening.number?

/-! ## The numbers themselves -/

def leadsFrom (earlier : List Int) : List Int → List Bool
  | [] => []
  | n :: later => decide (∀ k ∈ earlier, k < n) :: leadsFrom (earlier ++ [n]) later

/-- Which numbers exceed all earlier ones. -/
def leads (ns : List Int) : List Bool := leadsFrom [] ns

/-- From the first number to the greatest, both included. -/
def span (ns : List Int) : Int :=
  match ns.head?, ns.max? with
  | some first, some top => top - first + 1
  | _, _ => 0

/-- A number is within half a round of the one that follows the greatest. -/
def Near (earlier : List Int) (n : Int) : Prop :=
  ∀ top ∈ earlier.max?, top + 1 - 2 ^ 31 ≤ n ∧ n ≤ top + 1 + (2 ^ 31 - 1)

instance (earlier : List Int) (n : Int) : Decidable (Near earlier n) :=
  inferInstanceAs (Decidable (∀ top ∈ earlier.max?, top + 1 - 2 ^ 31 ≤ n ∧ n ≤ top + 1 + (2 ^ 31 - 1)))

def InReachFrom (earlier : List Int) : List Int → Prop
  | [] => True
  | n :: later => Near earlier n ∧ InReachFrom (earlier ++ [n]) later

/-- Each number is near those before it. -/
def InReach (ns : List Int) : Prop := InReachFrom [] ns

instance decidableInReachFrom (earlier : List Int) : (ns : List Int) → Decidable (InReachFrom earlier ns)
  | [] => inferInstanceAs (Decidable True)
  | n :: later =>
    have := decidableInReachFrom (earlier ++ [n]) later
    inferInstanceAs (Decidable (Near earlier n ∧ InReachFrom (earlier ++ [n]) later))

instance (ns : List Int) : Decidable (InReach ns) := decidableInReachFrom [] ns

theorem leadsFrom_concat (earlier ns : List Int) (n : Int) :
    leadsFrom earlier (ns ++ [n]) = leadsFrom earlier ns ++ [decide (∀ k ∈ earlier ++ ns, k < n)] := by
  induction ns generalizing earlier with
  | nil => simp [leadsFrom]
  | cons k ns ih => simp [leadsFrom, ih]

theorem inReachFrom_append (earlier ns more : List Int) :
    InReachFrom earlier (ns ++ more) ↔ InReachFrom earlier ns ∧ InReachFrom (earlier ++ ns) more := by
  induction ns generalizing earlier with
  | nil => simp [InReachFrom]
  | cons n ns ih => simp [InReachFrom, ih, and_assoc]

theorem max?_concat (ns : List Int) (n : Int) :
    (ns ++ [n]).max? = some (match ns.max? with
      | some top => max top n
      | none => n) := by
  cases ns with
  | nil => rfl
  | cons first ns => simp [List.max?]

theorem lead_iff {ns : List Int} {top : Int} (h : ns.max? = some top) (n : Int) : (∀ k ∈ ns, k < n) ↔ top < n := by
  obtain ⟨hm, hle⟩ := List.max?_eq_some_iff.1 h
  constructor
  · intro hlt
    exact hlt top hm
  · intro hlt k hk
    exact Int.lt_of_le_of_lt (hle k hk) hlt

/-- Counted from the numbers, a packet that leads adds the numbers it passes over. -/
theorem span_concat {ns : List Int} {top : Int} (h : ns.max? = some top) (n : Int) :
    span (ns ++ [n]) = span ns + (max top n - top) := by
  cases ns with
  | nil => cases h
  | cons first ns =>
    have hmax : (first :: ns ++ [n]).max? = some (max top n) := by rw [max?_concat, h]
    have hhead : (first :: ns ++ [n]).head? = some first := rfl
    simp only [span, hmax, hhead, h, List.head?_cons]
    omega

theorem distance_ofInt {expected n : Int} (hlow : expected - 2 ^ 31 ≤ n) (hhigh : n ≤ expected + (2 ^ 31 - 1)) :
    distance (UInt32.ofInt expected) (UInt32.ofInt n) = n - expected := by
  have hsub : UInt32.ofInt n - UInt32.ofInt expected = UInt32.ofInt (n - expected) := by
    rw [Int.sub_eq_add_neg, UInt32.ofInt_add, UInt32.ofInt_neg, UInt32.sub_eq_add_neg]
  have hword : ((UInt32.ofInt (n - expected)).toNat : Int) = (n - expected) % 2 ^ 32 := by
    have := Int.emod_nonneg (n - expected) (show (2 ^ 32 : Int) ≠ 0 by decide)
    have := Int.emod_lt_of_pos (n - expected) (show (0 : Int) < 2 ^ 32 by decide)
    simp [UInt32.ofInt]
    omega
  rw [distance, hsub]
  calc (UInt32.ofInt (n - expected)).toInt32.toInt
      = (UInt32.ofInt (n - expected)).toBitVec.toInt := rfl
    _ = ((UInt32.ofInt (n - expected)).toNat : Int).bmod (2 ^ 32) := BitVec.toInt_eq_toNat_bmod _
    _ = (n - expected).bmod (2 ^ 32) := by rw [hword]; exact Int.emod_bmod ..
    _ = n - expected := Int.bmod_eq_of_le (by omega) (by omega)

/-! ## What is counted -/

structure Tracking where
  received : Nat
  lost : Nat
  reordered : Nat
  expected : Option UInt32

def tracking (m : LinkMetrics) : Tracking := ⟨m.sample.received, m.sample.lost, m.sample.reordered, m.expected⟩

theorem tracking_roll (m : LinkMetrics) (instant : Nat) : (m.roll instant).tracking = m.tracking := by
  unfold roll
  split <;> rfl

theorem tracking_tick (m : LinkMetrics) (instant : Nat) : (m.tick instant).tracking = m.tracking := by
  unfold tick
  split <;> rfl

theorem tracking_record (m : LinkMetrics) (p : Packet) (now : UInt64) (instant : Nat) :
    (m.record p now instant).tracking =
      match m.expected with
      | none => ⟨m.sample.received + 1, m.sample.lost, m.sample.reordered, some (p.sequence + 1)⟩
      | some expected =>
        let d := distance expected p.sequence
        if 0 ≤ d then
          ⟨m.sample.received + 1, m.sample.lost + d.toNat, m.sample.reordered, some (p.sequence + 1)⟩
        else ⟨m.sample.received + 1, m.sample.lost, m.sample.reordered + 1, some expected⟩ := by
  have hroll : ((m.roll instant).begin instant).tracking = m.tracking := m.tracking_roll instant
  generalize hc : (m.roll instant).begin instant = c at hroll
  have hrecord : (m.record p now instant).tracking = ((c.count p).trackSequence p.sequence).tracking := by
    rw [← hc]
    rfl
  simp only [tracking, Tracking.mk.injEq] at hroll
  obtain ⟨hreceived, hlost, hreordered, hexpected⟩ := hroll
  have hcount : (c.count p).expected = m.expected := hexpected
  rw [hrecord, trackSequence, hcount]
  cases m.expected with
  | none => simp only [tracking, count, hreceived, hlost, hreordered]
  | some expected =>
    simp only
    split
    · simp only [tracking, count, hreceived, hlost, hreordered]
    · simp only [tracking, count, hreceived, hlost, hreordered]

/-- What has been counted on a link is what is counted from the numbers that have arrived. -/
structure Tracks (start m : LinkMetrics) (ns : List Int) : Prop where
  expected : m.expected = ns.max?.map fun top => UInt32.ofInt (top + 1)
  received : m.sample.received = start.sample.received + ns.length
  lost : (m.sample.lost : Int) = start.sample.lost + (span ns - (leads ns).count true)
  reordered : m.sample.reordered = start.sample.reordered + (leads ns).count false

theorem Tracks.of_tracking {start m : LinkMetrics} {ns : List Int} {k : Tracking} (h : m.tracking = k)
    (expected : k.expected = ns.max?.map fun top => UInt32.ofInt (top + 1))
    (received : k.received = start.sample.received + ns.length)
    (lost : (k.lost : Int) = start.sample.lost + (span ns - (leads ns).count true))
    (reordered : k.reordered = start.sample.reordered + (leads ns).count false) : Tracks start m ns := by
  subst h
  exact ⟨expected, received, lost, reordered⟩

theorem Tracks.newLink (m : LinkMetrics) : Tracks m m.newLink [] := by
  refine ⟨rfl, rfl, ?_, rfl⟩
  simp [LinkMetrics.newLink, span, leads, leadsFrom]

theorem Tracks.tick {start m : LinkMetrics} {ns : List Int} (h : Tracks start m ns) (instant : Nat) :
    Tracks start (m.tick instant) ns :=
  .of_tracking (m.tracking_tick instant) h.expected h.received h.lost h.reordered

theorem Tracks.arrival {start m : LinkMetrics} {ns : List Int} (h : Tracks start m ns) (a : Arrival)
    (hn : Near ns a.number) : Tracks start (m.record a.packet a.now a.instant) (ns ++ [a.number]) := by
  have ht := tracking_record m a.packet a.now a.instant
  have hmax' := max?_concat ns a.number
  have hleads : leads (ns ++ [a.number]) = leads ns ++ [decide (∀ k ∈ ns, k < a.number)] :=
    leadsFrom_concat [] ns a.number
  have hnext : UInt32.ofInt (a.number + 1) = a.packet.sequence + 1 := UInt32.ofInt_add ..
  have hlength : (ns ++ [a.number]).length = ns.length + 1 := List.length_append
  obtain ⟨hexpected, hreceived, hlost, hreordered⟩ := h
  cases hmax : ns.max? with
  | none =>
    -- The first number is not compared with any.
    obtain rfl : ns = [] := List.max?_eq_none_iff.1 hmax
    simp only [hexpected, hmax, Option.map_none] at ht
    refine .of_tracking ht ?_ ?_ ?_ ?_
    · exact congrArg some hnext.symm
    · simp [hreceived]
    · simpa [span, leads, leadsFrom] using hlost
    · simpa [leads, leadsFrom] using hreordered
  | some top =>
    obtain ⟨hlow, hhigh⟩ := hn top hmax
    have hd : distance (UInt32.ofInt (top + 1)) a.packet.sequence = a.number - (top + 1) :=
      distance_ofInt hlow hhigh
    have hspan := span_concat hmax a.number
    simp only [hmax] at hmax'
    simp only [hexpected, hmax, Option.map_some, hd] at ht
    by_cases hlead : top < a.number
    · have hall : ∀ k ∈ ns, k < a.number := (lead_iff hmax a.number).2 hlead
      rw [if_pos (by omega)] at ht
      rw [decide_eq_true hall] at hleads
      rw [Int.max_eq_right (by omega)] at hmax' hspan
      refine .of_tracking ht ?_ ?_ ?_ ?_
      · rw [hmax', Option.map_some, hnext]
      · simp only [hlength]
        omega
      · simp only [hspan, hleads, List.count_append, List.count_singleton_self]
        omega
      · simpa [hleads, List.count_append] using hreordered
    · have hlate : ¬ ∀ k ∈ ns, k < a.number := fun hall => hlead ((lead_iff hmax a.number).1 hall)
      rw [if_neg (by omega)] at ht
      rw [decide_eq_false hlate] at hleads
      rw [Int.max_eq_left (by omega)] at hmax' hspan
      refine .of_tracking ht ?_ ?_ ?_ ?_
      · rw [hmax', Option.map_some]
      · simp only [hlength]
        omega
      · simpa [hspan, hleads, List.count_append] using hlost
      · simp only [hleads, List.count_append, List.count_singleton_self]
        omega

theorem Tracks.stream {start m : LinkMetrics} {ns : List Int} (h : Tracks start m ns) {stream : List Happening}
    (hr : InReachFrom ns (numbers stream)) : Tracks start (stream.foldl see m) (ns ++ numbers stream) := by
  induction stream generalizing m ns with
  | nil => simpa [numbers] using h
  | cons x stream ih =>
    cases x with
    | tick instant => exact ih (h.tick instant) hr
    | arrival a =>
      obtain ⟨hn, hr⟩ := hr
      have := ih (h.arrival a hn) hr
      rwa [List.append_assoc] at this

theorem Tracks.link (m : LinkMetrics) {stream : List Happening} (hr : InReach (numbers stream)) :
    Tracks m (m.onLink stream) (numbers stream) :=
  (Tracks.newLink m).stream hr

theorem counted_links (m : LinkMetrics) {links : List (List Happening)}
    (h : ∀ stream ∈ links, InReach (numbers stream)) :
    (m.overLinks links).sample.received = m.sample.received + (links.map fun s => (numbers s).length).sum ∧
      ((m.overLinks links).sample.lost : Int) =
        m.sample.lost + (links.map fun s => span (numbers s) - (leads (numbers s)).count true).sum ∧
      (m.overLinks links).sample.reordered =
        m.sample.reordered + (links.map fun s => (leads (numbers s)).count false).sum := by
  induction links generalizing m with
  | nil => simp [overLinks]
  | cons stream links ih =>
    rw [List.forall_mem_cons] at h
    obtain ⟨hreceived, hlost, hreordered⟩ := ih (m.onLink stream) h.2
    have ht := Tracks.link m h.1
    have hover : m.overLinks (stream :: links) = (m.onLink stream).overLinks links := rfl
    simp only [hover, hreceived, hlost, hreordered, ht.received, ht.lost, ht.reordered, List.map_cons, List.sum_cons]
    refine ⟨Nat.add_assoc .., ?_, Nat.add_assoc ..⟩
    omega

/-- A late packet or a duplicate. -/
theorem late_arrival (m : LinkMetrics) {stream : List Happening} {a : Arrival}
    (hr : InReach (numbers (stream ++ [.arrival a]))) (hlate : ¬ ∀ k ∈ numbers stream, k < a.number) :
    ((m.onLink stream).see (.arrival a)).sample.lost = (m.onLink stream).sample.lost ∧
      ((m.onLink stream).see (.arrival a)).sample.reordered = (m.onLink stream).sample.reordered + 1 := by
  have hnumbers : numbers (stream ++ [.arrival a]) = numbers stream ++ [a.number] := by
    simp [numbers, Happening.number?]
  rw [InReach, hnumbers, inReachFrom_append] at hr
  obtain ⟨hstream, hn, -⟩ := hr
  have hbefore := Tracks.link m hstream
  have hafter := hbefore.arrival a hn
  obtain ⟨top, hmax⟩ : ∃ top, (numbers stream).max? = some top := by
    refine Option.ne_none_iff_exists'.1 fun hnone => hlate ?_
    simp [List.max?_eq_none_iff.1 hnone]
  have hspan : span (numbers stream ++ [a.number]) = span (numbers stream) := by
    rw [lead_iff hmax] at hlate
    rw [span_concat hmax, Int.max_eq_left (by omega), Int.sub_self, Int.add_zero]
  have hleads : leads (numbers stream ++ [a.number]) = leads (numbers stream) ++ [false] := by
    rw [leads, leadsFrom_concat, List.nil_append, decide_eq_false hlate, leads]
  constructor
  · have hlost := hafter.lost
    rw [hspan, hleads, List.count_append, List.count_cons_of_ne (by decide), List.count_nil, Nat.add_zero,
      ← hbefore.lost] at hlost
    exact Int.ofNat.inj hlost
  · have hreordered := hafter.reordered
    rwa [hleads, List.count_append, List.count_singleton_self, ← Nat.add_assoc, ← hbefore.reordered] at hreordered

/-- Over any links, each with its packets in reach: packets received, lost and reordered are counted as from the
numbers their senders gave them. A packet that does not exceed all earlier ones of its link, because it is late or a
duplicate, is counted as reordered and leaves the loss as it is. -/
theorem loss_of_numbers (m : LinkMetrics) (links : List (List Happening))
    (h : ∀ stream ∈ links, InReach (numbers stream)) :
    let after := m.overLinks links
    after.sample.received = m.sample.received + (links.map fun s => (numbers s).length).sum ∧
      (after.sample.lost : Int) =
        m.sample.lost + (links.map fun s => span (numbers s) - (leads (numbers s)).count true).sum ∧
      after.sample.reordered = m.sample.reordered + (links.map fun s => (leads (numbers s)).count false).sum ∧
      ∀ stream (a : Arrival), InReach (numbers (stream ++ [.arrival a])) → ¬ (∀ k ∈ numbers stream, k < a.number) →
        let before := after.onLink stream
        let now := before.see (.arrival a)
        now.sample.lost = before.sample.lost ∧ now.sample.reordered = before.sample.reordered + 1 := by
  intro after
  obtain ⟨hreceived, hlost, hreordered⟩ := counted_links m h
  refine ⟨hreceived, hlost, hreordered, ?_⟩
  intro stream a hr hlate
  exact late_arrival after hr hlate

/-- Numbers around the end of a round: one is missing until it arrives late, and again, and two stay missing. Then a
link with the farthest number ahead, and the farthest behind. -/
def rounds : List (List Happening) :=
  let arrivals (ns : List Int) : List Happening := ns.map fun n => .arrival ⟨n, .control, 0, [], 0, 0⟩
  [arrivals [2 ^ 32 - 2, 2 ^ 32, 2 ^ 32 - 1, 2 ^ 32 - 1, 2 ^ 32 + 3], arrivals [0, 2 ^ 31, 1]]

theorem loss_of_numbers_rounds :
    let after := overLinks {} rounds
    let five : Happening := .arrival ⟨5, .control, 0, [], 0, 0⟩
    after.sample.received = 8 ∧ after.sample.lost = 3 + (2 ^ 31 - 1) ∧ after.sample.reordered = 3 ∧
      ((after.onLink [five]).see five).sample.lost = (after.onLink [five]).sample.lost := by
  intro after five
  obtain ⟨hreceived, hlost, hreordered, hlate⟩ := loss_of_numbers {} rounds (by decide)
  refine ⟨hreceived, Int.ofNat.inj hlost, hreordered, ?_⟩
  exact (hlate [five] ⟨5, .control, 0, [], 0, 0⟩ (by decide) (by decide)).1

end DeskStream.LinkMetrics
