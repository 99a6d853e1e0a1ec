import DeskStream.Toml.Document
/-!
# Integers of a text

An integer of TOML has 64 bits, one of them for the sign. A text that spells another is refused, so there is none in
what is read from a text (`bounded_of_text`).

The readers are gone through one by one. Most of what they read says nothing about integers, and then what they read
last decides (`Yields.of_last`).
-/

namespace DeskStream

/-! ## What a reader yields -/

namespace Text.Reader

variable {α β : Type} {P : α → Prop} {Q : β → Prop} {p q : Reader α} {f : α → Reader β}

/-- Whatever a reader takes has a property. -/
def Yields (P : α → Prop) (p : Reader α) : Prop := ∀ cs a rest, p cs = some (a, rest) → P a

theorem Yields.pure {a : α} (h : P a) : Yields P (pure a : Reader α) := by
  intro cs b rest hb
  cases hb
  exact h

theorem Yields.failure : Yields P (failure : Reader α) := by
  intro cs a rest h
  cases h

theorem Yields.bind (hp : Yields P p) (hf : ∀ a, P a → Yields Q (f a)) : Yields Q (p >>= f) := by
  intro cs b rest h
  obtain ⟨⟨a, cs'⟩, ha, hb⟩ := Option.bind_eq_some_iff.1 h
  exact hf a (hp cs a cs' ha) cs' b rest hb

/-- What comes last decides. -/
theorem Yields.of_last (hf : ∀ a, Yields Q (f a)) : Yields Q (p >>= f) :=
  Yields.bind (P := fun _ => True) (fun _ _ _ _ => trivial) fun a _ => hf a

theorem Yields.orElse (hp : Yields P p) (hq : Yields P q) : Yields P (p <|> q) := by
  intro cs a rest h
  rcases Option.or_eq_some_iff.1 ((Option.orElse_eq_or ..).symm.trans h) with h | ⟨-, h⟩
  · exact hp cs a rest h
  · exact hq cs a rest h

theorem Yields.map {g : α → β} (hp : Yields P p) (hg : ∀ a, P a → Q (g a)) : Yields Q (g <$> p) := by
  rw [map_eq_pure_bind]
  exact hp.bind fun a ha => .pure (hg a ha)

theorem Yields.optional (hp : Yields P p) : Yields (fun o => ∀ a ∈ o, P a) (optional p) := by
  apply Yields.orElse
  · exact hp.map fun a ha => by simpa using ha
  · apply Yields.pure
    simp

theorem Yields.many (hp : Yields P p) : Yields (fun as => ∀ a ∈ as, P a) (many p) := by
  intro cs as rest h
  induction cs using many.induct (p := p) generalizing as rest with
  | case1 cs hnone =>
    rw [Reader.many, hnone] at h
    cases h
    simp
  | case2 cs a r ha hlt bs r' hr ih =>
    rw [Reader.many, ha] at h
    simp only [hlt, if_true, hr] at h
    cases h
    exact List.forall_mem_cons.2 ⟨hp cs a r ha, ih bs r' hr⟩
  | case3 cs a r ha hlt hr =>
    rw [Reader.many, ha] at h
    simp [hlt, hr] at h
  | case4 cs a r ha hlt =>
    rw [Reader.many, ha] at h
    simp only [hlt, if_false] at h
    cases h
    simp

end Text.Reader

/-! ## Values and tables -/

namespace TomlValue

/-- Every integer in a value is within the limits of TOML. -/
inductive Bounded : TomlValue → Prop
  | text (s : String) : Bounded (.text s)
  | integer {n : Int} (low : -Toml.integerLimit ≤ n) (high : n < Toml.integerLimit) : Bounded (.integer n)
  | float (x : Float) : Bounded (.float x)
  | boolean (b : Bool) : Bounded (.boolean b)
  | moment : Bounded .moment
  | array {items : List TomlValue} (h : ∀ v ∈ items, Bounded v) : Bounded (.array items)
  | table {origin : TomlOrigin} {es : TomlEntries} (h : ∀ e ∈ es, Bounded e.2) : Bounded (.table origin es)
  | tables {items : List TomlEntries} (h : ∀ es ∈ items, ∀ e ∈ es, Bounded e.2) : Bounded (.tables items)

end TomlValue

namespace TomlEntries

variable {es es' : TomlEntries} {key : String} {path header : List String} {v : TomlValue}

/-- Every integer in a table is within the limits of TOML. -/
def Bounded (es : TomlEntries) : Prop := ∀ e ∈ es, e.2.Bounded

theorem bounded_nil : Bounded [] := by
  intro e he
  cases he

theorem Bounded.lookup (h : es.Bounded) (hv : es.lookup key = some v) : v.Bounded := by
  obtain ⟨before, after, rfl, -⟩ := List.lookup_eq_some_iff.1 hv
  exact h (key, v) (by simp)

theorem Bounded.concat (h : es.Bounded) (hv : v.Bounded) : Bounded (es ++ [(key, v)]) := by
  intro e he
  rcases List.mem_append.1 he with he | he
  · exact h e he
  · rw [List.mem_singleton.1 he]
    exact hv

theorem Bounded.set (h : es.Bounded) (hv : v.Bounded) : Bounded (es.set key v) := by
  intro e he
  obtain ⟨x, hx, rfl⟩ := List.mem_map.1 he
  dsimp only
  split
  · exact hv
  · exact h x hx

/-- What a change keeps of the table that it is made in, it keeps of all tables on the way. -/
theorem Bounded.update {change : TomlOrigin → TomlEntries → Option TomlEntries}
    (hc : ∀ origin es es', Bounded es → change origin es = some es' → Bounded es') {dotted : Bool}
    {origin : TomlOrigin} (h : es.Bounded) (hu : es.update dotted change path origin = some es') :
    es'.Bounded := by
  induction path generalizing origin es es' with
  | nil => exact hc origin es es' h hu
  | cons key path ih =>
    rw [update] at hu
    split at hu
    · obtain ⟨sub, hs, hu⟩ := Option.bind_eq_some_iff.1 hu
      cases hu
      exact h.concat (.table (ih bounded_nil hs))
    · rename_i origin sub hl
      split at hu
      · cases hu
      · obtain ⟨sub', hs, hu⟩ := Option.bind_eq_some_iff.1 hu
        cases hu
        cases h.lookup hl with
        | table hsub => exact h.set (.table (ih hsub hs))
    · rename_i items hl
      split at hu
      · cases hu
      · rename_i last hlast
        obtain ⟨next, hs, hu⟩ := Option.bind_eq_some_iff.1 hu
        cases hu
        cases h.lookup hl with
        | tables hitems =>
          refine h.set (.tables (List.forall_mem_append.2 ⟨?_, List.forall_mem_singleton.2 ?_⟩))
          · exact fun sub hsub => hitems sub (List.dropLast_subset items hsub)
          · exact ih (hitems last (List.mem_of_getLast? hlast)) hs
    · cases hu

theorem Bounded.assign (h : es.Bounded) (hv : v.Bounded) (ha : es.assign path key v = some es') : es'.Bounded := by
  refine h.update (fun origin es es' h hc => ?_) ha
  split at hc
  · cases hc
  · split at hc
    · cases hc
    · cases hc
      exact h.concat hv

theorem Bounded.openTable (h : es.Bounded) (ho : es.openTable path key = some es') : es'.Bounded := by
  refine h.update (fun _ es es' h hc => ?_) ho
  split at hc
  · cases hc
    exact h.concat (.table bounded_nil)
  · rename_i sub hl
    cases hc
    cases h.lookup hl with
    | table hsub => exact h.set (.table hsub)
  · cases hc

theorem Bounded.openNext (h : es.Bounded) (ho : es.openNext path key = some es') : es'.Bounded := by
  refine h.update (fun _ es es' h hc => ?_) ho
  split at hc
  · cases hc
    exact h.concat (.tables (List.forall_mem_singleton.2 bounded_nil))
  · rename_i items hl
    cases hc
    cases h.lookup hl with
    | tables hitems =>
      exact h.set (.tables (List.forall_mem_append.2 ⟨hitems, List.forall_mem_singleton.2 bounded_nil⟩))
  · cases hc

theorem Bounded.assignIn (h : es.Bounded) (hv : v.Bounded) (ha : es.assignIn header path key v = some es') :
    es'.Bounded :=
  h.update (fun _ _ _ h => h.assign hv) ha

end TomlEntries

/-! ## A text -/

namespace Toml

open Text Reader

variable {α : Type} {P : α → Prop}

theorem yields_inRange (n : Int) : Yields TomlValue.Bounded (inRange n) := by
  unfold inRange
  split
  · rename_i h
    rw [Bool.and_eq_true, decide_eq_true_eq, decide_eq_true_eq] at h
    exact .pure (.integer h.1 h.2)
  · exact .failure

theorem yields_based (mark : String) (base : Nat) : Yields TomlValue.Bounded (based mark base) :=
  .of_last fun _ => .of_last fun _ => yields_inRange _

theorem yields_integer : Yields TomlValue.Bounded integer :=
  .orElse (yields_based _ _) <| .orElse (yields_based _ _) <| .orElse (yields_based _ _) <|
    .of_last fun _ => .of_last fun _ => yields_inRange _

theorem yields_decimal : Yields TomlValue.Bounded decimal := by
  refine .of_last fun _ => .of_last fun _ => .of_last fun _ => .of_last fun _ => ?_
  split
  · exact .failure
  · dsimp only
    split
    · exact .failure
    · exact .pure (.float _)

theorem yields_special : Yields TomlValue.Bounded special :=
  .of_last fun _ => .of_last fun _ => .pure (.float _)

theorem yields_moment : Yields TomlValue.Bounded moment := .of_last fun _ => .pure .moment

theorem yields_numeral : Yields TomlValue.Bounded numeral :=
  .orElse yields_moment <| .orElse yields_decimal <| .orElse yields_special yields_integer

theorem yields_scalarValue : Yields TomlValue.Bounded valueWithin.scalarValue :=
  .orElse (.of_last fun _ => .pure (.text _)) <| .orElse (.of_last fun _ => .pure (.boolean _)) <|
    .orElse (.of_last fun _ => .pure (.boolean _)) yields_numeral

theorem yields_items {item : Reader α} (h : Yields P item) : Yields (fun vs => ∀ v ∈ vs, P v) (items item) := by
  refine h.optional.bind fun first hfirst => ?_
  split
  · exact .pure (by simp)
  · refine (Yields.of_last fun _ => h).many.bind fun rest hrest => .of_last fun _ => .pure ?_
    exact List.forall_mem_cons.2 ⟨hfirst _ rfl, hrest⟩

theorem yields_spread {item : Reader α} (h : Yields P item) : Yields P (spread item) :=
  .of_last fun _ => h.bind fun _ hv => .of_last fun _ => .pure hv

theorem yields_pairs {pair : Reader α} (h : Yields P pair) : Yields (fun ps => ∀ p ∈ ps, P p) (pairs pair) := by
  refine .of_last fun _ => h.optional.bind fun first hfirst => ?_
  split
  · exact .pure (by simp)
  · refine (Yields.of_last fun _ => h).many.bind fun rest hrest => .pure ?_
    exact List.forall_mem_cons.2 ⟨hfirst _ rfl, hrest⟩

theorem yields_pairOf {value : Reader TomlValue} (h : Yields TomlValue.Bounded value) :
    Yields (fun p => p.2.2.Bounded) (pairOf value) := by
  refine .of_last fun _ => .of_last fun _ => .of_last fun _ => h.bind fun v hv => .of_last fun _ => ?_
  split
  · exact .pure hv
  · exact .failure

/-- What every step of a fold keeps, the fold keeps. -/
theorem keeps_foldlM {σ : Type} {K : σ → Prop} {f : σ → α → Option σ}
    (hf : ∀ s a s', K s → P a → f s a = some s' → K s') {s s' : σ} (hs : K s) {as : List α}
    (ha : ∀ a ∈ as, P a) (h : as.foldlM f s = some s') : K s' := by
  induction as generalizing s with
  | nil =>
    cases h
    exact hs
  | cons a as ih =>
    rw [List.forall_mem_cons] at ha
    rw [List.foldlM_cons] at h
    obtain ⟨s₁, hs₁, h⟩ := Option.bind_eq_some_iff.1 h
    exact ih (hf s a s₁ hs ha.1 hs₁) ha.2 h

theorem bounded_inlineTable {ps : List (List String × String × TomlValue)} (h : ∀ p ∈ ps, p.2.2.Bounded)
    {es : TomlEntries} (hes : inlineTable ps = some es) : es.Bounded :=
  keeps_foldlM (fun _ _ _ hk hp => hk.assign hp) TomlEntries.bounded_nil h hes

theorem yields_valueWithin (depth : Nat) : Yields TomlValue.Bounded (valueWithin depth) := by
  induction depth with
  | zero => exact yields_scalarValue
  | succ depth ih =>
    refine .of_last fun c => ?_
    split
    · refine .of_last fun _ => (yields_items (yields_spread ih)).bind fun vs hvs => ?_
      exact .of_last fun _ => .of_last fun _ => .pure (.array hvs)
    · refine .of_last fun _ => (yields_pairs (yields_pairOf ih)).bind fun ps hps => ?_
      refine .of_last fun _ => .of_last fun _ => ?_
      split
      · rename_i es hes
        exact .pure (.table (bounded_inlineTable hps hes))
      · exact .failure
    · exact yields_scalarValue

/-- Every integer in a line is within the limits of TOML. -/
def Statement.Bounded : Statement → Prop
  | .assign _ _ v => v.Bounded
  | .blank | .openTable .. | .openNext .. => True

theorem yields_header {left right : String} {make : List String → String → Statement}
    (hm : ∀ path key, (make path key).Bounded) : Yields Statement.Bounded (header left right make) := by
  refine .of_last fun _ => .of_last fun path => .of_last fun _ => ?_
  split
  · exact .pure (hm ..)
  · exact .failure

theorem yields_anyHeader : Yields Statement.Bounded anyHeader := by
  refine .of_last fun two => ?_
  split
  · exact yields_header fun _ _ => trivial
  · exact yields_header fun _ _ => trivial

theorem yields_assignment : Yields Statement.Bounded assignment :=
  (yields_pairOf (yields_valueWithin maxDepth)).bind fun _ hv => .pure hv

theorem yields_line : Yields Statement.Bounded line := by
  refine .of_last fun _ => (yields_anyHeader.orElse yields_assignment).optional.bind fun s hs => ?_
  refine .of_last fun _ => .of_last fun _ => .of_last fun _ => .pure ?_
  cases s with
  | none => trivial
  | some s => exact hs s rfl

theorem yields_statements : Yields (fun ss => ∀ s ∈ ss, s.Bounded) statements :=
  .of_last fun _ => yields_line.many.bind fun _ hss => .of_last fun _ => .pure hss

theorem Draft.bounded_apply {d d' : Draft} {s : Statement} (h : d.root.Bounded) (hs : s.Bounded)
    (ha : d.apply s = some d') : d'.root.Bounded := by
  cases s with
  | blank =>
    cases ha
    exact h
  | openTable path key =>
    obtain ⟨root, hr, ha⟩ := Option.bind_eq_some_iff.1 ha
    cases ha
    exact h.openTable hr
  | openNext path key =>
    obtain ⟨root, hr, ha⟩ := Option.bind_eq_some_iff.1 ha
    cases ha
    exact h.openNext hr
  | assign path key v =>
    obtain ⟨root, hr, ha⟩ := Option.bind_eq_some_iff.1 ha
    cases ha
    exact h.assignIn hs hr

/-- Every integer in a text is within the limits of TOML. -/
theorem bounded_of_text {s : String} {v : TomlValue} (h : ofText? s = some v) : v.Bounded := by
  obtain ⟨ss, hss, h⟩ := Option.bind_eq_some_iff.1 h
  obtain ⟨d, hd, h⟩ := Option.bind_eq_some_iff.1 h
  cases h
  have hbounded : ∀ s ∈ ss, s.Bounded := by
    unfold run? at hss
    split at hss
    · rename_i hread
      cases hss
      exact yields_statements _ _ _ hread
    · cases hss
  exact .table (keeps_foldlM (K := fun d : Draft => d.root.Bounded) (fun _ _ _ => Draft.bounded_apply)
    TomlEntries.bounded_nil hbounded hd)

end Toml
end DeskStream
