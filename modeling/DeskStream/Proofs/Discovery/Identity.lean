import DeskStream.Discovery.Service
import DeskStream.Proofs.Discovery.Calls
import Mathlib.Data.List.Induction
/-!
# Who withdrew

What the daemon reports names an instance by its full name. The id that a resolved service is kept under and the id that
a withdrawal takes out come about in different ways, and both are the instance, its service and its domain with dots
between (`peerId_written`, `peerId_toSighting`). So what is reported of an instance concerns its own host and no other
(`find?_heard`), and the last that was reported decides whether it is there (`hosts_of_reports`).
-/

namespace DeskStream

/-! ## Names and dots -/

namespace Text

def dots (n : Nat) : String := String.ofList (List.replicate n '.')

variable {s before after : String} {n : Nat}

theorem trimEndDots_append_dots (h : ∀ c ∈ s.toList.getLast?, c ≠ '.') : trimEndDots (s ++ dots n) = s := by
  have hlist : trimEndChars isDot (s.toList ++ List.replicate n '.') = s.toList :=
    trimEndChars_append (fun c hc => beq_iff_eq.2 (List.eq_of_mem_replicate hc)) fun c hc => beq_eq_false_iff_ne.2 (h c hc)
  rw [trimEndDots, String.toList_append, dots, String.toList_ofList, hlist, String.ofList_toList]

theorem trimDots_eq (hhead : ∀ c ∈ s.toList.head?, c ≠ '.') (hlast : ∀ c ∈ s.toList.getLast?, c ≠ '.') :
    trimDots s = s := by
  have hlist : trimChars isDot ([] ++ s.toList ++ []) = s.toList :=
    trimChars_append (List.forall_mem_nil _) (List.forall_mem_nil _) (fun c hc => beq_eq_false_iff_ne.2 (hhead c hc))
      fun c hc => beq_eq_false_iff_ne.2 (hlast c hc)
  rw [List.nil_append, List.append_nil] at hlist
  rw [trimDots, hlist, String.ofList_toList]

theorem splitLastDot_append (h : '.' ∉ after.toList) : splitLastDot (before ++ "." ++ after) = some (before, after) := by
  have hrev : (before ++ "." ++ after).toList.reverse = after.toList.reverse ++ '.' :: before.toList.reverse := by simp
  have hdot : ∀ c ∈ after.toList.reverse, (! isDot c) = true := by
    intro c hc
    have hne : c ≠ '.' := fun hc' => h (hc' ▸ List.mem_reverse.1 hc)
    simp [isDot, hne]
  simp only [splitLastDot, hrev]
  rw [List.takeWhile_append_of_pos hdot, List.dropWhile_append_of_pos hdot]
  simp [isDot]

theorem dropSuffix?_append : dropSuffix? (before ++ after) after = some before := by
  simp [dropSuffix?]

end Text

/-! ## Instances -/

/-- A service and its domain. -/
structure ServiceType where
  service : String
  domain : String
  service_ne : service ≠ ""
  service_head : ∀ c ∈ service.toList.head?, c ≠ '.'
  service_last : ∀ c ∈ service.toList.getLast?, c ≠ '.'
  domain_ne : domain ≠ ""
  domain_plain : '.' ∉ domain.toList

/-- The name of an instance. It may have dots in it, and any service type. -/
structure Instance where
  name : String
  last : ∀ c ∈ name.toList.getLast?, c ≠ '.'
  deriving DecidableEq

namespace ServiceType

def name (t : ServiceType) : String := t.service ++ "." ++ t.domain

/-- A service type as it may be written, with dots at its end. -/
def written (t : ServiceType) (n : Nat) : String := t.name ++ Text.dots n

variable {t : ServiceType} {n : Nat}

theorem domain_last (t : ServiceType) (before : String) : ∀ c ∈ (before ++ t.domain).toList.getLast?, c ≠ '.' := by
  rintro c hc rfl
  have hne : t.domain.toList ≠ [] := fun h => t.domain_ne (String.toList_eq_nil_iff.1 h)
  rw [String.toList_append, List.getLast?_append_of_ne_nil _ hne] at hc
  exact t.domain_plain (List.mem_of_mem_getLast? hc)

theorem trimEndDots_written (t : ServiceType) (n : Nat) : Text.trimEndDots (t.written n) = t.name :=
  Text.trimEndDots_append_dots (t.domain_last _)

theorem split_written (t : ServiceType) (n : Nat) : ServiceName.split (t.written n) = (t.service, t.domain) := by
  simp only [ServiceName.split, trimEndDots_written]
  rw [name, Text.splitLastDot_append t.domain_plain]
  rfl

theorem compositeId_eq (t : ServiceType) (inst : String) :
    Peer.compositeId inst t.service t.domain = inst ++ "." ++ t.name := by
  have hservice : Text.trimDots t.service = t.service := Text.trimDots_eq t.service_head t.service_last
  have hdomain : Text.trimDots t.domain = t.domain := by
    refine Text.trimDots_eq ?_ ?_ <;> rintro c hc rfl
    · exact t.domain_plain (List.mem_of_mem_head? hc)
    · exact t.domain_plain (List.mem_of_mem_getLast? hc)
  rw [Peer.compositeId, hservice, hdomain, name]
  change inst ++ "." ++ t.service ++ "." ++ t.domain = _
  simp only [String.append_assoc]

end ServiceType

namespace Instance
variable {t : ServiceType} {i j : Instance} {n k : Nat}

/-- The id of its host. -/
def id (i : Instance) (t : ServiceType) : String := i.name ++ "." ++ t.name

/-- The full name as it may be written, with dots at its end. -/
def written (i : Instance) (t : ServiceType) (n : Nat) : String := i.id t ++ Text.dots n

theorem id_injective : Function.Injective (id · t) := by
  intro i j h
  have hname : i.name = j.name := by simpa [id, ← String.toList_inj] using h
  cases i
  cases j
  cases hname
  rfl

theorem trimEndDots_written : Text.trimEndDots (i.written t k) = i.id t := by
  rw [written]
  refine Text.trimEndDots_append_dots ?_
  rw [id, ServiceType.name, ← String.append_assoc]
  exact t.domain_last _

theorem inst_written : ServiceName.inst (i.written t k) (t.written n) = i.name := by
  have hdot : Text.trimEndDots (i.name ++ Text.dots 1) = i.name := Text.trimEndDots_append_dots i.last
  simp only [ServiceName.inst, trimEndDots_written, ServiceType.trimEndDots_written]
  rw [id, Text.dropSuffix?_append]
  exact hdot

theorem peerId_written : ServiceName.peerId (i.written t k) (t.written n) = i.id t := by
  simp only [ServiceName.peerId, inst_written, t.split_written]
  exact t.compositeId_eq i.name

theorem peerId_toSighting {svc : ResolvedService} (h : svc.fullname = i.written t k) :
    (svc.toSighting (t.written n)).peerId = i.id t := by
  simp only [Sighting.peerId, ResolvedService.toSighting, h, inst_written, t.split_written]
  exact t.compositeId_eq i.name

end Instance

/-! ## Reports -/

/-- What the daemon reports of an instance, and when it is applied. -/
structure Report where
  inst : Instance
  /-- Dots at the end of the full name. -/
  dots : Nat
  /-- The service as it was resolved, by whatever name; nothing if it withdrew. -/
  service : Option ResolvedService
  clock : Nat

namespace Report

/-- The service under the full name that the daemon gives the instance. -/
def named (x : Report) (t : ServiceType) (svc : ResolvedService) : ResolvedService :=
  { svc with fullname := x.inst.written t x.dots }

def event (x : Report) (t : ServiceType) : BrowseEvent :=
  match x.service with
  | some svc => .resolved (x.named t svc)
  | none => .removed (x.inst.written t x.dots)

/-- The host that a resolved service describes. -/
def peer (x : Report) (t : ServiceType) (n : Nat) (svc : ResolvedService) : Peer :=
  ((x.named t svc).toSighting (t.written n)).toPeer

end Report

namespace Registry
variable {t : ServiceType} {n : Nat} {r : Registry} {x : Report} {before reports later : List Report} {id : String}

/-- What a browse tells of a report is applied. The service type of the browse has dots at its end. -/
def hear (t : ServiceType) (n : Nat) (r : Registry) (x : Report) : Registry :=
  match (x.event t).told? (t.written n) with
  | some e => DiscoveryService.apply r x.clock e
  | none => r

def heard (t : ServiceType) (n : Nat) (r : Registry) (reports : List Report) : Registry := reports.foldl (hear t n) r

theorem hear_eq (t : ServiceType) (n : Nat) (r : Registry) (x : Report) :
    hear t n r x = r.step (match x.service with
      | some svc => .upsert ((x.named t svc).toSighting (t.written n)) x.clock
      | none => .remove (x.inst.id t)) := by
  unfold hear Report.event
  cases x.service with
  | some svc => rfl
  | none =>
    simp only [BrowseEvent.told?, Instance.peerId_written]
    rfl

theorem Keyed.hear (h : Keyed r.entries) (x : Report) : Keyed (hear t n r x).entries := by
  rw [hear_eq]
  exact h.step _

theorem Keyed.heard (h : Keyed r.entries) (reports : List Report) : Keyed (heard t n r reports).entries := by
  induction reports generalizing r with
  | nil => exact h
  | cons x reports ih => exact ih (h.hear x)

/-- A report concerns the host of its instance alone. -/
theorem find?_hear (h : Keyed r.entries) (x : Report) (id : String) :
    (hear t n r x).find? id =
      if id = x.inst.id t then
        x.service.map fun svc => sighted ((x.named t svc).toSighting (t.written n)) x.clock (r.find? id)
      else r.find? id := by
  rw [hear_eq, find?_step h]
  cases x.service with
  | some svc =>
    simp only [Call.act, Instance.peerId_toSighting (show (x.named t svc).fullname = x.inst.written t x.dots from rfl)]
    rfl
  | none => rfl

theorem find?_heard (h : Keyed r.entries) (hid : ∀ x ∈ reports, id ≠ x.inst.id t) :
    (heard t n r reports).find? id = r.find? id := by
  induction reports generalizing r with
  | nil => rfl
  | cons x reports ih =>
    obtain ⟨hx, hreports⟩ := List.forall_mem_cons.1 hid
    exact (ih (h.hear x) hreports).trans ((find?_hear h x id).trans (if_neg hx))

theorem heard_append (t : ServiceType) (n : Nat) (r : Registry) (before later : List Report) :
    heard t n r (before ++ later) = heard t n (heard t n r before) later := List.foldl_append

/-- A host has the mark of the user only from before. -/
theorem isManual_heard (h : Keyed r.entries) (reports : List Report)
    (hm : ((heard t n r reports).find? id).any (·.peer.isManual)) : (r.find? id).any (·.peer.isManual) := by
  induction reports generalizing r with
  | nil => exact hm
  | cons x reports ih =>
    have hx := ih (h.hear x) hm
    rw [find?_hear h] at hx
    split at hx
    · cases hs : x.service with
      | none => rw [hs] at hx; cases hx
      | some svc => rw [hs] at hx; exact hx
    · exact hx

/-- The last report of an instance decides whether its host is there, and if so which. -/
theorem find?_last (h : Keyed r.entries) (hx : ∀ y ∈ later, y.inst ≠ x.inst) :
    (heard t n r (before ++ x :: later)).find? (x.inst.id t) =
      x.service.map fun svc =>
        sighted ((x.named t svc).toSighting (t.written n)) x.clock ((heard t n r before).find? (x.inst.id t)) := by
  have hother : ∀ y ∈ later, x.inst.id t ≠ y.inst.id t :=
    fun y hy hid => hx y hy (Instance.id_injective hid).symm
  have hb := h.heard (t := t) (n := n) before
  rw [heard_append]
  exact (find?_heard (hb.hear x) hother).trans ((find?_hear hb x _).trans (if_pos rfl))

/-- Instances and their hosts. The name of an instance is found in its full name, a sighting and a withdrawal of it tell
the same id, which is no other's. Whatever hosts there were before and whatever is reported in whatever order: a
withdrawal takes out the host of its own instance and leaves all others, a sighting touches no other host, nor does
anything touch a host that nothing is reported of; and after all, an instance that withdrew last has no host, and one
that was resolved last has the host that this told. A mark of the user on it is from before. -/
theorem hosts_of_reports (t : ServiceType) (n timeout : Nat) (calls : List Call) :
    let r := run { staleTimeout := timeout } calls
    (∀ (i : Instance) (k : Nat),
      ServiceName.inst (i.written t k) (t.written n) = i.name ∧
      ServiceName.peerId (i.written t k) (t.written n) = i.id t ∧
      ∀ svc : ResolvedService, svc.fullname = i.written t k → (svc.toSighting (t.written n)).peerId = i.id t) ∧
    (∀ i j : Instance, i.id t = j.id t → i = j) ∧
    (∀ reports x id, x.service = none →
      (heard t n r (reports ++ [x])).find? id = if id = x.inst.id t then none else (heard t n r reports).find? id) ∧
    (∀ reports x id, id ≠ x.inst.id t →
      (heard t n r (reports ++ [x])).find? id = (heard t n r reports).find? id) ∧
    (∀ reports id, (∀ x ∈ reports, id ≠ x.inst.id t) → (heard t n r reports).find? id = r.find? id) ∧
    ∀ before x later, (∀ y ∈ later, y.inst ≠ x.inst) →
      let after := heard t n r (before ++ x :: later)
      (x.service = none → after.find? (x.inst.id t) = none) ∧
      ∀ svc, x.service = some svc → ∃ manual,
        after.find? (x.inst.id t) = some ⟨{ x.peer t n svc with isManual := manual }, x.clock⟩ ∧
        (manual = true → ∃ e, r.find? (x.inst.id t) = some e ∧ e.peer.isManual = true) := by
  intro r
  have hr : Keyed r.entries := Keyed.nil.run calls
  have hheard (reports : List Report) : Keyed (heard t n r reports).entries := hr.heard reports
  refine ⟨fun i k => ⟨i.inst_written, i.peerId_written, fun svc => i.peerId_toSighting⟩, fun i j h => i.id_injective h,
    ?_, ?_, fun reports id hid => find?_heard hr hid, ?_⟩
  · intro reports x id hx
    rw [heard_append]
    exact (find?_hear (hheard reports) x id).trans (by rw [hx]; rfl)
  · intro reports x id hid
    rw [heard_append]
    exact (find?_hear (hheard reports) x id).trans (if_neg hid)
  · intro before x later hlater after
    have hlast : after.find? (x.inst.id t) = _ := find?_last hr hlater
    refine ⟨fun hx => hlast.trans (by rw [hx]; rfl), fun svc hx => ?_⟩
    refine ⟨((heard t n r before).find? (x.inst.id t)).any (·.peer.isManual), hlast.trans (by rw [hx]; rfl), fun hm => ?_⟩
    obtain ⟨e, he, hmanual⟩ := (Option.any_eq_true ..).1 (isManual_heard hr before hm)
    exact ⟨e, he, hmanual⟩

/-- An instance has the full name of another for its name. Only it withdraws. -/
theorem hosts_of_reports_nested :
    ∃ (t : ServiceType) (inner outer : Instance),
      outer.id t = "Den.v2._rootstream._tcp.local._rootstream._tcp.local" ∧
      ∀ svc : ResolvedService,
        let after := heard t 1 (run {} [])
          [⟨inner, 0, some svc, 1⟩, ⟨outer, 1, some svc, 2⟩, ⟨outer, 2, none, 3⟩]
        after.find? (outer.id t) = none ∧
          ∃ e, after.find? "Den.v2._rootstream._tcp.local" = some e ∧ e.peer.id = "Den.v2._rootstream._tcp.local" := by
  let t : ServiceType := ⟨"_rootstream._tcp", "local", by decide, by simp, by simp, by decide, by decide⟩
  let inner : Instance := ⟨"Den.v2", by simp⟩
  let outer : Instance := ⟨"Den.v2._rootstream._tcp.local", by simp⟩
  obtain ⟨hnames, -, hwithdrawn, -, -, hlast⟩ := hosts_of_reports t 1 60000000000 []
  refine ⟨t, inner, outer, by decide, fun svc => ⟨?_, ?_⟩⟩
  · exact (hlast [⟨inner, 0, some svc, 1⟩, ⟨outer, 1, some svc, 2⟩] ⟨outer, 2, none, 3⟩ [] (by simp)).1 rfl
  · have hne : outer ≠ inner := by decide
    have hother : ∀ y ∈ [⟨outer, 1, some svc, 2⟩, ⟨outer, 2, none, 3⟩], (y : Report).inst ≠ inner := by simp [hne]
    obtain ⟨manual, hfound, -⟩ := (hlast [] ⟨inner, 0, some svc, 1⟩ _ hother).2 svc rfl
    exact ⟨_, hfound, (hnames inner 0).2.2 _ rfl⟩

end Registry
end DeskStream
