import HlaCoordination.Proofs.Stored
import HlaCoordination.Proofs.SyncTable.Silence
import Mathlib.Logic.Function.Basic

/-! What is true of every point in every table, however tables are saved and restored among each
other and whoever is said to be joined. The snapshots of all tables are kept in one place, and any
table may be restored from any of them. Runs are listed newest first. -/
namespace HlaCoordination

open Std

structure SyncPoint.WellFormed (key : String) (p : SyncPoint) : Prop where
  keyed : key ≠ ""
  named : p.label = key
  restricted : ∀ targets, p.scope = .restricted targets →
    targets ≠ ∅ ∧ ∀ h ∈ p.achieved, h ∈ targets
  /-- Somebody has achieved a synchronized point, and all its targets have. -/
  synchronized : p.status = .synchronized → p.achieved ≠ ∅ ∧
    ∀ targets, p.scope = .restricted targets → ∀ h ∈ targets, h ∈ p.achieved

namespace SyncPoint.WellFormed

variable {p : SyncPoint} {key : String} {h : FederateHandle} {joined : HandleSet}
  {policy : ResignPolicy}

theorem opened {tag : Octets} {targets : HandleSet} {g : FederateHandle} (keyed : key ≠ "") :
    WellFormed key ⟨key, tag, .ofTargets targets, .announced, g, ∅⟩ := by
  constructor
  · exact keyed
  · rfl
  · intro ts scope
    unfold SyncScope.ofTargets at scope
    split at scope
    · cases scope
    · rename_i some_target
      cases scope
      constructor
      · intro none_left
        subst none_left
        exact some_target rfl
      · intro h achieved
        exact absurd achieved ExtTreeSet.not_mem_empty
  · intro done
    cases done

theorem achieve (hp : WellFormed key p) (included : p.scope.includes h = true) :
    WellFormed key (p.achieve h) := by
  have grown {k : FederateHandle} : k ∈ (p.achieve h).achieved ↔ k = h ∨ k ∈ p.achieved :=
    HandleSet.mem_insert_iff
  constructor
  · exact hp.keyed
  · exact hp.named
  · intro targets scope
    obtain ⟨some_target, within⟩ := hp.restricted targets scope
    refine ⟨some_target, ?_⟩
    intro k achieved
    rcases grown.mp achieved with rfl | before
    · have here : p.scope = .restricted targets := scope
      simpa [SyncScope.includes, here] using included
    · exact within k before
  · intro done
    obtain ⟨-, complete⟩ := hp.synchronized done
    refine ⟨ExtTreeSet.ne_empty_of_mem (grown.mpr (Or.inl rfl)), ?_⟩
    intro targets scope k target
    exact grown.mpr (Or.inr (complete targets scope k target))

theorem advance (hp : WellFormed key p) (joined : HandleSet) :
    WellFormed key (p.advance joined) := by
  unfold SyncPoint.advance
  split
  · rename_i complete
    obtain ⟨-, some_member, all⟩ := isComplete_iff.mp complete
    constructor
    · exact hp.keyed
    · exact hp.named
    · exact hp.restricted
    · intro _
      constructor
      · intro nobody
        apply some_member
        apply ExtTreeSet.eq_empty_iff_forall_not_mem.mpr
        intro k member
        have achieved := all k member
        have none_achieved : p.achieved = ∅ := nobody
        rw [none_achieved] at achieved
        exact ExtTreeSet.not_mem_empty achieved
      · intro targets scope k target
        have here : p.scope = .restricted targets := scope
        apply all k
        rw [here]
        exact target
  · exact hp

theorem forget (hp : WellFormed key p) (announced : p.status = .announced)
    (targeted : (p.forget h policy).scope.hasNoTargets = false) :
    WellFormed key (p.forget h policy) := by
  have shrunk {k : FederateHandle} :
      k ∈ (p.forget h policy).achieved ↔ k ≠ h ∧ k ∈ p.achieved := HandleSet.mem_erase_iff
  constructor
  · exact hp.keyed
  · exact hp.named
  · intro targets scope
    have some_target : targets ≠ ∅ := by
      intro none_left
      rw [scope, none_left] at targeted
      cases targeted
    refine ⟨some_target, ?_⟩
    intro k achieved
    obtain ⟨other, before⟩ := shrunk.mp achieved
    cases policy with
    | retain => exact (hp.restricted targets scope).2 k before
    | prune =>
      cases was : p.scope with
      | federationWide =>
        simp [SyncPoint.forget, was, SyncScope.prune] at scope
      | restricted targets₀ =>
        simp only [SyncPoint.forget, was, SyncScope.prune, SyncScope.restricted.injEq] at scope
        rw [← scope]
        exact HandleSet.mem_erase_iff.mpr ⟨other, (hp.restricted targets₀ was).2 k before⟩
  · intro done
    have still : p.status = .synchronized := done
    rw [announced] at still
    cases still

theorem afterResignation (hp : WellFormed key p)
    (targeted : (SyncTable.afterResignation p h joined policy).scope.hasNoTargets = false) :
    WellFormed key (SyncTable.afterResignation p h joined policy) := by
  cases status : p.status with
  | synchronized =>
    have idle : SyncTable.afterResignation p h joined policy = p := by
      simp [SyncTable.afterResignation, isSynchronized, status]
    rw [idle]
    exact hp
  | announced =>
    have looked : SyncTable.afterResignation p h joined policy =
        (p.forget h policy).advance joined := by
      simp [SyncTable.afterResignation, isSynchronized, status]
    rw [looked] at targeted ⊢
    rw [advance_scope] at targeted
    exact (hp.forget status targeted).advance joined

theorem targeted (hp : WellFormed key p) : p.scope.hasNoTargets = false := by
  cases scope : p.scope with
  | federationWide => rfl
  | restricted targets =>
    have some_target := (hp.restricted targets scope).1
    simpa [SyncScope.hasNoTargets] using some_target

end SyncPoint.WellFormed

namespace SyncTable

variable {t t' : SyncTable} {label : String} {h : FederateHandle} {joined : HandleSet}
  {policy : ResignPolicy}

def WellFormed (t : SyncTable) : Prop :=
  ∀ (key : String) (p : SyncPoint), t.points[key]? = some p → p.WellFormed key

theorem wellFormed_empty : WellFormed {} := by
  intro key p hp
  simp at hp

namespace WellFormed

theorem insert (ht : t.WellFormed) {p : SyncPoint} (hp : p.WellFormed label) :
    WellFormed { t with points := t.points.insert label p } := by
  intro key q hq
  rcases getElem?_insert_eq_some_iff.mp hq with ⟨rfl, rfl⟩ | ⟨-, held⟩
  · exact hp
  · exact ht key q held

theorem resigned (ht : t.WellFormed) (h : FederateHandle) (joined : HandleSet)
    (policy : ResignPolicy) : (t.resigned h joined policy).2.WellFormed := by
  intro key q hq
  rw [getElem?_resigned, Option.filter_eq_some_iff, Option.map_eq_some_iff] at hq
  obtain ⟨⟨p, held, rfl⟩, targeted⟩ := hq
  apply (ht key p held).afterResignation
  simpa using targeted

theorem serve (ht : t.WellFormed) (c : SyncCall) : (t.serve (.call c)).2.WellFormed := by
  cases c with
  | register label tag targets g joined =>
    rw [SyncTable.serve]
    rcases outcome : t.tryRegister label tag targets g joined with ⟨e | events, t'⟩
    · rwa [(tryRegister_error outcome).1]
    · obtain ⟨keyed, -, -, -, became⟩ := register_eq_ok_iff.mp (completed_eq_ok_iff.mpr outcome)
      rw [became]
      exact ht.insert (.opened keyed)
  | achieve label h joined =>
    rw [SyncTable.serve]
    rcases outcome : t.tryAchieve label h joined with ⟨e | events, t'⟩
    · rwa [(tryAchieve_error outcome).1]
    · obtain ⟨p, held, included, -, became⟩ :=
        achieve_eq_ok_iff.mp (completed_eq_ok_iff.mpr outcome)
      rw [became]
      exact ht.insert (((ht label p held).achieve included).advance joined)
  | resigned h joined policy => exact ht.resigned h joined policy
  | announcements h => exact ht

theorem restore (ht : t.WellFormed) (u : SyncTable) :
    (u.serve (.restore t.snapshot)).2.WellFormed := by
  rw [SyncTable.serve, tryRestore_snapshot]
  exact ht

theorem getElem?_resigned_of_synchronized (ht : t.WellFormed) {p : SyncPoint}
    (held : t.points[label]? = some p) (done : p.status = .synchronized) (h : FederateHandle)
    (joined : HandleSet) (policy : ResignPolicy) :
    (t.resigned h joined policy).2.points[label]? = some p := by
  have idle : afterResignation p h joined policy = p := by
    simp [afterResignation, SyncPoint.isSynchronized, done]
  rw [getElem?_resigned, held, Option.map_some, idle, Option.filter_some,
    (ht label p held).targeted]
  rfl

theorem toList_rollCall (ht : t.WellFormed) (h : FederateHandle) :
    (t.rollCall h).toList = (t.points.values.filter fun p =>
      p.scope.isFederationWide && p.achieved.contains h).map fun p => (p.label, p.tag) := by
  let called (p : SyncPoint) : Bool := p.scope.isFederationWide && p.achieved.contains h
  let roll : ExtTreeMap String Octets :=
    t.points.filterMap fun _ p => if called p then some p.tag else none
  have entries : roll.toList =
      (t.points.values.filter called).map fun p => (p.label, p.tag) := by
    rw [ExtTreeMap.toList_filterMap, values_eq_map_snd, List.filter_map, List.map_map,
      ← List.filterMap_eq_map, List.filterMap_filter]
    apply List.filterMap_congr
    rintro ⟨key, p⟩ listed
    have named := (ht key p (ExtTreeMap.mem_toList_iff_getElem?_eq_some.mp listed)).named
    by_cases answers : called p = true <;> simp [answers, named]
  have same : t.rollCall h = roll := by
    rw [rollCall, ← entries, ofList_toList]
  rw [same, entries]

theorem getElem?_rollCall_eq_some_iff (ht : t.WellFormed) {tag : Octets} :
    (t.rollCall h)[label]? = some tag ↔ ∃ p, t.points[label]? = some p ∧
      p.scope = .federationWide ∧ h ∈ p.achieved ∧ p.tag = tag := by
  have wide (s : SyncScope) : s.isFederationWide = true ↔ s = .federationWide := by
    cases s <;> simp [SyncScope.isFederationWide]
  rw [← ExtTreeMap.mem_toList_iff_getElem?_eq_some, ht.toList_rollCall]
  simp only [List.mem_map, List.mem_filter, Bool.and_eq_true, wide,
    ExtTreeSet.contains_iff_mem, mem_values_iff, Prod.mk.injEq]
  constructor
  · rintro ⟨p, ⟨⟨key, held⟩, scope, achieved⟩, rfl, rfl⟩
    rw [(ht key p held).named]
    exact ⟨p, held, scope, achieved, rfl⟩
  · rintro ⟨p, held, scope, achieved, rfl⟩
    exact ⟨p, ⟨⟨label, held⟩, scope, achieved⟩, (ht label p held).named, rfl⟩

end WellFormed

end SyncTable

/-- What may be done with several tables. A restore names one of the snapshots taken so far. -/
inductive TableStep (ι : Type) where
  | call (i : ι) (c : SyncCall)
  | save (i : ι)
  | restore (i : ι) (number : Nat)
  | finish (i : ι)

structure Tables (ι : Type) where
  table : ι → SyncTable := fun _ => {}
  saved : List Snapshot := []

namespace Tables

variable {ι : Type} [DecidableEq ι]

def serve (w : Tables ι) (i : ι) (m : SyncMove) : Tables ι :=
  { w with table := Function.update w.table i ((w.table i).serve m).2 }

def handle (w : Tables ι) : TableStep ι → Tables ι
  | .call i c => w.serve i (.call c)
  | .save i => { w with saved := w.saved ++ [(w.table i).snapshot] }
  | .restore i number => (w.saved[number]?).elim w fun s => w.serve i (.restore s)
  | .finish i => w.serve i .finish

def after : List (TableStep ι) → Tables ι
  | [] => {}
  | x :: earlier => (after earlier).handle x

structure WellFormed (w : Tables ι) : Prop where
  tables : ∀ i, (w.table i).WellFormed
  saved : ∀ s ∈ w.saved, ∃ t : SyncTable, t.WellFormed ∧ t.snapshot = s

variable {w : Tables ι}

theorem table_serve_self (w : Tables ι) (i : ι) (m : SyncMove) :
    (w.serve i m).table i = ((w.table i).serve m).2 :=
  Function.update_self i _ w.table

theorem table_serve_of_ne (w : Tables ι) {i j : ι} (other : j ≠ i) (m : SyncMove) :
    (w.serve i m).table j = w.table j :=
  Function.update_of_ne other _ w.table

theorem WellFormed.serve (hw : w.WellFormed) (i : ι) {m : SyncMove}
    (served : ((w.table i).serve m).2.WellFormed) : (w.serve i m).WellFormed := by
  constructor
  · intro j
    by_cases same : j = i
    · subst same
      rw [table_serve_self]
      exact served
    · rw [table_serve_of_ne w same]
      exact hw.tables j
  · exact hw.saved

theorem WellFormed.handle (hw : w.WellFormed) (x : TableStep ι) : (w.handle x).WellFormed := by
  cases x with
  | call i c => exact hw.serve i ((hw.tables i).serve c)
  | save i =>
    constructor
    · exact hw.tables
    · intro s hs
      rcases List.mem_append.mp hs with before | new
      · exact hw.saved s before
      · obtain rfl := List.mem_singleton.mp new
        exact ⟨w.table i, hw.tables i, rfl⟩
  | restore i number =>
    cases found : w.saved[number]? with
    | none =>
      rw [Tables.handle, found]
      exact hw
    | some s =>
      rw [Tables.handle, found]
      obtain ⟨t, ht, rfl⟩ := hw.saved s (List.mem_of_getElem? found)
      exact hw.serve i (ht.restore (w.table i))
  | finish i => exact hw.serve i (hw.tables i)

theorem after_wellFormed (run : List (TableStep ι)) : (after run).WellFormed := by
  induction run with
  | nil =>
    constructor
    · intro i
      exact SyncTable.wellFormed_empty
    · intro s hs
      cases hs
  | cons x earlier ih => exact ih.handle x

/-- Every point is in order, a roll call finds all it should and nothing else, and a resignation
drops nothing that is synchronized. -/
structure InOrder (t : SyncTable) : Prop where
  wellFormed : t.WellFormed
  called : ∀ (h : FederateHandle) (label : String) (tag : Octets),
    (t.rollCall h)[label]? = some tag ↔ ∃ p, t.points[label]? = some p ∧
      p.scope = .federationWide ∧ h ∈ p.achieved ∧ p.tag = tag
  unclashed : ∀ h : FederateHandle, (t.rollCall h).toList = (t.points.values.filter fun p =>
    p.scope.isFederationWide && p.achieved.contains h).map fun p => (p.label, p.tag)
  kept : ∀ (h : FederateHandle) (joined : HandleSet) (policy : ResignPolicy) (label : String)
    (p : SyncPoint), t.points[label]? = some p → p.status = .synchronized →
      (t.resigned h joined policy).2.points[label]? = some p

/-- At every moment of every run, in each of the tables. -/
theorem after_inOrder (run : List (TableStep ι)) (i : ι) : InOrder ((after run).table i) := by
  have ht := (after_wellFormed run).tables i
  constructor
  · exact ht
  · intro h label tag
    exact ht.getElem?_rollCall_eq_some_iff
  · intro h
    exact ht.toList_rollCall h
  · intro h joined policy label p held done
    exact ht.getElem?_resigned_of_synchronized held done h joined policy

end Tables

end HlaCoordination
