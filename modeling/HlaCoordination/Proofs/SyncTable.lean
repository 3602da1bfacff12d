import HlaCoordination.Proofs.OrderedTables
import HlaCoordination.SyncPoint.Table

/-! What each operation of a point table does: exactly when it succeeds, what becomes of the entry
of any one label, and what is told. -/
namespace HlaCoordination

open Std

namespace SyncPoint

theorem isComplete_iff {p : SyncPoint} {joined : HandleSet} :
    p.isComplete joined = true ↔ p.status = .announced ∧ p.scope.members joined ≠ ∅ ∧
      ∀ h ∈ p.scope.members joined, h ∈ p.achieved := by
  cases hs : p.status <;>
    simp [isComplete, isSynchronized, hs, HandleSet.isSubset_iff]

theorem advance_of_synchronized {p : SyncPoint} (h : p.status = .synchronized)
    (joined : HandleSet) : p.advance joined = p := by
  simp [advance, isComplete, isSynchronized, h]

@[simp] theorem advance_scope (p : SyncPoint) (joined : HandleSet) :
    (p.advance joined).scope = p.scope := by
  unfold advance synchronize; split <;> rfl

end SyncPoint

namespace SyncEvent

def label : SyncEvent → String
  | .announced label _ _ | .synchronized label _ => label

def recipients : SyncEvent → HandleSet
  | .announced _ _ recipients | .synchronized _ recipients => recipients

end SyncEvent

namespace SyncTable

variable {t t' : SyncTable} {events : List SyncEvent} {label : String} {tag : Octets}
  {targets joined : HandleSet} {g h : FederateHandle}

theorem unknownTarget?_eq_none_iff :
    unknownTarget? targets joined = none ↔ ∀ h ∈ targets, h ∈ joined := by
  simp [unknownTarget?]

theorem completed_eq_ok_iff {α : Type} {result : Except RtiError α × SyncTable} {a : α} :
    completed result = .ok (a, t) ↔ result = (.ok a, t) := by
  obtain ⟨_ | _, _⟩ := result <;> simp [completed]

theorem completed_eq_error_iff {α : Type} {result : Except RtiError α × SyncTable} {e : RtiError} :
    completed result = .error e ↔ ∃ t, result = (.error e, t) := by
  obtain ⟨_ | _, _⟩ := result <;> simp [completed]

theorem register_eq_ok_iff :
    t.register label tag targets g joined = .ok (events, t') ↔
      label ≠ "" ∧ (∀ h ∈ targets, h ∈ joined) ∧ label ∉ t.points ∧
      events = t.emit [.announced label tag ((SyncScope.ofTargets targets).members joined)] ∧
      t' = { t with
        points := t.points.insert label ⟨label, tag, .ofTargets targets, .announced, g, ∅⟩ } := by
  rw [← unknownTarget?_eq_none_iff, register, completed_eq_ok_iff]
  unfold tryRegister
  by_cases hl : label = ""
  · simp [hl]
  · cases hu : unknownTarget? targets joined with
    | some k => simp [hl]
    | none =>
      by_cases hc : label ∈ t.points
      · simp [hl, hc]
      · simp only [hl, hc, if_false, ExtTreeMap.contains_iff_mem, Except.ok.injEq, Prod.mk.injEq,
          ne_eq, not_false_eq_true, true_and]
        exact and_congr eq_comm eq_comm

theorem achieve_eq_ok_iff :
    t.achieve label h joined = .ok (events, t') ↔
      ∃ p, t.points[label]? = some p ∧ p.scope.includes h = true ∧
        events = t.emit (if (p.achieve h).isComplete joined then
          [.synchronized label ((p.achieve h).scope.members joined)] else []) ∧
        t' = { t with points := t.points.insert label ((p.achieve h).advance joined) } := by
  rw [achieve, completed_eq_ok_iff]
  unfold tryAchieve
  cases hp : t.points[label]? with
  | none => simp
  | some p =>
    by_cases hi : p.scope.includes h = true
    · simp only [hi, if_true, Except.ok.injEq, Prod.mk.injEq, Option.some.injEq, true_and,
        exists_eq_left']
      exact and_congr eq_comm eq_comm
    · simp [hi]

theorem tryRegister_error {e : RtiError}
    (failed : t.tryRegister label tag targets g joined = (.error e, t')) :
    t' = t ∧ (label = "" ∧ e = .internal .emptyLabel ∨
      (∃ h ∈ targets, e = .invalidSyncSet label h) ∨ e = .syncPointAlreadyExists label) := by
  unfold tryRegister at failed
  by_cases hl : label = ""
  · simp only [hl, if_true, Prod.mk.injEq, Except.error.injEq] at failed
    exact ⟨failed.2.symm, Or.inl ⟨hl, failed.1.symm⟩⟩
  · simp only [hl, if_false] at failed
    cases hu : unknownTarget? targets joined with
    | some h =>
      simp only [hu, Prod.mk.injEq, Except.error.injEq] at failed
      have named : h ∈ targets := by simpa using List.mem_of_find?_eq_some hu
      exact ⟨failed.2.symm, Or.inr (Or.inl ⟨h, named, failed.1.symm⟩)⟩
    | none =>
      simp only [hu] at failed
      split at failed
      · cases failed
        exact ⟨rfl, Or.inr (Or.inr rfl)⟩
      · cases failed

theorem tryAchieve_error {e : RtiError} (failed : t.tryAchieve label h joined = (.error e, t')) :
    t' = t ∧ (e = .syncPointDoesNotExist label ∨ e = .notInSyncSet label h) := by
  unfold tryAchieve at failed
  split at failed
  · cases failed
    exact ⟨rfl, Or.inl rfl⟩
  · split at failed
    · cases failed
    · cases failed
      exact ⟨rfl, Or.inr rfl⟩

theorem tryRestore_error {s : Snapshot} {e : RtiError} (failed : t.tryRestore s = (.error e, t')) :
    t' = t ∧ e = .internal .malformedSnapshot := by
  unfold tryRestore at failed
  split at failed
  · cases failed
  · cases failed
    exact ⟨rfl, rfl⟩

theorem register_error {e : RtiError} (failed : t.register label tag targets g joined = .error e) :
    label = "" ∧ e = .internal .emptyLabel ∨ (∃ h ∈ targets, e = .invalidSyncSet label h) ∨
      e = .syncPointAlreadyExists label :=
  let ⟨_, failed⟩ := completed_eq_error_iff.mp failed
  (tryRegister_error failed).2

theorem achieve_error {e : RtiError} (failed : t.achieve label h joined = .error e) :
    e = .syncPointDoesNotExist label ∨ e = .notInSyncSet label h :=
  let ⟨_, failed⟩ := completed_eq_error_iff.mp failed
  (tryAchieve_error failed).2

/-- A resignation works on the points one by one and drops those left without targets. -/
theorem getElem?_resigned (t : SyncTable) (h : FederateHandle) (joined : HandleSet)
    (policy : ResignPolicy) (label : String) :
    (t.resigned h joined policy).2.points[label]? =
      (t.points[label]?.map (afterResignation · h joined policy)).filter
        (!·.scope.hasNoTargets) := by
  simp [resigned, ExtTreeMap.getElem?_map]

section Telling

variable (live : t.restoring = false)
  (named : ∀ (l : String) (p : SyncPoint), t.points[l]? = some p → p.label = l)
include live named

theorem announcementsForJoiner_filter (h : FederateHandle) (label : String) :
    (t.announcementsForJoiner h).filter (·.label = label) =
      (t.points[label]?.bind fun p =>
        if p.scope.isFederationWide && !p.isSynchronized then
          some (.announced label p.tag (HandleSet.ofList [h])) else none).toList := by
  have hm : t.announcementsForJoiner h = t.points.values.filterMap fun p =>
      if p.scope.isFederationWide && !p.isSynchronized then
        some (.announced p.label p.tag (HandleSet.ofList [h])) else none := by
    simp [announcementsForJoiner, emit, live, ← List.filterMap_eq_map, List.filterMap_filter]
  rw [hm, filter_filterMap_values]
  · cases hp : t.points[label]? with
    | none => rfl
    | some p => simp [named label p hp]
  · intro l p e hp he
    obtain ⟨-, ⟨⟩⟩ := Option.ite_none_right_eq_some.mp he
    exact named l p hp

theorem resigned_filter (h : FederateHandle) (joined : HandleSet) (policy : ResignPolicy)
    (label : String) :
    (t.resigned h joined policy).1.filter (·.label = label) =
      (t.points[label]?.bind (resignationEvent? · h joined policy)).toList := by
  have hm : (t.resigned h joined policy).1 =
      t.points.values.filterMap (resignationEvent? · h joined policy) := by
    simp [resigned, emit, live]
  rw [hm, filter_filterMap_values]
  intro l p e hp he
  obtain ⟨-, ⟨⟩⟩ := Option.ite_none_right_eq_some.mp he
  exact named l p hp

end Telling

end SyncTable

end HlaCoordination
