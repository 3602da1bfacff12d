import HlaCoordination.Proofs.SyncTable

/-! Restoring silences a table and does nothing else. A table that is being restored and one that is
not go through the same calls side by side: only what is told sets them apart, and finishing the
restoration removes even that. -/
namespace HlaCoordination

inductive SyncCall where
  | register (label : String) (tag : Octets) (targets : HandleSet) (registrant : FederateHandle)
    (joined : HandleSet)
  | achieve (label : String) (h : FederateHandle) (joined : HandleSet)
  | resigned (h : FederateHandle) (joined : HandleSet) (policy : ResignPolicy)
  | announcements (h : FederateHandle)

inductive SyncMove where
  | call (c : SyncCall)
  | restore (s : Snapshot)
  | finish

abbrev SyncOutcome := Except RtiError (List SyncEvent) × SyncTable

namespace SyncTable

def serve (t : SyncTable) : SyncMove → SyncOutcome
  | .call (.register label tag targets g joined) => t.tryRegister label tag targets g joined
  | .call (.achieve label h joined) => t.tryAchieve label h joined
  | .call (.resigned h joined policy) =>
    let (events, t') := t.resigned h joined policy
    (.ok events, t')
  | .call (.announcements h) => (.ok (t.announcementsForJoiner h), t)
  | .restore s =>
    let (done, t') := t.tryRestore s
    (done.map fun () => [], t')
  | .finish => (.ok [], t.finishRestore)

def moved (t : SyncTable) : List SyncMove → SyncTable
  | [] => t
  | move :: before => ((t.moved before).serve move).2

def outcomes (t : SyncTable) : List SyncMove → List SyncOutcome
  | [] => []
  | move :: before => (t.moved before).serve move :: t.outcomes before

/-- The same outcome while a snapshot is being restored. -/
def silenced (o : SyncOutcome) : SyncOutcome :=
  (o.1.map fun _ => [], { o.2 with restoring := true })

theorem serve_restoring {t : SyncTable} (live : t.restoring = false) (c : SyncCall) :
    { t with restoring := true }.serve (.call c) = silenced (t.serve (.call c)) := by
  obtain ⟨points, restoring⟩ := t
  cases live
  cases c with
  | register label tag targets g joined =>
    simp only [serve, tryRegister]
    split
    · rfl
    · split
      · rfl
      · split <;> rfl
  | achieve label h joined =>
    simp only [serve, tryAchieve]
    split
    · rfl
    · split <;> rfl
  | resigned h joined policy => rfl
  | announcements h => rfl

theorem restoring_serve (t : SyncTable) (c : SyncCall) :
    (t.serve (.call c)).2.restoring = t.restoring := by
  cases c with
  | register label tag targets g joined =>
    rw [serve]
    rcases outcome : t.tryRegister label tag targets g joined with ⟨e | events, t'⟩
    · rw [(tryRegister_error outcome).1]
    · obtain ⟨-, -, -, -, became⟩ := register_eq_ok_iff.mp (completed_eq_ok_iff.mpr outcome)
      rw [became]
  | achieve label h joined =>
    rw [serve]
    rcases outcome : t.tryAchieve label h joined with ⟨e | events, t'⟩
    · rw [(tryAchieve_error outcome).1]
    · obtain ⟨p, -, -, -, became⟩ := achieve_eq_ok_iff.mp (completed_eq_ok_iff.mpr outcome)
      rw [became]
  | resigned h joined policy => rfl
  | announcements h => rfl

theorem finishRestore_of_live {t : SyncTable} (live : t.restoring = false) :
    t.finishRestore = t := by
  cases t
  cases live
  rfl

theorem restoring_moved (t : SyncTable) (calls : List SyncCall) :
    (t.moved (calls.map .call)).restoring = t.restoring := by
  induction calls with
  | nil => rfl
  | cons c before ih => rw [List.map_cons, moved, restoring_serve, ih]

section SideBySide

variable {t : SyncTable} (live : t.restoring = false) (calls : List SyncCall)
include live

theorem moved_restoring : { t with restoring := true }.moved (calls.map .call) =
    { t.moved (calls.map .call) with restoring := true } := by
  induction calls with
  | nil => rfl
  | cons c before ih =>
    have still := (restoring_moved t before).trans live
    rw [List.map_cons, moved, moved, ih, serve_restoring still]
    rfl

theorem outcomes_restoring : { t with restoring := true }.outcomes (calls.map .call) =
    (t.outcomes (calls.map .call)).map silenced := by
  induction calls with
  | nil => rfl
  | cons c before ih =>
    have still := (restoring_moved t before).trans live
    rw [List.map_cons, outcomes, outcomes, List.map_cons, ih, moved_restoring live,
      serve_restoring still]

theorem finish_moved_restoring : { t with restoring := true }.moved (.finish :: calls.map .call) =
    t.moved (calls.map .call) := by
  have still := (restoring_moved t calls).trans live
  rw [moved, moved_restoring live]
  exact finishRestore_of_live still

end SideBySide

/-- Call by call, restoring changes what is told and nothing else; and once it is finished, no
further move can tell which of two tables was the one being restored. -/
theorem restoring_only_silences (m : PointMap) (calls : List SyncCall) :
    (SyncTable.mk m true).outcomes (calls.map .call) =
        ((SyncTable.mk m false).outcomes (calls.map .call)).map silenced ∧
      (SyncTable.mk m true).moved (.finish :: calls.map .call) =
        (SyncTable.mk m false).moved (calls.map .call) ∧
      ∀ further : List SyncMove,
        ((SyncTable.mk m true).moved (.finish :: calls.map .call)).outcomes further =
          ((SyncTable.mk m false).moved (.finish :: calls.map .call)).outcomes further := by
  have live : (SyncTable.mk m false).restoring = false := rfl
  have finished := finish_moved_restoring live calls
  have unmoved : (SyncTable.mk m false).moved (.finish :: calls.map .call) =
      (SyncTable.mk m false).moved (calls.map .call) :=
    finishRestore_of_live ((restoring_moved _ calls).trans live)
  refine ⟨outcomes_restoring live calls, finished, ?_⟩
  intro further
  rw [unmoved, ← finished]

end SyncTable

end HlaCoordination
