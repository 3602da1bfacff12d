import HlaCoordination.Proofs.Federation.Run

/-! Runs in which point tables are restored. A restore replaces the table under whoever is joined
and looks at no point; a point is looked at when somebody achieves it and when somebody resigns. So
a point may stay open though every member is down as having achieved it, and what matters is where
those achievements come from. Runs and chronicles are listed newest first. -/
namespace HlaCoordination.Federation

open Std

variable {f f' : Federation} {label : String} {h : FederateHandle}

/-- An action, the restore of any snapshot, whoever saved it, or the end of a restore. -/
inductive Motion where
  | act (a : Action)
  | restore (s : Snapshot)
  | finish
  deriving DecidableEq

inductive ChronicleEntry where
  | done (d : Update)
  | restored (points : PointMap)
  deriving DecidableEq

abbrev Chronicle := List ChronicleEntry

def carry (f : Federation) : Motion → Option ChronicleEntry × Federation
  | .act a => ((f.act a).update.map .done, (f.act a).federation)
  | .restore s =>
    match f.restore s with
    | (.ok (), f') => (some (.restored f'.sync.points), f')
    | (.error _, f') => (none, f')
  | .finish => (none, f.finishRestore)

def carried (f : Federation) : List Motion → Federation
  | [] => f
  | m :: earlier => ((f.carried earlier).carry m).2

def chronicle (f : Federation) : List Motion → Chronicle
  | [] => []
  | m :: earlier => ((f.carried earlier).carry m).1.toList ++ f.chronicle earlier

/-- An open point that has members, all of whom have achieved it. -/
def Stuck (f : Federation) (label : String) : Prop :=
  ∃ p, f.sync.points[label]? = some p ∧ p.status = .announced ∧
    p.scope.members f.joined ≠ ∅ ∧ ∀ h ∈ p.scope.members f.joined, h ∈ p.achieved

theorem stuck_iff_isComplete :
    f.Stuck label ↔ f.sync.points[label]?.any (·.isComplete f.joined) = true := by
  unfold Stuck
  cases f.sync.points[label]? with
  | none => simp
  | some p => simp [SyncPoint.isComplete_iff]

instance (f : Federation) (label : String) : Decidable (f.Stuck label) :=
  decidable_of_iff _ stuck_iff_isComplete.symm

/-- The update makes the table look at the point again. -/
def Update.Examines (label : String) : Update → Prop
  | .joined _ | .registered .. => False
  | .resigned _ => True
  | .achieved _ label' => label' = label

/-- After this update a federate's achievement of a label is not the one of a snapshot any more. -/
def Update.Renews (label : String) (h : FederateHandle) : Update → Prop
  | .joined _ => False
  | .resigned h' => h' = h
  | .registered _ label' _ _ => label' = label
  | .achieved h' label' => h' = h ∧ label' = label

/-- The snapshot that was restored last has the federate's achievement of the label, and nothing has
renewed it since. -/
def Inherited (label : String) (h : FederateHandle) : Chronicle → Prop
  | [] => False
  | .restored points :: _ => ∃ p, points[label]? = some p ∧ h ∈ p.achieved
  | .done d :: past => ¬ d.Renews label h ∧ Inherited label h past

def restored? (label : String) : Chronicle → Option SyncPoint
  | [] => none
  | .restored points :: _ => points[label]?
  | .done _ :: past => restored? label past

/-- Where an open point and its achievements come from. -/
structure Attributed (joined : HandleSet) (origin : Option SyncPoint)
    (inherited : FederateHandle → Prop) (p : SyncPoint) : Prop where
  kept : ∀ h, inherited h → h ∈ p.achieved
  recent : ∀ h ∈ p.achieved, inherited h ∨ h ∈ joined
  stuck : p.isComplete joined = true → ∀ h ∈ p.scope.members joined, inherited h
  restricted : p.isComplete joined = true → p.scope ≠ .federationWide → origin = some p

theorem isComplete_of_restricted {p : SyncPoint} (restricted : p.scope ≠ .federationWide)
    (joined joined' : HandleSet) : p.isComplete joined = p.isComplete joined' := by
  cases scope : p.scope with
  | federationWide => exact absurd scope restricted
  | restricted targets => simp only [SyncPoint.isComplete, scope, SyncScope.members]

theorem advance_of_announced {p : SyncPoint} {joined : HandleSet}
    (announced : (p.advance joined).status = .announced) :
    p.isComplete joined = false ∧ p.advance joined = p := by
  unfold SyncPoint.advance at announced ⊢
  cases complete : p.isComplete joined with
  | true => simp [complete, SyncPoint.synchronize] at announced
  | false => simp

namespace Attributed

variable {joined joined' : HandleSet} {origin : Option SyncPoint}
  {inherited inherited' : FederateHandle → Prop} {p : SyncPoint}

theorem congr (h : Attributed joined origin inherited p) (same : ∀ k, inherited' k ↔ inherited k) :
    Attributed joined origin inherited' p := by
  have : inherited' = inherited := funext fun k => propext (same k)
  rwa [this]

theorem advance (kept : ∀ h, inherited h → h ∈ p.achieved)
    (recent : ∀ h ∈ p.achieved, inherited h ∨ h ∈ joined)
    (announced : (p.advance joined).status = .announced) :
    Attributed joined origin inherited (p.advance joined) := by
  obtain ⟨unready, same⟩ := advance_of_announced announced
  rw [same]
  have unfinished := ne_true_of_eq_false unready
  exact ⟨kept, recent, fun complete => absurd complete unfinished,
    fun complete => absurd complete unfinished⟩

theorem register (blank : p.achieved = ∅) (renewed : ∀ k, ¬ inherited k) :
    Attributed joined origin inherited p := by
  have unfinished : p.isComplete joined ≠ true := by
    intro complete
    obtain ⟨-, some_member, all⟩ := SyncPoint.isComplete_iff.mp complete
    rw [blank] at all
    exact some_member (ExtTreeSet.eq_empty_iff_forall_not_mem.mpr fun k member =>
      ExtTreeSet.not_mem_empty (all k member))
  refine ⟨fun k inherits => absurd inherits (renewed k), ?_,
    fun complete => absurd complete unfinished, fun complete => absurd complete unfinished⟩
  rw [blank]
  exact fun k achieved => absurd achieved ExtTreeSet.not_mem_empty

theorem achieve (h : Attributed joined origin inherited p) {g : FederateHandle}
    (member : g ∈ joined) (renewed : ∀ k, inherited' k ↔ k ≠ g ∧ inherited k)
    (announced : ((p.achieve g).advance joined).status = .announced) :
    Attributed joined origin inherited' ((p.achieve g).advance joined) := by
  refine advance ?_ ?_ announced
  · intro k inherits
    exact HandleSet.mem_insert_iff.mpr (Or.inr (h.kept k ((renewed k).mp inherits).2))
  · intro k achieved
    rw [renewed]
    by_cases same : k = g
    · exact Or.inr (same ▸ member)
    · rcases HandleSet.mem_insert_iff.mp achieved with own | before
      · exact absurd own same
      · exact (h.recent k before).imp_left fun inherits => ⟨same, inherits⟩

theorem resign (h : Attributed joined origin inherited p) {g : FederateHandle}
    (policy : ResignPolicy) (renewed : ∀ k, inherited' k ↔ k ≠ g ∧ inherited k)
    (stay : ∀ k, k ∈ joined' ↔ k ≠ g ∧ k ∈ joined)
    (announced : ((p.forget g policy).advance joined').status = .announced) :
    Attributed joined' origin inherited' ((p.forget g policy).advance joined') := by
  refine advance ?_ ?_ announced
  · intro k inherits
    obtain ⟨other, before⟩ := (renewed k).mp inherits
    exact HandleSet.mem_erase_iff.mpr ⟨other, h.kept k before⟩
  · intro k achieved
    obtain ⟨other, before⟩ := HandleSet.mem_erase_iff.mp achieved
    rw [renewed, stay]
    exact (h.recent k before).imp (⟨other, ·⟩) (⟨other, ·⟩)

/-- One who joins cannot complete the point by an achievement of its own. -/
theorem join (h : Attributed joined origin inherited p) {g : FederateHandle}
    (more : ∀ k, k ∈ joined' ↔ k = g ∨ k ∈ joined) : Attributed joined' origin inherited p := by
  refine ⟨h.kept, ?_, ?_, ?_⟩
  · intro k achieved
    exact (h.recent k achieved).imp_right fun there => (more k).mpr (Or.inr there)
  · intro complete k member
    -- The members of a restricted point stay as they are. A member that a federation-wide point
    -- gains has not achieved it since the restore, as it was not joined.
    cases scope : p.scope with
    | restricted targets =>
      have restricted : p.scope ≠ .federationWide := by simp [scope]
      rw [isComplete_of_restricted restricted joined' joined] at complete
      rw [scope] at member
      exact h.stuck complete k (by rwa [scope])
    | federationWide =>
      obtain ⟨announced, -, all⟩ := SyncPoint.isComplete_iff.mp complete
      simp only [scope, SyncScope.members] at member all
      rcases h.recent k (all k member) with inherits | there
      · exact inherits
      · have before : p.isComplete joined = true := by
          rw [SyncPoint.isComplete_iff, scope]
          exact ⟨announced, ExtTreeSet.ne_empty_of_mem there,
            fun k' there' => all k' ((more k').mpr (Or.inr there'))⟩
        exact h.stuck before k (by rwa [scope])
  · intro complete restricted
    rw [isComplete_of_restricted restricted joined' joined] at complete
    exact h.restricted complete restricted

end Attributed

def Accounted (f : Federation) (past : Chronicle) : Prop :=
  ∀ (label : String) (p : SyncPoint), f.sync.points[label]? = some p → p.status = .announced →
    Attributed f.joined (restored? label past) (Inherited label · past) p

variable {past : Chronicle}

theorem inherited_resigned_iff {g k : FederateHandle} :
    Inherited label k (.done (.resigned g) :: past) ↔ k ≠ g ∧ Inherited label k past := by
  simp [Inherited, Update.Renews, eq_comm]

theorem inherited_achieved_iff {g k : FederateHandle} :
    Inherited label k (.done (.achieved g label) :: past) ↔ k ≠ g ∧ Inherited label k past := by
  simp [Inherited, Update.Renews, eq_comm]

theorem inherited_frame {d : Update} {k : FederateHandle} (other : ¬ d.Renews label k) :
    Inherited label k (.done d :: past) ↔ Inherited label k past := by
  simp [Inherited, other]

theorem Accounted.act (ha : Accounted f past) (a : Action) :
    Accounted (f.act a).federation (((f.act a).update.map .done).toList ++ past) := by
  have step := act_step f a
  generalize (f.act a).update = update, (f.act a).events = events,
    (f.act a).federation = f' at step ⊢
  intro label p hp announced
  cases step with
  | refused => exact ha label p hp announced
  | joined name session h next alive free =>
    refine ((ha label p hp announced).join (g := h) ?_).congr fun k => inherited_frame not_false
    intro k
    rw [mem_joined, mem_joined, ExtTreeMap.mem_insert, Std.compare_eq_iff_eq, eq_comm]
  | resigned g stay member rest =>
    simp only [SyncTable.getElem?_resigned, Option.filter_eq_some_iff, Option.map_eq_some_iff] at hp
    obtain ⟨⟨q, hq, rfl⟩, -⟩ := hp
    cases status : q.status with
    | synchronized =>
      simp [SyncTable.afterResignation, SyncPoint.isSynchronized, status] at announced
    | announced =>
      have looked : SyncTable.afterResignation q g stay f.policy =
          (q.forget g f.policy).advance stay := by
        simp [SyncTable.afterResignation, SyncPoint.isSynchronized, status]
      rw [looked] at announced ⊢
      subst rest
      refine (ha label q hq status).resign f.policy (fun k => inherited_resigned_iff) ?_ announced
      intro k
      rw [mem_joined, mem_joined, ExtTreeMap.mem_erase, ne_eq, Std.compare_eq_iff_eq, eq_comm]
  | registered g label' tag targets events sync member ok =>
    obtain ⟨-, -, -, -, rfl⟩ := SyncTable.register_eq_ok_iff.mp ok
    rcases getElem?_insert_eq_some_iff.mp hp with ⟨rfl, rfl⟩ | ⟨other, hp⟩
    · exact .register rfl fun k inherits => inherits.1 rfl
    · exact (ha label p hp announced).congr fun k => inherited_frame other
  | achieved g label' events sync member ok =>
    obtain ⟨q, hq, -, -, rfl⟩ := SyncTable.achieve_eq_ok_iff.mp ok
    rcases getElem?_insert_eq_some_iff.mp hp with ⟨rfl, rfl⟩ | ⟨other, hp⟩
    · have status : q.status = .announced := by
        have same := (advance_of_announced announced).2
        rw [same] at announced
        exact announced
      exact (ha label' q hq status).achieve (mem_joined.mpr member)
        (fun k => inherited_achieved_iff) announced
    · exact (ha label p hp announced).congr fun k => inherited_frame fun renews => other renews.2

theorem accounted_restored (f : Federation) (past : Chronicle) :
    Accounted f (.restored f.sync.points :: past) := by
  intro label p hp _
  have same (k : FederateHandle) :
      Inherited label k (.restored f.sync.points :: past) ↔ k ∈ p.achieved := by
    simp [Inherited, hp]
  refine ⟨fun k => (same k).mp, fun k achieved => Or.inl ((same k).mpr achieved), ?_, fun _ _ => hp⟩
  intro complete k member
  exact (same k).mpr ((SyncPoint.isComplete_iff.mp complete).2.2 k member)

theorem Accounted.carry (ha : Accounted f past) (m : Motion) :
    Accounted (f.carry m).2 ((f.carry m).1.toList ++ past) := by
  cases m with
  | act a => exact ha.act a
  | restore s =>
    simp only [Federation.carry]
    split
    · exact accounted_restored _ past
    · rename_i failed
      rw [(restore_error failed).1]
      exact ha
  | finish => exact ha

theorem accounted_carried (c : Constants) (run : List Motion) :
    Accounted (c.initial.carried run) (c.initial.chronicle run) := by
  induction run with
  | nil =>
    intro label p hp
    simp [carried, Constants.initial] at hp
  | cons m earlier ih => exact ih.carry m

theorem not_isComplete_advance (p : SyncPoint) (joined : HandleSet) :
    (p.advance joined).isComplete joined = false := by
  cases status : (p.advance joined).status with
  | synchronized => simp [SyncPoint.isComplete, SyncPoint.isSynchronized, status]
  | announced =>
    obtain ⟨unready, same⟩ := advance_of_announced status
    rwa [same]

theorem not_isComplete_afterResignation (p : SyncPoint) (g : FederateHandle) (joined : HandleSet)
    (policy : ResignPolicy) :
    (SyncTable.afterResignation p g joined policy).isComplete joined = false := by
  unfold SyncTable.afterResignation
  split
  · simp [SyncPoint.isComplete, *]
  · exact not_isComplete_advance (p.forget g policy) joined

/-- A point that the table has looked at is not stuck, whatever was restored before. -/
theorem not_stuck_of_examined (f : Federation) (a : Action) {d : Update}
    (update : (f.act a).update = some d) (examined : d.Examines label) :
    ¬ (f.act a).federation.Stuck label := by
  have step := act_step f a
  rw [update] at step
  rw [stuck_iff_isComplete]
  generalize (f.act a).events = events, (f.act a).federation = f' at step ⊢
  cases step with
  | joined | registered => cases examined
  | resigned g stay member rest =>
    subst rest
    rw [SyncTable.getElem?_resigned]
    cases f.sync.points[label]? with
    | none => exact Bool.false_ne_true
    | some q =>
      rw [Option.map_some, Option.filter_some]
      split
      · exact ne_true_of_eq_false (not_isComplete_afterResignation q g _ f.policy)
      · exact Bool.false_ne_true
  | achieved g label' events sync member ok =>
    cases examined
    obtain ⟨q, -, -, -, rfl⟩ := SyncTable.achieve_eq_ok_iff.mp ok
    rw [ExtTreeMap.getElem?_insert_self]
    exact ne_true_of_eq_false (not_isComplete_advance (q.achieve g) f.joined)

structure Reckoned (f : Federation) (past : Chronicle) : Prop where
  /-- A point is stuck exactly if everybody's achievement of it is the one of a snapshot. -/
  stuck_iff : ∀ label, f.Stuck label ↔
    ∃ p, f.sync.points[label]? = some p ∧ p.status = .announced ∧
      p.scope.members f.joined ≠ ∅ ∧ ∀ h ∈ p.scope.members f.joined, Inherited label h past
  restricted : ∀ label p, f.Stuck label → f.sync.points[label]? = some p →
    p.scope ≠ .federationWide → restored? label past = some p
  freed : ∀ (a : Action) (d : Update) (label : String), (f.act a).update = some d →
    d.Examines label → ¬ (f.act a).federation.Stuck label

/-- At every moment of every run, whatever is restored in it. -/
theorem restores_reckoned (c : Constants) (run : List Motion) :
    Reckoned (c.initial.carried run) (c.initial.chronicle run) := by
  have ha := accounted_carried c run
  refine ⟨?_, ?_, fun a d label => not_stuck_of_examined _ a⟩
  · intro label
    constructor
    · rintro ⟨p, hp, announced, some_member, all⟩
      have complete := SyncPoint.isComplete_iff.mpr ⟨announced, some_member, all⟩
      exact ⟨p, hp, announced, some_member, (ha label p hp announced).stuck complete⟩
    · rintro ⟨p, hp, announced, some_member, all⟩
      exact ⟨p, hp, announced, some_member, fun h member =>
        (ha label p hp announced).kept h (all h member)⟩
  · rintro label p ⟨p', hp', announced, some_member, all⟩ hp restricted
    cases hp'.symm.trans hp
    have complete := SyncPoint.isComplete_iff.mpr ⟨announced, some_member, all⟩
    exact (ha label p hp announced).restricted complete restricted

def rehearsal : Constants where
  name := "alpha"
  handle := ⟨1⟩
  schema := ⟨[]⟩
  version := .ieee1516e
  policy := .prune

def halfway : List Motion :=
  [.act (.achieve ⟨1⟩ "ready"), .act (.register ⟨1⟩ "ready" [] ∅), .act (.join "blue" (some ⟨2⟩)),
    .act (.join "red" (some ⟨1⟩))]

def deserted : List Motion := .act (.resign ⟨2⟩) :: halfway

def resumed : List Motion :=
  .finish :: .restore (rehearsal.initial.carried halfway).sync.snapshot :: deserted

/-- The resignation has synchronized the point; the restore opens it again, and leaves it open with
its only member down as having achieved it. -/
theorem resumed_stuck :
    (rehearsal.initial.carried deserted).sync.points["ready"]?.map SyncPoint.status =
        some .synchronized ∧
      (rehearsal.initial.carried resumed).sync.restoring = false ∧
      (rehearsal.initial.carried resumed).Stuck "ready" := by
  decide +kernel

end HlaCoordination.Federation
