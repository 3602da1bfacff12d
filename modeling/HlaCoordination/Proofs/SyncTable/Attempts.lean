import HlaCoordination.Proofs.SyncTable

/-! Federates may achieve points in any order. Two attempts that change places leave the same table
and tell the same, so every order of the same attempts does; and what one attempt is answered is
settled by the table that all of them start from. -/
namespace HlaCoordination

open Std

namespace SyncPoint

variable {p : SyncPoint} {h k : FederateHandle} {joined : HandleSet}

theorem achieve_comm (p : SyncPoint) (h k : FederateHandle) :
    (p.achieve h).achieve k = (p.achieve k).achieve h := by
  have same : (p.achieved.insert h).insert k = (p.achieved.insert k).insert h := by
    apply ExtTreeSet.ext_mem
    intro g
    simp only [HandleSet.mem_insert_iff]
    exact or_left_comm
  simp only [achieve, same]

theorem isComplete_achieve (complete : p.isComplete joined = true) (k : FederateHandle) :
    (p.achieve k).isComplete joined = true := by
  obtain ⟨open_, members, covered⟩ := isComplete_iff.mp complete
  refine isComplete_iff.mpr ⟨open_, members, ?_⟩
  intro h member
  exact HandleSet.mem_insert_iff.mpr (Or.inr (covered h member))

/-- Synchronizing early makes no difference to a point that is achieved once more. -/
theorem advance_achieve_advance (p : SyncPoint) (k : FederateHandle) (joined : HandleSet) :
    ((p.advance joined).achieve k).advance joined = (p.achieve k).advance joined := by
  by_cases complete : p.isComplete joined = true
  · have early : p.advance joined = p.synchronize := if_pos complete
    have late : (p.achieve k).advance joined = (p.achieve k).synchronize :=
      if_pos (isComplete_achieve complete k)
    rw [early, late]
    exact advance_of_synchronized rfl joined
  · have unchanged : p.advance joined = p := if_neg complete
    rw [unchanged]

def attain (p : SyncPoint) (h : FederateHandle) (joined : HandleSet) : SyncPoint :=
  if p.scope.includes h then (p.achieve h).advance joined else p

@[simp] theorem attain_scope (p : SyncPoint) (h : FederateHandle) (joined : HandleSet) :
    (p.attain h joined).scope = p.scope := by
  unfold attain
  split
  · exact advance_scope _ joined
  · rfl

theorem attain_comm (p : SyncPoint) (h k : FederateHandle) (joined : HandleSet) :
    (p.attain h joined).attain k joined = (p.attain k joined).attain h joined := by
  by_cases first : p.scope.includes h = true
  · by_cases second : p.scope.includes k = true
    · have both (g g' : FederateHandle) (hg : p.scope.includes g = true)
          (hg' : p.scope.includes g' = true) :
          (p.attain g joined).attain g' joined = ((p.achieve g).achieve g').advance joined := by
        rw [attain, attain_scope, if_pos hg', attain, if_pos hg, advance_achieve_advance]
      rw [both h k first second, both k h second first, achieve_comm]
    · have idle (q : SyncPoint) (same : q.scope = p.scope) : q.attain k joined = q := by
        rw [attain, same, if_neg second]
      rw [idle _ (attain_scope p h joined), idle p rfl]
  · have idle (q : SyncPoint) (same : q.scope = p.scope) : q.attain h joined = q := by
      rw [attain, same, if_neg first]
    rw [idle _ (attain_scope p k joined), idle p rfl]

theorem attain_of_synchronized (done : p.status = .synchronized) :
    (p.attain h joined).status = .synchronized := by
  unfold attain
  split
  · have achieved : (p.achieve h).status = .synchronized := done
    rw [advance_of_synchronized achieved]
    exact achieved
  · exact done

theorem completes_iff :
    p.scope.includes h = true ∧ (p.achieve h).isComplete joined = true ↔
      p.status = .announced ∧ (p.attain h joined).status = .synchronized := by
  constructor
  · rintro ⟨included, complete⟩
    have opened : p.status = .announced := (isComplete_iff.mp complete).1
    have turned : (p.achieve h).advance joined = (p.achieve h).synchronize := if_pos complete
    rw [attain, if_pos included, turned]
    exact ⟨opened, rfl⟩
  · rintro ⟨opened, done⟩
    by_cases included : p.scope.includes h = true
    · refine ⟨included, ?_⟩
      by_contra incomplete
      rw [attain, if_pos included, advance, if_neg incomplete] at done
      have still : (p.achieve h).status = .announced := opened
      rw [still] at done
      cases done
    · rw [attain, if_neg included, opened] at done
      cases done

end SyncPoint

structure Attempt where
  label : String
  federate : FederateHandle
  deriving DecidableEq

/-- What is told of a point that was this and has become that. -/
def turning (label : String) (joined : HandleSet) (p q : SyncPoint) : List SyncEvent :=
  if p.status = .announced ∧ q.status = .synchronized then
    [.synchronized label (p.scope.members joined)] else []

theorem turning_append {p q r : SyncPoint} {label : String} {joined : HandleSet}
    (same : q.scope = p.scope) (lasting : p.status = .synchronized → q.status = .synchronized)
    (lasting' : q.status = .synchronized → r.status = .synchronized) :
    turning label joined p q ++ turning label joined q r = turning label joined p r := by
  unfold turning
  rw [same]
  cases hp : p.status <;> cases hq : q.status <;> cases hr : r.status <;> simp_all

namespace SyncTable

variable {t u : SyncTable} {joined : HandleSet} {a b : Attempt}

def answer (t : SyncTable) (joined : HandleSet) (a : Attempt) : Except RtiError Unit :=
  (t.tryAchieve a.label a.federate joined).1.map fun _ => ()

def attempt (t : SyncTable) (joined : HandleSet) (a : Attempt) : List SyncEvent × SyncTable :=
  match t.tryAchieve a.label a.federate joined with
  | (.ok events, t') => (events, t')
  | (.error _, t') => ([], t')

structure Course where
  answers : List (Except RtiError Unit)
  told : List SyncEvent
  table : SyncTable

def course (t : SyncTable) (joined : HandleSet) : List Attempt → Course
  | [] => ⟨[], [], t⟩
  | a :: rest =>
    let r := t.attempt joined a
    let c := r.2.course joined rest
    ⟨t.answer joined a :: c.answers, r.1 ++ c.told, c.table⟩

theorem ext_points (points : t.points = u.points) (restoring : t.restoring = u.restoring) :
    t = u := by
  cases t
  cases u
  exact congr (congrArg SyncTable.mk points) restoring

theorem emit_nil (t : SyncTable) : t.emit [] = [] := by
  unfold emit
  split <;> rfl

theorem emit_append (t : SyncTable) (told later : List SyncEvent) :
    t.emit (told ++ later) = t.emit told ++ t.emit later := by
  unfold emit
  split <;> rfl

theorem attempt_absent (absent : t.points[a.label]? = none) : t.attempt joined a = ([], t) := by
  simp only [attempt, tryAchieve, absent]

theorem attempt_present {p : SyncPoint} (held : t.points[a.label]? = some p) :
    t.attempt joined a = (t.emit (turning a.label joined p (p.attain a.federate joined)),
      { t with points := t.points.insert a.label (p.attain a.federate joined) }) := by
  by_cases included : p.scope.includes a.federate = true
  · have complete : (p.achieve a.federate).isComplete joined = true ↔
        p.status = .announced ∧ (p.attain a.federate joined).status = .synchronized := by
      rw [← SyncPoint.completes_iff, and_iff_right included]
    have becomes : p.attain a.federate joined = (p.achieve a.federate).advance joined :=
      if_pos included
    simp only [turning, ← complete]
    rw [becomes]
    simp only [attempt, tryAchieve, held, included, if_true]
    rfl
  · have idle : p.attain a.federate joined = p := if_neg included
    have silent : turning a.label joined p p = [] := by
      apply if_neg
      rintro ⟨opened, done⟩
      rw [opened] at done
      cases done
    rw [idle, silent, emit_nil, insert_eq_self held]
    simp only [attempt, tryAchieve, held, included, Bool.false_eq_true, if_false]

theorem attempt_restoring (t : SyncTable) (joined : HandleSet) (a : Attempt) :
    (t.attempt joined a).2.restoring = t.restoring := by
  cases held : t.points[a.label]? with
  | none => rw [attempt_absent held]
  | some p => rw [attempt_present held]

theorem getElem?_attempt (t : SyncTable) (joined : HandleSet) (a : Attempt) (label : String) :
    (t.attempt joined a).2.points[label]? =
      if a.label = label then t.points[label]?.map (·.attain a.federate joined)
      else t.points[label]? := by
  cases held : t.points[a.label]? with
  | none =>
    rw [attempt_absent held]
    split
    case isTrue same => rw [← same, held]; rfl
    case isFalse => rfl
  | some p =>
    rw [attempt_present held, getElem?_insert_eq_ite]
    split
    case isTrue same => rw [← same, held]; rfl
    case isFalse => rfl

theorem attempt_told (t : SyncTable) (joined : HandleSet) (a : Attempt) :
    (t.attempt joined a).1 = t.emit (t.points[a.label]?.elim [] fun p =>
      turning a.label joined p (p.attain a.federate joined)) := by
  cases held : t.points[a.label]? with
  | none => rw [attempt_absent held, Option.elim_none, emit_nil]
  | some p => rw [attempt_present held, Option.elim_some]

theorem answer_eq (t : SyncTable) (joined : HandleSet) (a : Attempt) :
    t.answer joined a = (t.points[a.label]?.map (·.scope)).elim
      (.error (.syncPointDoesNotExist a.label)) fun scope =>
        if scope.includes a.federate then .ok ()
        else .error (.notInSyncSet a.label a.federate) := by
  cases held : t.points[a.label]? with
  | none => simp only [answer, tryAchieve, held]; rfl
  | some p =>
    by_cases included : p.scope.includes a.federate = true
    · simp only [answer, tryAchieve, held, included, Option.map_some, Option.elim_some, if_true]
      rfl
    · simp only [answer, tryAchieve, held, included, Option.map_some, Option.elim_some,
        Bool.false_eq_true, if_false]
      rfl

/-- Attempts never change who belongs to a point, and an answer depends on nothing else. -/
theorem answer_attempt (t : SyncTable) (joined : HandleSet) (a b : Attempt) :
    (t.attempt joined a).2.answer joined b = t.answer joined b := by
  have scopes : (t.attempt joined a).2.points[b.label]?.map (·.scope) =
      t.points[b.label]?.map (·.scope) := by
    rw [getElem?_attempt]
    split
    · simp [Option.map_map, Function.comp_def]
    · rfl
  rw [answer_eq, answer_eq, scopes]

theorem attempt_swap_table (t : SyncTable) (joined : HandleSet) (a b : Attempt) :
    ((t.attempt joined a).2.attempt joined b).2 = ((t.attempt joined b).2.attempt joined a).2 := by
  have points : ((t.attempt joined a).2.attempt joined b).2.points =
      ((t.attempt joined b).2.attempt joined a).2.points := by
    apply ExtTreeMap.ext_getElem?
    intro label
    simp only [getElem?_attempt]
    by_cases first : a.label = label <;> by_cases second : b.label = label
    · simp only [first, second, if_true, Option.map_map, Function.comp_def]
      simp only [SyncPoint.attain_comm _ a.federate b.federate]
    · simp only [first, second, if_true, if_false]
    · simp only [first, second, if_true, if_false]
    · simp only [first, second, if_false]
  have flags : ((t.attempt joined a).2.attempt joined b).2.restoring =
      ((t.attempt joined b).2.attempt joined a).2.restoring := by
    simp only [attempt_restoring]
  exact ext_points points flags

theorem emit_attempt (t : SyncTable) (joined : HandleSet) (a : Attempt) (events : List SyncEvent) :
    (t.attempt joined a).2.emit events = t.emit events := by
  simp only [emit, attempt_restoring]

/-- Two attempts at one point tell together what it has become after both. -/
theorem told_twice {p : SyncPoint} (same : a.label = b.label) (held : t.points[a.label]? = some p) :
    (t.attempt joined a).1 ++ ((t.attempt joined a).2.attempt joined b).1 =
      t.emit
        (turning a.label joined p ((p.attain a.federate joined).attain b.federate joined)) := by
  have next : (t.attempt joined a).2.points[b.label]? = some (p.attain a.federate joined) := by
    rw [getElem?_attempt, if_pos same, ← same, held]
    rfl
  rw [attempt_present next, emit_attempt, attempt_present held, ← emit_append, ← same,
    turning_append (p.attain_scope _ joined) SyncPoint.attain_of_synchronized
      SyncPoint.attain_of_synchronized]

theorem attempt_swap_told (t : SyncTable) (joined : HandleSet) (a b : Attempt) :
    ((t.attempt joined a).1 ++ ((t.attempt joined a).2.attempt joined b).1).Perm
      ((t.attempt joined b).1 ++ ((t.attempt joined b).2.attempt joined a).1) := by
  by_cases same : a.label = b.label
  · cases held : t.points[a.label]? with
    | none =>
      have absent : t.points[b.label]? = none := same ▸ held
      rw [attempt_absent held, attempt_absent absent, attempt_absent held]
    | some p =>
      rw [told_twice same held, told_twice same.symm (same ▸ held), SyncPoint.attain_comm, same]
  · have apart (c d : Attempt) (different : c.label ≠ d.label) :
        ((t.attempt joined c).2.attempt joined d).1 = (t.attempt joined d).1 := by
      rw [attempt_told, emit_attempt, getElem?_attempt, if_neg different, attempt_told t]
    rw [apart a b same, apart b a (Ne.symm same)]
    exact List.perm_append_comm

theorem course_answers (t : SyncTable) (joined : HandleSet) (calls : List Attempt) :
    (t.course joined calls).answers = calls.map (t.answer joined) := by
  induction calls generalizing t with
  | nil => rfl
  | cons a rest ih =>
    have later : (t.attempt joined a).2.answer joined = t.answer joined :=
      funext (answer_attempt t joined a)
    rw [course, ih, later]
    rfl

theorem course_of_perm {calls order : List Attempt} (reordered : order.Perm calls) (t : SyncTable)
    (joined : HandleSet) : (t.course joined order).table = (t.course joined calls).table ∧
      (t.course joined order).told.Perm (t.course joined calls).told := by
  induction reordered generalizing t with
  | nil => exact ⟨rfl, List.Perm.nil⟩
  | cons a _ ih =>
    obtain ⟨table, told⟩ := ih (t.attempt joined a).2
    exact ⟨table, told.append_left _⟩
  | swap a b rest =>
    simp only [course, ← List.append_assoc, attempt_swap_table t joined b a, true_and]
    exact (attempt_swap_told t joined b a).append_right _
  | trans _ _ ih ih' =>
    obtain ⟨table, told⟩ := ih t
    obtain ⟨table', told'⟩ := ih' t
    exact ⟨table.trans table', told.trans told'⟩

/-- In whatever order the same attempts are made, each has the answer it would have had as the very
first, the table comes out the same, and the same is told to the same federates. -/
theorem attempts_in_any_order {calls order : List Attempt} (t : SyncTable) (joined : HandleSet)
    (reordered : order.Perm calls) :
    (t.course joined calls).answers = calls.map (t.answer joined) ∧
      (t.course joined order).answers = order.map (t.answer joined) ∧
      (t.course joined order).table = (t.course joined calls).table ∧
      (t.course joined order).told.Perm (t.course joined calls).told := by
  obtain ⟨table, told⟩ := course_of_perm reordered t joined
  exact ⟨course_answers t joined calls, course_answers t joined order, table, told⟩

def pairTable : SyncTable where
  points := .ofList [("a", ⟨"a", [], .federationWide, .announced, ⟨1⟩, ∅⟩)]

/-- One point for two federates, and a stranger to it: in either order the point is completed once,
though by another federate. -/
theorem attempts_in_either_order :
    let a : Attempt := ⟨"a", ⟨1⟩⟩
    let b : Attempt := ⟨"a", ⟨2⟩⟩
    let c : Attempt := ⟨"c", ⟨1⟩⟩
    let joined := HandleSet.ofList [⟨1⟩, ⟨2⟩]
    [b, c, a, b].Perm [a, b, b, c] ∧
      (pairTable.course joined [a, b, b, c]).told.length = 1 ∧
      (pairTable.course joined [a, b, b, c]).answers =
        [a, b, b, c].map (pairTable.answer joined) ∧
      (pairTable.course joined [b, c, a, b]).answers =
        [b, c, a, b].map (pairTable.answer joined) ∧
      (pairTable.course joined [b, c, a, b]).table =
        (pairTable.course joined [a, b, b, c]).table ∧
      (pairTable.course joined [b, c, a, b]).told.Perm
        (pairTable.course joined [a, b, b, c]).told := by
  intro a b c joined
  have reordered : [b, c, a, b].Perm [a, b, b, c] := by decide
  have once : (pairTable.course joined [a, b, b, c]).told.length = 1 := by decide +kernel
  exact ⟨reordered, once, attempts_in_any_order pairTable joined reordered⟩

end SyncTable

end HlaCoordination
