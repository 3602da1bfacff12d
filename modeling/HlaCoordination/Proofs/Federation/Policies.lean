import HlaCoordination.Proofs.Federation.Alignment

/-! The same requests under both resignation policies. The same federates come and go, and a label
fares the same, until a federate resigns that an open restricted point of that label names. If
targets are retained, such a point stays open from then on. Runs are listed newest first. -/
namespace HlaCoordination.Federation

open Std History

variable {a : Action} {label : String}

def Constants.under (c : Constants) (policy : ResignPolicy) : Constants := { c with policy }

def Constants.after (c : Constants) (policy : ResignPolicy) (run : List Action) : Federation :=
  (c.under policy).initial.after run

def Constants.past (c : Constants) (policy : ResignPolicy) (run : List Action) : History :=
  (c.under policy).initial.history run

section Runs

variable {c : Constants} {policy policy' : ResignPolicy} {run earlier : List Action}

theorem kindred_after (c : Constants) (policy policy' : ResignPolicy) (run : List Action) :
    Kindred (c.after policy run) (c.after policy' run) := by
  induction run with
  | nil => exact ⟨rfl, rfl, rfl, rfl, rfl, rfl⟩
  | cons a earlier ih => exact ih.act a

theorem joins_of_no_join {d : Option Update} (none_joins : ∀ m, d ≠ some (.joined m))
    (past : History) : joins (d.toList ++ past) = joins past := by
  rcases d with _ | d
  · rfl
  · cases d with
    | joined m => exact absurd rfl (none_joins m)
    | resigned | registered | achieved => rfl

theorem joins_past (c : Constants) (policy policy' : ResignPolicy) (run : List Action) :
    joins (c.past policy run) = joins (c.past policy' run) := by
  induction run with
  | nil => rfl
  | cons a earlier ih =>
    change joins (((c.after policy earlier).act a).update.toList ++ c.past policy earlier) =
      joins (((c.after policy' earlier).act a).update.toList ++ c.past policy' earlier)
    cases a with
    | join name session =>
      rcases (kindred_after c policy policy' earlier).join name session with
        ⟨e, left, right⟩ | ⟨h, _, _, f', g', left, right, -⟩
      · simpa [act, left, right] using ih
      · simpa [act, left, right, joins] using ih
    | resign | register | achieve =>
      rw [joins_of_no_join, joins_of_no_join, ih]
      all_goals
        intro m
        simp only [act]
        split <;> simp

theorem ordinary_after (few : joins (c.past policy run) < 2 ^ 32) :
    Ordinary (c.after policy run) := by
  constructor
  · exact (after_reflects (c.under policy) run few).live
  · intro label p held
    have holds := after_tableEntry (c.under policy) run label few
    have there : ((c.under policy).initial.after run).sync.points[label]? = some p := held
    rw [there] at holds
    obtain ⟨r, -, named, -⟩ := holds.entry
    exact named

/-- A federate has resigned whom an open restricted point of the label named when it was
registered. -/
def Bereft (c : Constants) (policy : ResignPolicy) (label : String) (run : List Action) : Prop :=
  ∃ later h earlier r, run = later ++ .resign h :: earlier ∧
    h ∈ (c.after policy earlier).federates ∧
    (c.after policy earlier).status? label = some .announced ∧
    registration? label (c.past policy earlier) = some r ∧ h ∈ r.targets

theorem Bereft.append (bereft : Bereft c policy label earlier) (later : List Action) :
    Bereft c policy label (later ++ earlier) := by
  obtain ⟨later', h, before, r, rfl, lost⟩ := bereft
  exact ⟨later ++ later', h, before, r, by simp, lost⟩

theorem mem_scope_iff {r : Registration} {past : History} {h : FederateHandle}
    (joined_now : h ∈ History.joined past) (restricted : r.targets ≠ ∅) :
    h ∈ scope policy r past ↔ h ∈ r.targets := by
  cases policy with
  | prune =>
    simp only [scope, restricted, if_false, ExtTreeSet.mem_inter_iff]
    exact and_iff_left joined_now
  | retain => simp only [scope, restricted, if_false]

/-- A target is lost when it is the point's as it stands that names the federate. -/
theorem bereft_cons_iff (few : joins (c.past policy earlier) < 2 ^ 32) :
    Bereft c policy label (a :: earlier) ↔
      ¬ (c.after policy earlier).Spares label a ∨ Bereft c policy label earlier := by
  have reflects := after_reflects (c.under policy) earlier few
  have holds := after_tableEntry (c.under policy) earlier label few
  constructor
  · rintro ⟨later, h, before, r, split, member, status, registered, target⟩
    cases later with
    | cons b later =>
      obtain ⟨rfl, rfl⟩ := List.cons.inj split
      exact Or.inr ⟨later, h, before, r, rfl, member, status, registered, target⟩
    | nil =>
      obtain ⟨rfl, rfl⟩ := List.cons.inj split
      refine Or.inl fun spares => ?_
      obtain ⟨p, held, announced⟩ := Option.map_eq_some_iff.mp status
      have there : ((c.under policy).initial.after earlier).sync.points[label]? = some p := held
      rw [there] at holds
      obtain ⟨r', registered', -, -, -, opened⟩ := holds.entry
      cases registered.symm.trans registered'
      -- The point's own target set may have been pruned since the registration, but never of a
      -- federate that is still joined.
      have restricted : r.targets ≠ ∅ := ExtTreeSet.ne_empty_of_mem target
      have scope := (opened announced).2
      rw [if_neg restricted] at scope
      have joined_now := reflects.mem_federates_iff.mp member
      refine spares member p held announced _ scope ?_
      exact (mem_scope_iff joined_now restricted).mpr target
  · rintro (lost | before)
    · cases a with
      | join | register | achieve => exact absurd trivial lost
      | resign h =>
        simp only [Spares, not_forall, not_not] at lost
        obtain ⟨member, p, held, announced, targets, scope, target⟩ := lost
        have there : ((c.under policy).initial.after earlier).sync.points[label]? = some p := held
        rw [there] at holds
        obtain ⟨r, registered, -, -, -, opened⟩ := holds.entry
        have scope' := (opened announced).2
        have joined_now := reflects.mem_federates_iff.mp member
        have restricted : r.targets ≠ ∅ := by
          intro wide
          rw [if_pos wide, scope] at scope'
          cases scope'
        rw [if_neg restricted, scope] at scope'
        cases scope'
        refine ⟨[], h, earlier, r, rfl, member, ?_, registered,
          (mem_scope_iff joined_now restricted).mp target⟩
        rw [status?, held, Option.map_some, announced]
    · exact before.append [a]

theorem few_under (few : joins (c.past policy run) < 2 ^ 32) (policy' : ResignPolicy) :
    joins (c.past policy' run) < 2 ^ 32 := by
  rw [joins_past c policy' policy]
  exact few

theorem few_tail (few : joins (c.past policy (a :: earlier)) < 2 ^ 32) :
    joins (c.past policy earlier) < 2 ^ 32 :=
  Nat.lt_of_le_of_lt (joins_tail _ _) few

/-- As long as the label is spared under one policy, it fares the same under the other. -/
theorem aligned_after (few : joins (c.past policy run) < 2 ^ 32)
    (spared : ¬ Bereft c policy label run) (policy' : ResignPolicy) :
    Aligned label (c.after policy run) (c.after policy' run) := by
  induction run with
  | nil => exact ⟨kindred_after c policy policy' [], rfl⟩
  | cons a earlier ih =>
    have few₁ := few_tail few
    rw [bereft_cons_iff few₁, not_or, not_not] at spared
    have al := ih few₁ spared.2
    have alike := al.act (ordinary_after few₁) (ordinary_after (few_under few₁ policy')) spared.1
    exact ⟨al.kindred.act a, alike.entry⟩

theorem bereft_iff (few : joins (c.past policy run) < 2 ^ 32) (policy' : ResignPolicy) :
    Bereft c policy label run ↔ Bereft c policy' label run := by
  induction run with
  | nil =>
    constructor
    all_goals
      rintro ⟨later, h, before, r, split, -⟩
      simp at split
  | cons a earlier ih =>
    have few₁ := few_tail few
    rw [bereft_cons_iff few₁, bereft_cons_iff (few_under few₁ policy'), ← ih few₁]
    by_cases bereft : Bereft c policy label earlier
    · simp only [bereft, or_true]
    · rw [(aligned_after few₁ bereft policy').spares_iff]

end Runs

section Stalling

variable {c : Constants} {run earlier : List Action} {past : History} {r : Registration}
  {h : FederateHandle} {d : Update}

/-- One of the targets is gone, and the label has not been synchronized before. -/
def Stalled (label : String) (past : History) : Prop :=
  ∃ r h, registration? label past = some r ∧ h ∈ r.targets ∧ History.Issued h past ∧
    h ∉ History.joined past ∧ ¬ EverCovered .retain label past

theorem still_gone (legal : Legal (d :: past)) (issued : History.Issued h past)
    (gone : h ∉ History.joined past) : h ∉ History.joined (d :: past) := by
  cases d with
  | joined m =>
    intro back
    rcases HandleSet.mem_insert_iff.mp back with rfl | before
    · exact legal.1 issued
    · exact gone before
  | resigned k =>
    intro back
    exact gone (HandleSet.mem_erase_iff.mp back).2
  | registered | achieved => exact gone

theorem not_covered_of_gone (registered : registration? label past = some r)
    (target : h ∈ r.targets) (gone : h ∉ History.joined past) : ¬ Covered .retain label past := by
  rintro ⟨r', registered', -, all⟩
  cases registered.symm.trans registered'
  have restricted : r.targets ≠ ∅ := ExtTreeSet.ne_empty_of_mem target
  have member : h ∈ scope .retain r past := by
    simp only [scope, restricted, if_false]
    exact target
  exact gone (ExtTreeSet.mem_inter_iff.mp (all h member)).2

theorem Stalled.status (few : joins (c.past .retain run) < 2 ^ 32)
    (stalled : Stalled label (c.past .retain run)) :
    (c.after .retain run).status? label = some .announced := by
  obtain ⟨r, h, registered, -, -, -, pending⟩ := stalled
  refine (status?_eq_announced_iff (c := c.under .retain) few).mpr ⟨r, registered, pending, ?_⟩
  rintro ⟨pruned, -⟩
  cases pruned

theorem Stalled.act (few : joins (c.past .retain (a :: earlier)) < 2 ^ 32)
    (stalled : Stalled label (c.past .retain earlier)) :
    Stalled label (c.past .retain (a :: earlier)) := by
  have status := stalled.status (few_tail few)
  obtain ⟨r, h, registered, target, issued, gone, pending⟩ := stalled
  obtain ⟨p, held, -⟩ := Option.map_eq_some_iff.mp status
  have step := act_step (c.after .retain earlier) a
  have legal := (after_reflects (c.under .retain) (a :: earlier) few).legal
  obtain ⟨same, ever⟩ := step.of_registered (mem_points_of_getElem? held) .retain
    (c.past .retain earlier)
  change Legal (((c.after .retain earlier).act a).update.toList ++ c.past .retain earlier) at legal
  change Stalled label (((c.after .retain earlier).act a).update.toList ++ c.past .retain earlier)
  cases update : ((c.after .retain earlier).act a).update with
  | none => exact ⟨r, h, registered, target, issued, gone, pending⟩
  | some d =>
    rw [update] at legal same ever
    have gone' := still_gone legal issued gone
    have registered' := same.trans registered
    refine ⟨r, h, registered', target, issued.cons d, gone', fun covered => ?_⟩
    rcases ever.mp covered with now | before
    · exact not_covered_of_gone registered' target gone' now
    · exact pending before

theorem stalled_of_bereft (few : joins (c.past .retain run) < 2 ^ 32)
    (bereft : Bereft c .retain label run) : Stalled label (c.past .retain run) := by
  obtain ⟨later, h, earlier, r, rfl, member, status, registered, target⟩ := bereft
  induction later with
  | cons b later ih => exact (ih (few_tail few)).act few
  | nil =>
    have few₁ := few_tail few
    have joined_now := (after_reflects (c.under .retain) earlier few₁).mem_federates_iff.mp member
    have past : c.past .retain (.resign h :: earlier) =
        .resigned h :: c.past .retain earlier := by
      have contained := ExtTreeMap.contains_iff_mem.mpr member
      change ((c.after .retain earlier).act (.resign h)).update.toList ++ c.past .retain earlier = _
      simp only [act, contained, if_true]
      rfl
    obtain ⟨-, -, pending, -⟩ := (status?_eq_announced_iff (c := c.under .retain) few₁).mp status
    have gone : h ∉ History.joined (.resigned h :: c.past .retain earlier) := by
      intro back
      exact (HandleSet.mem_erase_iff.mp back).1 rfl
    have registered' : registration? label (.resigned h :: c.past .retain earlier) = some r :=
      registered
    rw [List.nil_append, past]
    refine ⟨r, h, registered', target, (issued_of_mem_joined joined_now).cons _, gone, ?_⟩
    rw [everCovered_cons_iff rfl]
    rintro (now | before)
    · exact not_covered_of_gone registered' target gone now
    · exact pending before

end Stalling

/-- No open restricted point of the label has lost a target, under one policy or the other. -/
def TargetsStay (c : Constants) (label : String) (run : List Action) : Prop :=
  ¬ Bereft c .prune label run ∨ ¬ Bereft c .retain label run

/-- What the two policies have in common, and what becomes of the points that set them apart. -/
structure SideBySide (c : Constants) (run : List Action) : Prop where
  federates : ∀ earlier, earlier <:+ run →
    (c.after .prune earlier).federates = (c.after .retain earlier).federates
  admissions : ∀ later a earlier, run = later ++ a :: earlier → a.label? = none →
    (c.after .prune earlier).reply a = (c.after .retain earlier).reply a
  points : ∀ label, TargetsStay c label run → ∀ earlier, earlier <:+ run →
    (c.after .prune earlier).sync.points[label]? = (c.after .retain earlier).sync.points[label]?
  answers : ∀ label, TargetsStay c label run → ∀ later a earlier, run = later ++ a :: earlier →
    a.label? = some label → (c.after .prune earlier).reply a = (c.after .retain earlier).reply a
  notices : ∀ label, TargetsStay c label run → ∀ later a earlier, run = later ++ a :: earlier →
    ((c.after .prune earlier).act a).deliveries.filter (noticeLabel ·.notice = label) =
      ((c.after .retain earlier).act a).deliveries.filter (noticeLabel ·.notice = label)
  stalled : ∀ label policy later earlier, run = later ++ earlier → Bereft c policy label earlier →
    (c.after .retain run).status? label = some .announced

section Main

variable {c : Constants} {run later earlier : List Action}
  (few : joins (c.past .prune run) < 2 ^ 32)
include few

theorem not_bereft_of_targetsStay (stay : TargetsStay c label run) :
    ¬ Bereft c .prune label run := by
  rcases stay with pruned | retained
  · exact pruned
  · rwa [bereft_iff few .retain]

theorem few_of_suffix (past : earlier <:+ run) : joins (c.past .prune earlier) < 2 ^ 32 := by
  obtain ⟨later, rfl⟩ := past
  exact few_of_append few

omit few in
theorem TargetsStay.suffix (stay : TargetsStay c label run) (past : earlier <:+ run) :
    TargetsStay c label earlier := by
  obtain ⟨later, rfl⟩ := past
  exact stay.imp (mt fun bereft => bereft.append later) (mt fun bereft => bereft.append later)

theorem sameFor_of_targetsStay (stay : TargetsStay c label run)
    (split : run = later ++ a :: earlier) :
    SameFor label (c.after .prune earlier) (c.after .retain earlier) a := by
  have now : a :: earlier <:+ run := ⟨later, split.symm⟩
  have before : earlier <:+ run := (List.suffix_cons a earlier).trans now
  have few₁ := few_of_suffix few before
  have kept := not_bereft_of_targetsStay (few_of_suffix few now) (stay.suffix now)
  rw [bereft_cons_iff few₁, not_or, not_not] at kept
  have al := aligned_after few₁ kept.2 .retain
  exact al.act (ordinary_after few₁) (ordinary_after (few_under few₁ .retain)) kept.1

end Main

/-- The policies differ only for labels that have lost a target, however often these are registered
again afterwards. -/
theorem policies_side_by_side (c : Constants) (run : List Action)
    (few : joins (c.past .prune run) < 2 ^ 32) : SideBySide c run where
  federates := by
    intro earlier past
    exact (kindred_after c .prune .retain earlier).federates
  admissions := by
    rintro later a earlier rfl unlabelled
    have kindred := kindred_after c .prune .retain earlier
    cases a with
    | join name session =>
      rcases kindred.join name session with ⟨e, left, right⟩ | ⟨h, _, _, f', g', left, right, -⟩
      · simp only [reply, left, right]
      · simp only [reply, left, right]
        rfl
    | resign h => rfl
    | register | achieve => cases unlabelled
  points := by
    intro label stay earlier past
    have few₁ := few_of_suffix few past
    exact (aligned_after few₁ (not_bereft_of_targetsStay few₁ (stay.suffix past)) .retain).entry
  answers := by
    intro label stay later a earlier split about
    exact (sameFor_of_targetsStay few stay split).reply about
  notices := by
    intro label stay later a earlier split
    exact (sameFor_of_targetsStay few stay split).deliveries
      (kindred_after c .prune .retain earlier)
  stalled := by
    rintro label policy later earlier rfl bereft
    have few₁ := few_of_suffix few ⟨later, rfl⟩
    have retained := (bereft_iff (few_under few₁ policy) .retain).mp bereft
    have few₂ := few_under few .retain
    exact (stalled_of_bereft few₂ (retained.append later)).status few₂

theorem drill_side_by_side :
    joins (relay.past .prune drill) < 2 ^ 32 ∧ SideBySide relay drill ∧
      (relay.after .prune drill).status? "gate" = some .synchronized ∧
      (relay.after .retain drill).status? "gate" = some .announced := by
  have few : joins (relay.past .prune drill) < 2 ^ 32 := by decide
  refine ⟨few, policies_side_by_side relay drill few, ?_, ?_⟩
  · decide +kernel
  · decide +kernel

end HlaCoordination.Federation
