import HlaCoordination.Proofs.Federation.History

/-! The point table as its history dictates it. A label is synchronized once its scope has been
covered, until then its entry is computed from the history, and it is dropped only when pruning
leaves an open restricted point without targets. -/
namespace HlaCoordination.Federation

open Std History

namespace History

variable {policy : ResignPolicy} {label : String} {past : History} {r : Registration}

def scopeOf (policy : ResignPolicy) (r : Registration) (past : History) : SyncScope :=
  if r.targets = ∅ then .federationWide else .restricted (scope policy r past)

def opened (policy : ResignPolicy) (label : String) (r : Registration) (past : History) :
    SyncPoint :=
  ⟨label, r.tag, scopeOf policy r past, .announced, r.registrant, achieved label past⟩

inductive TableEntry (policy : ResignPolicy) (label : String) (past : History) :
    Option SyncPoint → Prop where
  | unregistered (never : registration? label past = none) : TableEntry policy label past none
  | announced (r : Registration) (registered : registration? label past = some r)
      (pending : ¬ EverCovered policy label past) (kept : ¬ Deserted policy r past) :
      TableEntry policy label past (some (opened policy label r past))
  | synchronized (r : Registration) (p : SyncPoint) (registered : registration? label past = some r)
      (covered : EverCovered policy label past) (status : p.status = .synchronized)
      (named : p.label = label) (tagged : p.tag = r.tag) (by_whom : p.registrant = r.registrant)
      (targeted : p.scope.hasNoTargets = false) : TableEntry policy label past (some p)
  | dropped (r : Registration) (registered : registration? label past = some r)
      (pending : ¬ EverCovered policy label past) (deserted : Deserted policy r past) :
      TableEntry policy label past none

theorem Covered.ever (h : Covered policy label past) : EverCovered policy label past := by
  refine ⟨past, ?_, h⟩
  cases past with
  | nil => simp [Covered, registration?] at h
  | cons d past => exact List.mem_cons_self

theorem everCovered_cons_iff {d : Update} (hd : registers label d = false) :
    EverCovered policy label (d :: past) ↔
      Covered policy label (d :: past) ∨ EverCovered policy label past := by
  simp [EverCovered, moments, hd]

theorem everCovered_of_registers {d : Update} (hd : registers label d = true) :
    EverCovered policy label (d :: past) ↔ Covered policy label (d :: past) := by
  simp [EverCovered, moments, hd]

theorem Deserted.not_covered (hr : registration? label past = some r)
    (hd : Deserted policy r past) : ¬ Covered policy label past := by
  rintro ⟨r', hr', hne, -⟩
  cases hr.symm.trans hr'
  obtain ⟨rfl, ht, hj⟩ := hd
  simp [scope, ht, hj] at hne

theorem members_scopeOf : (scopeOf policy r past).members (joined past) = scope policy r past := by
  by_cases ht : r.targets = ∅ <;> simp [scopeOf, scope, SyncScope.members, ht]

theorem isComplete_opened_iff (hr : registration? label past = some r) :
    (opened policy label r past).isComplete (joined past) = true ↔ Covered policy label past := by
  rw [SyncPoint.isComplete_iff]
  simp [opened, members_scopeOf, Covered, hr]

theorem hasNoTargets_scopeOf_iff :
    (scopeOf policy r past).hasNoTargets = true ↔ Deserted policy r past := by
  by_cases ht : r.targets = ∅
  · simp [scopeOf, SyncScope.hasNoTargets, Deserted, ht]
  · cases policy <;> simp [scopeOf, scope, SyncScope.hasNoTargets, Deserted, ht]

theorem tableEntry_advance (hr : registration? label past = some r) (hk : ¬ Deserted policy r past)
    (hc : EverCovered policy label past → Covered policy label past) :
    TableEntry policy label past (some ((opened policy label r past).advance (joined past))) := by
  by_cases hcov : Covered policy label past
  · have hp := (isComplete_opened_iff hr).mpr hcov
    have ht := Bool.eq_false_iff.mpr (mt hasNoTargets_scopeOf_iff.mp hk)
    simp only [SyncPoint.advance, hp, if_true]
    exact .synchronized r _ hr hcov.ever rfl rfl rfl rfl ht
  · have hp := mt (isComplete_opened_iff hr).mp hcov
    simp only [SyncPoint.advance, hp]
    exact .announced r hr (fun h => hcov (hc h)) hk

theorem tableEntry_advance_filter (hr : registration? label past = some r)
    (hc : EverCovered policy label past → Covered policy label past) :
    TableEntry policy label past
      ((some ((opened policy label r past).advance (joined past))).filter
        (!·.scope.hasNoTargets)) := by
  by_cases hd : Deserted policy r past
  · have ht : (opened policy label r past).scope.hasNoTargets = true :=
      hasNoTargets_scopeOf_iff.mpr hd
    rw [Option.filter_some, SyncPoint.advance_scope, ht]
    exact .dropped r hr (fun h => hd.not_covered hr (hc h)) hd
  · have ht : (opened policy label r past).scope.hasNoTargets = false :=
      Bool.eq_false_iff.mpr (mt hasNoTargets_scopeOf_iff.mp hd)
    rw [Option.filter_some, SyncPoint.advance_scope, ht]
    exact tableEntry_advance hr hd hc

section Frame

variable {d : Update} (hr : registration? label (d :: past) = registration? label past)
  (ha : achievers label (d :: past) = achievers label past)
  (hj : joined (d :: past) = joined past) (hd : registers label d = false)
include hr ha hj hd

theorem everCovered_frame :
    EverCovered policy label (d :: past) ↔ EverCovered policy label past := by
  have hcov : Covered policy label (d :: past) ↔ Covered policy label past := by
    simp only [Covered, hr, scope, achieved, ha, hj]
  rw [everCovered_cons_iff hd, hcov]
  exact or_iff_right_of_imp Covered.ever

theorem TableEntry.frame {entry : Option SyncPoint} (h : TableEntry policy label past entry) :
    TableEntry policy label (d :: past) entry := by
  have ho (r : Registration) :
      opened policy label r (d :: past) = opened policy label r past := by
    simp only [opened, scopeOf, scope, achieved, ha, hj]
  have hever : EverCovered policy label (d :: past) ↔ EverCovered policy label past :=
    everCovered_frame hr ha hj hd
  have hdes (r : Registration) : Deserted policy r (d :: past) ↔ Deserted policy r past := by
    simp only [Deserted, hj]
  cases h with
  | unregistered never => exact .unregistered (hr.trans never)
  | announced r registered pending kept =>
    rw [← ho]
    exact .announced r (hr.trans registered) (mt hever.mp pending) (mt (hdes r).mp kept)
  | synchronized r p registered covered status named tagged by_whom targeted =>
    exact .synchronized r p (hr.trans registered) (hever.mpr covered) status named tagged by_whom
      targeted
  | dropped r registered pending deserted =>
    exact .dropped r (hr.trans registered) (mt hever.mp pending) ((hdes r).mpr deserted)

end Frame

section Joining

variable {m : Federate}

theorem inter_joined_joined {s : HandleSet} (hs : m.handle ∉ s) :
    s ∩ joined (.joined m :: past) = s ∩ joined past := by
  apply ExtTreeSet.ext_mem
  intro k
  simp only [joined, ExtTreeSet.mem_inter_iff, HandleSet.mem_insert_iff]
  constructor
  · rintro ⟨hk, rfl | hj⟩
    · exact absurd hk hs
    · exact ⟨hk, hj⟩
  · rintro ⟨hk, hj⟩
    exact ⟨hk, Or.inr hj⟩

variable (hl : Legal past) (new : ¬ Issued m.handle past)
include hl new

theorem achieved_joined : achieved label (.joined m :: past) = achieved label past :=
  inter_joined_joined fun h => new (hl.issued_of_achiever h)

theorem inter_targets_joined (hr : registration? label past = some r) :
    r.targets ∩ joined (.joined m :: past) = r.targets ∩ joined past :=
  inter_joined_joined fun h => new (hl.issued_of_target hr h)

theorem opened_joined (hr : registration? label past = some r) :
    opened policy label r (.joined m :: past) = opened policy label r past := by
  by_cases ht : r.targets = ∅ <;>
    simp [opened, scopeOf, scope, ht, achieved_joined hl new, inter_targets_joined hl new hr]

theorem covered_joined (hc : Covered policy label (.joined m :: past)) :
    Covered policy label past := by
  obtain ⟨r, hr, hne, hall⟩ := hc
  rw [achieved_joined hl new] at hall
  by_cases ht : r.targets = ∅
  · have hm : m.handle ∈ scope policy r (.joined m :: past) := by
      simp [scope, ht, joined]
    have ha := hall _ hm
    exact absurd (hl.issued_of_achiever (ExtTreeSet.mem_inter_iff.mp ha).1) new
  · have hs : scope policy r (.joined m :: past) = scope policy r past := by
      simp only [scope, ht, inter_targets_joined hl new hr, if_false]
    rw [hs] at hne hall
    exact ⟨r, hr, hne, hall⟩

theorem everCovered_joined :
    EverCovered policy label (.joined m :: past) ↔ EverCovered policy label past := by
  rw [everCovered_cons_iff rfl]
  exact or_iff_right_of_imp fun hc => (covered_joined hl new hc).ever

theorem TableEntry.join {entry : Option SyncPoint} (h : TableEntry policy label past entry) :
    TableEntry policy label (.joined m :: past) entry := by
  have hever : EverCovered policy label (.joined m :: past) ↔ EverCovered policy label past :=
    everCovered_joined hl new
  cases h with
  | unregistered never => exact .unregistered never
  | announced r registered pending kept =>
    rw [← opened_joined hl new registered]
    refine .announced r registered (mt hever.mp pending) ?_
    rwa [Deserted, inter_targets_joined hl new registered]
  | synchronized r p registered covered status named tagged by_whom targeted =>
    exact .synchronized r p registered (hever.mpr covered) status named tagged by_whom targeted
  | dropped r registered pending deserted =>
    refine .dropped r registered (mt hever.mp pending) ?_
    rwa [Deserted, inter_targets_joined hl new registered]

end Joining

section Resigning

variable {h : FederateHandle}

theorem forget_opened : (opened policy label r past).forget h policy =
    opened policy label r (.resigned h :: past) := by
  have he (s : HandleSet) : (s ∩ joined past).erase h = s ∩ (joined past).erase h := by
    apply ExtTreeSet.ext_mem
    intro k
    simp only [HandleSet.mem_erase_iff, ExtTreeSet.mem_inter_iff]
    exact and_left_comm
  by_cases ht : r.targets = ∅
  · cases policy <;>
      simp [opened, SyncPoint.forget, scopeOf, SyncScope.prune, achieved, achievers, joined, ht, he]
  · cases policy <;>
      simp [opened, SyncPoint.forget, scopeOf, scope, SyncScope.prune, achieved, achievers, joined,
        ht, he]

theorem Deserted.resigned (hd : Deserted policy r past) :
    Deserted policy r (.resigned h :: past) := by
  obtain ⟨hp, ht, hj⟩ := hd
  refine ⟨hp, ht, ExtTreeSet.ext_mem ?_⟩
  intro k
  have hk : k ∉ r.targets ∩ joined past := by simp [hj]
  simp only [joined, ExtTreeSet.mem_inter_iff, HandleSet.mem_erase_iff,
    ExtTreeSet.not_mem_empty, iff_false] at hk ⊢
  rintro ⟨ht, -, hj⟩
  exact hk ⟨ht, hj⟩

theorem TableEntry.resign {entry : Option SyncPoint} (hh : TableEntry policy label past entry) :
    TableEntry policy label (.resigned h :: past)
      ((entry.map (SyncTable.afterResignation · h (joined (.resigned h :: past)) policy)).filter
        (!·.scope.hasNoTargets)) := by
  have hever : EverCovered policy label (.resigned h :: past) ↔
      Covered policy label (.resigned h :: past) ∨ EverCovered policy label past :=
    everCovered_cons_iff rfl
  cases hh with
  | unregistered never => exact .unregistered never
  | announced r registered pending kept =>
    have ha : SyncTable.afterResignation (opened policy label r past) h
        (joined (.resigned h :: past)) policy =
        (opened policy label r (.resigned h :: past)).advance (joined (.resigned h :: past)) := by
      rw [← forget_opened]; rfl
    rw [Option.map_some, ha]
    exact tableEntry_advance_filter registered fun hc => (hever.mp hc).resolve_right pending
  | synchronized r p registered covered status named tagged by_whom targeted =>
    have ha : SyncTable.afterResignation p h (joined (.resigned h :: past)) policy = p := by
      simp [SyncTable.afterResignation, SyncPoint.isSynchronized, status]
    rw [Option.map_some, ha, Option.filter_some, targeted]
    exact .synchronized r p registered (hever.mpr (Or.inr covered)) status named tagged by_whom
      targeted
  | dropped r registered pending deserted =>
    refine .dropped r registered ?_ deserted.resigned
    intro hc
    exact (hever.mp hc).elim (deserted.resigned.not_covered registered) pending

end Resigning

section Registering

variable {g : FederateHandle} {tag : Octets} {targets : HandleSet}

theorem achieved_registered : achieved label (.registered g label tag targets :: past) = ∅ := by
  apply ExtTreeSet.ext_mem
  intro k
  simp [achieved, achievers]

theorem not_everCovered_registered :
    ¬ EverCovered policy label (.registered g label tag targets :: past) := by
  rw [everCovered_of_registers (by simp [registers])]
  rintro ⟨r, -, hne, hall⟩
  rw [achieved_registered] at hall
  exact hne (ExtTreeSet.ext_mem fun k => by simpa using hall k)

theorem tableEntry_registered (known : ∀ h ∈ targets, h ∈ joined past) :
    TableEntry policy label (.registered g label tag targets :: past)
      (some ⟨label, tag, .ofTargets targets, .announced, g, ∅⟩) := by
  have hr : registration? label (.registered g label tag targets :: past) =
      some ⟨g, tag, targets⟩ := if_pos rfl
  have hj : targets ∩ joined past = targets := by
    apply ExtTreeSet.ext_mem
    intro k
    rw [ExtTreeSet.mem_inter_iff]
    exact and_iff_left_of_imp (known k)
  have ho : opened policy label ⟨g, tag, targets⟩ (.registered g label tag targets :: past) =
      ⟨label, tag, .ofTargets targets, .announced, g, ∅⟩ := by
    by_cases ht : targets = ∅
    · subst ht
      simp [opened, scopeOf, SyncScope.ofTargets, achieved_registered]
    · cases policy <;>
        simp [opened, scopeOf, scope, SyncScope.ofTargets, joined, achieved_registered, hj, ht]
  rw [← ho]
  refine .announced _ hr not_everCovered_registered ?_
  rintro ⟨-, ht, he⟩
  exact ht (hj.symm.trans he)

end Registering

theorem achieve_opened {h : FederateHandle} (hj : h ∈ joined past) :
    (opened policy label r past).achieve h =
      opened policy label r (.achieved h label :: past) := by
  have ha : achieved label (.achieved h label :: past) = (achieved label past).insert h := by
    apply ExtTreeSet.ext_mem
    intro k
    simp only [achieved, achievers, joined, if_true, ExtTreeSet.mem_inter_iff,
      HandleSet.mem_insert_iff, or_and_right]
    exact or_congr_left (and_iff_left_of_imp fun hk => hk ▸ hj)
  simp only [opened, SyncPoint.achieve, ha]
  rfl

theorem TableEntry.achieve {h : FederateHandle} {p : SyncPoint} (hj : h ∈ joined past)
    (hh : TableEntry policy label past (some p)) :
    TableEntry policy label (.achieved h label :: past)
      (some ((p.achieve h).advance (joined past))) := by
  have hever : EverCovered policy label (.achieved h label :: past) ↔
      Covered policy label (.achieved h label :: past) ∨ EverCovered policy label past :=
    everCovered_cons_iff rfl
  cases hh with
  | announced r registered pending kept =>
    rw [achieve_opened hj]
    exact tableEntry_advance registered kept fun hc => (hever.mp hc).resolve_right pending
  | synchronized r p registered covered status named tagged by_whom targeted =>
    have hs : (p.achieve h).status = .synchronized := status
    rw [SyncPoint.advance_of_synchronized hs]
    exact .synchronized r _ registered (hever.mpr (Or.inr covered)) status named tagged by_whom
      targeted

theorem TableEntry.status {p : SyncPoint}
    (hh : TableEntry policy label past (some p)) :
    p.status = .synchronized ↔ EverCovered policy label past := by
  cases hh with
  | announced r registered pending kept => exact ⟨nofun, fun hc => absurd hc pending⟩
  | synchronized r p registered covered status => exact ⟨fun _ => covered, fun _ => status⟩

theorem TableEntry.present_iff {entry : Option SyncPoint}
    (hh : TableEntry policy label past entry) :
    entry.isSome = true ↔ ∃ r ∈ registration? label past,
      EverCovered policy label past ∨ ¬ Deserted policy r past := by
  cases hh with
  | unregistered never => simp [never]
  | announced r registered pending kept => simp [registered, kept]
  | synchronized r p registered covered => simp [registered, covered]
  | dropped r registered pending deserted => simp [registered, pending, deserted]

theorem TableEntry.entry {p : SyncPoint}
    (hh : TableEntry policy label past (some p)) :
    ∃ r ∈ registration? label past,
      p.label = label ∧ p.tag = r.tag ∧ p.registrant = r.registrant ∧
      (p.status = .announced → p.achieved = achieved label past ∧
        p.scope = if r.targets = ∅ then .federationWide
          else .restricted (scope policy r past)) := by
  cases hh with
  | announced r registered pending kept => exact ⟨r, registered, rfl, rfl, rfl, fun _ => ⟨rfl, rfl⟩⟩
  | synchronized r p registered covered status named tagged by_whom =>
    exact ⟨r, registered, named, tagged, by_whom, fun h => by simp [status] at h⟩

end History

section Run

variable {c : Constants} {f g : Federation} {past : History} {label : String}

theorem tableEntry_step {update : Option Update} {events : List SyncEvent} (hf : Reflects c f past)
    (st : Step f update events g) (hg : Reflects c g (update.toList ++ past))
    (hh : TableEntry c.policy label past f.sync.points[label]?) :
    TableEntry c.policy label (update.toList ++ past) g.sync.points[label]? := by
  cases st with
  | refused => exact hh
  | joined name session h next alive free => exact hh.join hg.legal.2 hg.legal.1
  | resigned h stay member rest =>
    have hs : stay = History.joined (.resigned h :: past) := rest.trans hg.joined_eq
    rw [SyncTable.getElem?_resigned, hs, hf.policy]
    exact hh.resign
  | registered g l tag targets events sync member ok =>
    obtain ⟨-, -, -, -, rfl⟩ := SyncTable.register_eq_ok_iff.mp ok
    by_cases hl : l = label
    · subst hl
      simpa using tableEntry_registered hg.legal.1.2
    · simp only [getElem?_insert_eq_ite, hl, if_false]
      exact hh.frame (by simp [registration?, hl]) (by simp [achievers, hl]) rfl
        (by simp [registers, hl])
  | achieved h l events sync member ok =>
    obtain ⟨p, at_label, -, -, rfl⟩ := SyncTable.achieve_eq_ok_iff.mp ok
    by_cases hl : l = label
    · subst hl
      rw [at_label] at hh
      simpa [hf.joined_eq] using hh.achieve hg.legal.1
    · simp only [getElem?_insert_eq_ite, hl, if_false]
      exact hh.frame rfl (by simp [achievers, hl]) rfl rfl

theorem after_tableEntry (c : Constants) (run : List Action) (label : String)
    (few : joins (c.initial.history run) < 2 ^ 32) :
    TableEntry c.policy label (c.initial.history run)
      (c.initial.after run).sync.points[label]? := by
  induction run with
  | nil => exact .unregistered rfl
  | cons a earlier ih =>
    have few' := Nat.lt_of_le_of_lt (joins_tail _ _) few
    exact tableEntry_step (after_reflects c earlier few') (act_step _ a)
      (after_reflects c (a :: earlier) few) (ih few')

theorem Step.of_registered {update : Option Update} {events : List SyncEvent}
    (st : Step f update events g) (hl : label ∈ f.sync.points) (policy : ResignPolicy)
    (past : History) :
    registration? label (update.toList ++ past) = registration? label past ∧
      (EverCovered policy label (update.toList ++ past) ↔
        Covered policy label (update.toList ++ past) ∨ EverCovered policy label past) := by
  cases st with
  | refused => exact ⟨rfl, (or_iff_right_of_imp Covered.ever).symm⟩
  | registered g l tag targets events sync member ok =>
    obtain ⟨-, -, free, -, -⟩ := SyncTable.register_eq_ok_iff.mp ok
    have hne : l ≠ label := fun he => free (he ▸ hl)
    exact ⟨if_neg hne, everCovered_cons_iff (by simp [registers, hne])⟩
  | joined | resigned | achieved => exact ⟨rfl, everCovered_cons_iff rfl⟩

theorem mem_points_of_getElem? {p : SyncPoint} (hp : f.sync.points[label]? = some p) :
    label ∈ f.sync.points := by
  rw [← ExtTreeMap.isSome_getElem?_iff_mem, hp]
  rfl

/-- The status of a label, as far as it is in the table. -/
def status? (f : Federation) (label : String) : Option SyncStatus :=
  f.sync.points[label]?.map SyncPoint.status

/-- The table of a run holds for a label what the history dictates. -/
structure Dictated (c : Constants) (run : List Action) (label : String) : Prop where
  joined : (c.initial.after run).joined = History.joined (c.initial.history run)
  present : label ∈ (c.initial.after run).sync.points ↔
    ∃ r ∈ registration? label (c.initial.history run),
      EverCovered c.policy label (c.initial.history run) ∨
        ¬ Deserted c.policy r (c.initial.history run)
  entry : ∀ p ∈ (c.initial.after run).sync.points[label]?,
    ∃ r ∈ registration? label (c.initial.history run),
      p.label = label ∧ p.tag = r.tag ∧ p.registrant = r.registrant ∧
      (p.status = .synchronized ↔ EverCovered c.policy label (c.initial.history run)) ∧
      (p.status = .announced →
        p.achieved = achieved label (c.initial.history run) ∧
        p.scope = if r.targets = ∅ then .federationWide
          else .restricted (scope c.policy r (c.initial.history run)))
  leaves : ∀ a earlier, run = a :: earlier →
    ∀ p ∈ (c.initial.after earlier).sync.points[label]?,
      ∃ r ∈ registration? label (c.initial.history earlier),
        (label ∉ (c.initial.after run).sync.points ↔
          p.status = .announced ∧ c.policy = .prune ∧ r.targets ≠ ∅ ∧
            r.targets ∩ (c.initial.after run).joined = ∅)
  stays : ∀ later earlier, run = later ++ earlier →
    (c.initial.after earlier).status? label = some .synchronized →
      (c.initial.after run).status? label = some .synchronized

theorem leaves_iff {update : Option Update} {events : List SyncEvent} {p : SyncPoint}
    (hf : TableEntry c.policy label past (some p)) (st : Step f update events g)
    (hp : f.sync.points[label]? = some p)
    (hg : TableEntry c.policy label (update.toList ++ past) g.sync.points[label]?) :
    ∃ r ∈ registration? label past, (label ∉ g.sync.points ↔
      p.status = .announced ∧ Deserted c.policy r (update.toList ++ past)) := by
  obtain ⟨hr, hever⟩ := st.of_registered (mem_points_of_getElem? hp) c.policy past
  obtain ⟨r, registered, -⟩ := hf.entry
  refine ⟨r, registered, ?_⟩
  have hopen : p.status = .announced ↔ ¬ EverCovered c.policy label past := by
    rw [← hf.status]
    cases p.status <;> simp
  rw [← ExtTreeMap.isSome_getElem?_iff_mem, hg.present_iff, hr, registered, hopen, hever]
  simp only [Option.mem_def, Option.some.injEq, exists_eq_left', not_or, Classical.not_not]
  constructor
  · rintro ⟨⟨-, hpast⟩, hd⟩
    exact ⟨hpast, hd⟩
  · rintro ⟨hpast, hd⟩
    exact ⟨⟨hd.not_covered (hr.trans registered), hpast⟩, hd⟩

theorem stays_of_step {update : Option Update} {events : List SyncEvent}
    (hf : TableEntry c.policy label past f.sync.points[label]?) (st : Step f update events g)
    (hg : TableEntry c.policy label (update.toList ++ past) g.sync.points[label]?)
    (hs : f.status? label = some .synchronized) : g.status? label = some .synchronized := by
  obtain ⟨p, hp, hps⟩ := Option.map_eq_some_iff.mp hs
  obtain ⟨hr, hever⟩ := st.of_registered (mem_points_of_getElem? hp) c.policy past
  rw [hp] at hf
  obtain ⟨r, registered, -⟩ := hf.entry
  have hc := hever.mpr (Or.inr (hf.status.mp hps))
  have hq := hg.present_iff.mpr ⟨r, hr.trans registered, Or.inl hc⟩
  obtain ⟨q, hq⟩ := Option.isSome_iff_exists.mp hq
  rw [hq] at hg
  simp [status?, hq, hg.status.mpr hc]

theorem stays_synchronized (later earlier : List Action)
    (few : joins (c.initial.history (later ++ earlier)) < 2 ^ 32)
    (hs : (c.initial.after earlier).status? label = some .synchronized) :
    (c.initial.after (later ++ earlier)).status? label = some .synchronized := by
  induction later with
  | nil => exact hs
  | cons a later ih =>
    have few' := Nat.lt_of_le_of_lt (joins_tail _ _) few
    exact stays_of_step (after_tableEntry c _ label few') (act_step _ a)
      (after_tableEntry c _ label few)
      (ih few')

/-- After every run with fewer than 2^32 joins the point table is the one its history dictates. -/
theorem points_dictated (c : Constants) (run : List Action) (label : String)
    (few : joins (c.initial.history run) < 2 ^ 32) : Dictated c run label where
  joined := (after_reflects c run few).joined_eq
  present := by
    rw [← ExtTreeMap.isSome_getElem?_iff_mem]
    exact (after_tableEntry c run label few).present_iff
  entry := by
    intro p hp
    have hh := after_tableEntry c run label few
    rw [Option.mem_def.mp hp] at hh
    obtain ⟨r, registered, named, tagged, by_whom, hopen⟩ := hh.entry
    exact ⟨r, registered, named, tagged, by_whom, hh.status, hopen⟩
  leaves := by
    rintro a earlier rfl p hp
    have few' := Nat.lt_of_le_of_lt (joins_tail _ _) few
    have hh := after_tableEntry c earlier label few'
    rw [Option.mem_def.mp hp] at hh
    rw [(after_reflects c _ few).joined_eq]
    exact leaves_iff hh (act_step _ a) hp (after_tableEntry c _ label few)
  stays := by
    rintro later earlier rfl hs
    exact stays_synchronized later earlier few hs

def relay : Constants := ⟨"relay", ⟨1⟩, ⟨[]⟩, .ieee1516e, .prune⟩

/-- A point for two, synchronized when the one who has not achieved it goes. -/
def drill : List Action :=
  [.resign ⟨3⟩, .achieve ⟨2⟩ "gate", .register ⟨1⟩ "gate" [7] (.ofList [⟨2⟩, ⟨3⟩]),
    .join "gamma" (some ⟨12⟩), .join "beta" (some ⟨11⟩), .join "alpha" (some ⟨10⟩)]

theorem drill_dictated :
    joins (relay.initial.history drill) < 2 ^ 32 ∧ Dictated relay drill "gate" :=
  have few : joins (relay.initial.history drill) < 2 ^ 32 := by decide
  ⟨few, points_dictated relay drill "gate" few⟩

end Run

end HlaCoordination.Federation
