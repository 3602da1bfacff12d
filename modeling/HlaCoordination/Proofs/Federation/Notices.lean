import HlaCoordination.Proofs.Federation.Barrier

/-! What a step tells. About any one label it is at most one thing, and the history decides which:
a registration announces the point, a federate that joins is told of a point for everybody as long
as it is open, and the step that covers an open point reports it. -/
namespace HlaCoordination.Federation

open Std History

variable {c : Constants} {f g : Federation} {past : History} {label : String}

namespace History

inductive Tells (policy : ResignPolicy) (label : String) (past : History) :
    Option Update → List SyncEvent → Prop where
  | announced (g : FederateHandle) (tag : Octets) (targets : HandleSet)
      (pending : ¬ EverCovered policy label past) :
      Tells policy label past (some (.registered g label tag targets))
        [.announced label tag (if targets = ∅ then joined past else targets)]
  | invited (m : Federate) (r : Registration) (registered : registration? label past = some r)
      (everybody : r.targets = ∅) (pending : ¬ EverCovered policy label past)
      (still : ¬ EverCovered policy label (.joined m :: past)) :
      Tells policy label past (some (.joined m)) [.announced label r.tag (.ofList [m.handle])]
  | synchronized (d : Update) (r : Registration) (registered : registration? label past = some r)
      (later : registers label d = false) (moved : ∀ m, d ≠ .joined m)
      (pending : ¬ EverCovered policy label past) (covered : Covered policy label (d :: past)) :
      Tells policy label past (some d) [.synchronized label (scope policy r (d :: past))]
  | silent (d : Option Update) (later : ∀ d' ∈ d, registers label d' = false)
      (uninvited : ∀ m r, d = some (.joined m) → registration? label past = some r →
        r.targets = ∅ → EverCovered policy label past)
      (unchanged : EverCovered policy label (d.toList ++ past) ↔ EverCovered policy label past) :
      Tells policy label past d []

theorem registration?_append {later : History}
    (quiet : ∀ d ∈ later, registers label d = false) (past : History) :
    registration? label (later ++ past) = registration? label past := by
  induction later with
  | nil => rfl
  | cons d later ih =>
    have hd := quiet d List.mem_cons_self
    have ih := ih fun d' hd' => quiet d' (List.mem_cons_of_mem _ hd')
    cases d with
    | registered g l tag targets =>
      have hl : l ≠ label := of_decide_eq_false hd
      simpa only [List.cons_append, registration?, hl, if_false] using ih
    | joined | resigned | achieved => exact ih

theorem segment_cons (a b : Action) (later earlier : List Action) :
    (c.initial.after earlier).trace (b :: later ++ [a]) =
      (c.initial.after earlier).trace (later ++ [a]) ++
        ((c.initial.after (later ++ a :: earlier)).act b).events := by
  have hl : later ++ a :: earlier = (later ++ [a]) ++ earlier := by simp
  rw [hl, after_append]
  rfl

theorem registration?_of_mem_moments {moment : History} (hm : moment ∈ moments label past) :
    registration? label moment = registration? label past := by
  induction past with
  | nil => simp [moments] at hm
  | cons d past ih =>
    rcases List.mem_cons.mp hm with rfl | hm
    · rfl
    · cases d with
      | registered g l tag targets =>
        by_cases hl : l = label
        · simp [registers, hl] at hm
        · simp only [registers, hl, decide_false, Bool.false_eq_true, if_false] at hm
          simpa only [registration?, hl, if_false] using ih hm
      | joined | resigned | achieved => exact ih hm

theorem EverCovered.registered {policy : ResignPolicy} (h : EverCovered policy label past) :
    ∃ r, registration? label past = some r := by
  obtain ⟨moment, hm, r, hr, -⟩ := h
  exact ⟨r, (registration?_of_mem_moments hm).symm.trans hr⟩

theorem EverCovered.append {policy : ResignPolicy} {later : History}
    (hc : EverCovered policy label past) (quiet : ∀ d ∈ later, registers label d = false) :
    EverCovered policy label (later ++ past) := by
  induction later with
  | nil => exact hc
  | cons d later ih =>
    refine (everCovered_cons_iff (quiet d List.mem_cons_self)).mpr (Or.inr (ih ?_))
    exact fun d' hd' => quiet d' (List.mem_cons_of_mem _ hd')

theorem not_everCovered_of_none {policy : ResignPolicy} (h : registration? label past = none) :
    ¬ EverCovered policy label past := by
  intro hc
  obtain ⟨r, hr⟩ := hc.registered
  simp [h] at hr

section Tells

variable {policy : ResignPolicy} {entry : Option SyncPoint}

theorem tells_joined {m : Federate} (hh : TableEntry policy label past entry) (legal : Legal past)
    (new : ¬ Issued m.handle past) :
    Tells policy label past (some (.joined m)) (entry.bind fun p =>
      if p.scope.isFederationWide && !p.isSynchronized then
        some (.announced label p.tag (HandleSet.ofList [m.handle])) else none).toList := by
  have unchanged : EverCovered policy label (.joined m :: past) ↔
      EverCovered policy label past := everCovered_joined legal new
  have later : ∀ d ∈ some (Update.joined m), registers label d = false := by
    rintro d ⟨⟩; rfl
  cases hh with
  | unregistered never =>
    refine .silent _ later ?_ unchanged
    intro m' r _ hr
    simp [never] at hr
  | announced r registered pending kept =>
    by_cases ht : r.targets = ∅
    · have ho : (opened policy label r past).scope.isFederationWide = true := by
        simp [opened, scopeOf, SyncScope.isFederationWide, ht]
      simp only [Option.bind_some, ho]
      exact .invited m r registered ht pending (mt unchanged.mp pending)
    · have ho : (opened policy label r past).scope.isFederationWide = false := by
        simp [opened, scopeOf, SyncScope.isFederationWide, ht]
      simp only [Option.bind_some, ho]
      refine .silent _ later ?_ unchanged
      intro m' r' _ hr' ht'
      cases registered.symm.trans hr'
      exact absurd ht' ht
  | synchronized r p registered covered status =>
    simp only [Option.bind_some, SyncPoint.isSynchronized, status]
    simpa using Tells.silent _ later (fun _ _ _ _ _ => covered) unchanged
  | dropped r registered pending deserted =>
    refine .silent _ later ?_ unchanged
    intro m' r' _ hr' ht'
    cases registered.symm.trans hr'
    exact absurd ht' deserted.2.1

theorem tells_covered {d : Update} {r : Registration}
    (registered : registration? label past = some r)
    (hr : registration? label (d :: past) = some r) (later : registers label d = false)
    (moved : ∀ m, d ≠ .joined m) (pending : ¬ EverCovered policy label past) :
    Tells policy label past (some d)
      (if (opened policy label r (d :: past)).isComplete (joined (d :: past)) then
        [.synchronized label
          ((opened policy label r (d :: past)).scope.members (joined (d :: past)))]
      else []) := by
  have hm : (opened policy label r (d :: past)).scope.members (joined (d :: past)) =
      scope policy r (d :: past) := members_scopeOf
  rw [hm]
  by_cases hc : Covered policy label (d :: past)
  · rw [if_pos ((isComplete_opened_iff hr).mpr hc)]
    exact .synchronized d r registered later moved pending hc
  · rw [if_neg (mt (isComplete_opened_iff hr).mp hc)]
    refine .silent _ (by rintro _ ⟨⟩; exact later) (fun m _ he => ?_) ?_
    · exact absurd (Option.some.inj he) (moved m)
    · exact (everCovered_cons_iff later).trans (or_iff_right hc)

theorem tells_nothing {d : Update} (later : registers label d = false) (moved : ∀ m, d ≠ .joined m)
    (unchanged : Covered policy label (d :: past) → EverCovered policy label past) :
    Tells policy label past (some d) [] := by
  refine .silent _ (by rintro _ ⟨⟩; exact later) (fun m _ he => ?_) ?_
  · exact absurd (Option.some.inj he) (moved m)
  · exact (everCovered_cons_iff later).trans (or_iff_right_of_imp unchanged)

theorem tells_resigned {h : FederateHandle} (hh : TableEntry policy label past entry) :
    Tells policy label past (some (.resigned h))
      (entry.bind
        (SyncTable.resignationEvent? · h (joined (.resigned h :: past)) policy)).toList := by
  cases hh with
  | unregistered never =>
    refine tells_nothing rfl nofun ?_
    rintro ⟨r, hr, -⟩
    simp [registration?, never] at hr
  | announced r registered pending kept =>
    have he : SyncTable.resignationEvent? (opened policy label r past) h
        (joined (.resigned h :: past)) policy =
        if (opened policy label r (.resigned h :: past)).isComplete (joined (.resigned h :: past))
        then some (.synchronized label ((opened policy label r (.resigned h :: past)).scope.members
          (joined (.resigned h :: past)))) else none := by
      rw [SyncTable.resignationEvent?, forget_opened]
      rfl
    rw [Option.bind_some, he, apply_ite Option.toList]
    exact tells_covered registered registered rfl nofun pending
  | synchronized r p registered covered status =>
    have he : SyncTable.resignationEvent? p h (joined (.resigned h :: past)) policy = none := by
      simp [SyncTable.resignationEvent?, SyncPoint.isSynchronized, status]
    rw [Option.bind_some, he]
    exact tells_nothing rfl nofun fun _ => covered
  | dropped r registered pending deserted =>
    exact tells_nothing rfl nofun fun hc => absurd hc (deserted.resigned.not_covered registered)

theorem tells_achieved {h : FederateHandle} {p : SyncPoint} (hj : h ∈ joined past)
    (hh : TableEntry policy label past (some p)) :
    Tells policy label past (some (.achieved h label))
      (if (p.achieve h).isComplete (joined past) then
        [.synchronized label ((p.achieve h).scope.members (joined past))] else []) := by
  cases hh with
  | announced r registered pending kept =>
    rw [achieve_opened hj]
    exact tells_covered registered registered rfl nofun pending
  | synchronized r p registered covered status =>
    have he : (p.achieve h).isComplete (joined past) = false := by
      simp [SyncPoint.isComplete, SyncPoint.achieve, SyncPoint.isSynchronized, status]
    rw [he]
    exact tells_nothing rfl nofun fun _ => covered

end Tells

end History

theorem tells_step {update : Option Update} {events : List SyncEvent} (hf : Reflects c f past)
    (holds : ∀ l, TableEntry c.policy l past f.sync.points[l]?) (st : Step f update events g)
    (hg : Reflects c g (update.toList ++ past)) (label : String) :
    Tells c.policy label past update (events.filter (·.label = label)) := by
  have named : ∀ (l : String) (p : SyncPoint), f.sync.points[l]? = some p → p.label = l := by
    intro l p hp
    have hl := holds l
    rw [hp] at hl
    obtain ⟨-, -, named, -⟩ := hl.entry
    exact named
  cases st with
  | refused => exact .silent none (by simp) (by simp) Iff.rfl
  | joined name session h next alive free =>
    rw [SyncTable.announcementsForJoiner_filter hf.live named]
    exact tells_joined (m := ⟨name, h, session⟩) (holds label) hf.legal hg.legal.1
  | resigned h stay member rest =>
    have hs : stay = History.joined (.resigned h :: past) := rest.trans hg.joined_eq
    rw [SyncTable.resigned_filter hf.live named, hs, hf.policy]
    exact tells_resigned (holds label)
  | registered g l tag targets events sync member ok =>
    obtain ⟨-, known, free, rfl, -⟩ := SyncTable.register_eq_ok_iff.mp ok
    rw [SyncTable.emit, hf.live, if_neg Bool.false_ne_true]
    by_cases hl : l = label
    · subst hl
      have hm : (SyncScope.ofTargets targets).members f.joined =
          if targets = ∅ then History.joined past else targets := by
        by_cases ht : targets = ∅ <;>
          simp [SyncScope.ofTargets, SyncScope.members, ht, hf.joined_eq]
      have pending : ¬ EverCovered c.policy l past := by
        intro hc
        obtain ⟨r, hr⟩ := hc.registered
        have hp := (holds l).present_iff.mpr ⟨r, hr, Or.inl hc⟩
        exact free (ExtTreeMap.isSome_getElem?_iff_mem.mp hp)
      simpa [SyncEvent.label, hm] using Tells.announced g tag targets pending
    · have frame : EverCovered c.policy label (.registered g l tag targets :: past) ↔
          EverCovered c.policy label past :=
        everCovered_frame (by simp [registration?, hl]) (by simp [achievers, hl]) rfl
          (by simp [registers, hl])
      have ht : Tells c.policy label past (some (.registered g l tag targets)) [] :=
        tells_nothing (by simp [registers, hl]) (by simp) fun hc => frame.mp hc.ever
      simpa [SyncEvent.label, hl] using ht
  | achieved h l events sync member ok =>
    obtain ⟨p, at_label, -, rfl, -⟩ := SyncTable.achieve_eq_ok_iff.mp ok
    rw [SyncTable.emit, hf.live, if_neg Bool.false_ne_true]
    by_cases hl : l = label
    · subst hl
      have hp := holds l
      rw [at_label] at hp
      have hj : h ∈ History.joined past := hg.legal.1
      have ht := tells_achieved hj hp
      rw [← hf.joined_eq] at ht
      split
      · rename_i hc
        rw [if_pos hc] at ht
        simpa [SyncEvent.label] using ht
      · rename_i hc
        rw [if_neg hc] at ht
        exact ht
    · have frame : EverCovered c.policy label (.achieved h l :: past) ↔
          EverCovered c.policy label past :=
        everCovered_frame rfl (by simp [achievers, hl]) rfl rfl
      have none_left {q : Prop} [Decidable q] (recipients : HandleSet) :
          (if q then [SyncEvent.synchronized l recipients] else []).filter
            (·.label = label) = [] := by
        split <;> simp [SyncEvent.label, hl]
      rw [none_left]
      exact tells_nothing rfl (by simp) fun hc => frame.mp hc.ever

def announces (label : String) (h : FederateHandle) : SyncEvent → Bool
  | .announced l _ recipients => l = label && recipients.contains h
  | .synchronized .. => false

theorem mem_filter_label {e : SyncEvent} {events : List SyncEvent} (he : e ∈ events) :
    e ∈ events.filter (·.label = e.label) :=
  List.mem_filter.mpr ⟨he, decide_eq_true rfl⟩

theorem countP_announces_filter (label : String) (h : FederateHandle) (events : List SyncEvent) :
    (events.filter (·.label = label)).countP (announces label h) =
      events.countP (announces label h) := by
  rw [List.countP_filter]
  apply List.countP_congr
  intro e _
  cases e with
  | announced l _ recipients =>
    simp only [announces, SyncEvent.label, Bool.and_eq_true, decide_eq_true_eq]
    exact and_iff_left_of_imp fun ha => decide_eq_true ha.1
  | synchronized => simp [announces]

/-- The step announces the label to a federate that joins while the point is open. -/
def Welcomes (policy : ResignPolicy) (label : String) (h : FederateHandle) (past : History)
    (update : Option Update) : Prop :=
  ∃ m r, update = some (.joined m) ∧ m.handle = h ∧ registration? label past = some r ∧
    r.targets = ∅ ∧ ¬ EverCovered policy label past

namespace History

variable {policy : ResignPolicy} {update : Option Update} {events : List SyncEvent}

theorem Tells.of_registered {g : FederateHandle} {tag : Octets} {targets : HandleSet}
    (ht : Tells policy label past (some (.registered g label tag targets)) events) :
    events = [.announced label tag (if targets = ∅ then joined past else targets)] := by
  cases ht with
  | announced => rfl
  | synchronized _ _ _ later => simp [registers] at later
  | silent _ later => simpa [registers] using later _ rfl

theorem Tells.countP_announces (ht : Tells policy label past update events)
    (quiet : ∀ d ∈ update, registers label d = false) (h : FederateHandle) :
    Welcomes policy label h past update ∧ events.countP (announces label h) = 1 ∨
      ¬ Welcomes policy label h past update ∧ events.countP (announces label h) = 0 := by
  cases ht with
  | announced g tag targets => simpa [registers] using quiet _ rfl
  | invited m r registered everybody pending =>
    by_cases hm : m.handle = h
    · exact Or.inl ⟨⟨m, r, rfl, hm, registered, everybody, pending⟩,
        by simp [announces, HandleSet.mem_ofList, hm]⟩
    · refine Or.inr ⟨?_, by simp [announces, HandleSet.mem_ofList, Ne.symm hm]⟩
      rintro ⟨_, _, ⟨⟩, hm', -⟩
      exact hm hm'
  | synchronized d r registered later moved =>
    refine Or.inr ⟨?_, by simp [announces]⟩
    rintro ⟨m, _, ⟨⟩, -⟩
    exact moved m rfl
  | silent _ later uninvited =>
    refine Or.inr ⟨?_, rfl⟩
    rintro ⟨m, r, hd, -, hr, everybody, pending⟩
    exact pending (uninvited m r hd hr everybody)

theorem Tells.of_never (ht : Tells policy label past update events)
    (never : registration? label (update.toList ++ past) = none) :
    registration? label past = none ∧ events = [] := by
  have before (later : ∀ d ∈ update, registers label d = false) :
      registration? label past = none := by
    rwa [registration?_append fun d hd => later d (Option.mem_toList.mp hd)] at never
  cases ht with
  | announced => simp [registration?] at never
  | invited m r registered => simp [registration?, registered] at never
  | synchronized d r registered later =>
    have := before (by rintro _ ⟨⟩; exact later)
    simp [registered] at this
  | silent _ later => exact ⟨before later, rfl⟩

/-- Nothing but the covering of the point is reported as its synchronization. -/
theorem Tells.cases_covered (ht : Tells policy label past update events) :
    (∀ e ∈ events, ∀ recipients, e ≠ .synchronized label recipients) ∧
        (EverCovered policy label (update.toList ++ past) ↔ EverCovered policy label past) ∧
        (EverCovered policy label past → events = []) ∨
      (∃ recipients, events = [.synchronized label recipients]) ∧
        ¬ EverCovered policy label past ∧ EverCovered policy label (update.toList ++ past) := by
  cases ht with
  | announced g tag targets pending =>
    have still : ¬ EverCovered policy label (.registered g label tag targets :: past) :=
      not_everCovered_registered
    exact Or.inl ⟨by simp, iff_of_false still pending, fun hc => absurd hc pending⟩
  | invited m r registered everybody pending still =>
    exact Or.inl ⟨by simp, iff_of_false still pending, fun hc => absurd hc pending⟩
  | synchronized d r registered later moved pending covered =>
    exact Or.inr ⟨⟨_, rfl⟩, pending, covered.ever⟩
  | silent _ later uninvited unchanged => exact Or.inl ⟨by simp, unchanged, fun _ => rfl⟩

theorem Tells.of_synchronized (ht : Tells policy label past update events) {recipients : HandleSet}
    (he : .synchronized label recipients ∈ events) :
    ∃ d r, update = some d ∧ registration? label past = some r ∧ (∀ m, d ≠ .joined m) ∧
      ¬ EverCovered policy label past ∧ recipients = scope policy r (d :: past) ∧
      recipients ≠ ∅ ∧ ∀ h ∈ recipients, h ∈ achieved label (d :: past) := by
  cases ht with
  | announced | invited | silent => simp at he
  | synchronized d r registered later moved pending covered =>
    obtain ⟨r', registered', some_left, all⟩ := covered
    have quiet : ∀ d' ∈ [d], registers label d' = false := by simpa using later
    cases registered.symm.trans ((registration?_append quiet past).symm.trans registered')
    simp only [List.mem_singleton, SyncEvent.synchronized.injEq, true_and] at he
    subst he
    exact ⟨d, r, rfl, registered, moved, pending, rfl, some_left, all⟩

theorem mem_joined_update {h : FederateHandle} (hj : h ∈ joined (update.toList ++ past)) :
    h ∈ joined past ∨ ∃ m, update = some (.joined m) ∧ m.handle = h := by
  rcases update with _ | d
  · exact Or.inl hj
  · cases d with
    | joined m =>
      rcases HandleSet.mem_insert_iff.mp hj with rfl | hj
      · exact Or.inr ⟨m, rfl, rfl⟩
      · exact Or.inl hj
    | resigned k => exact Or.inl (HandleSet.mem_erase_iff.mp hj).2
    | registered | achieved => exact Or.inl hj

theorem Tells.recipients_joined (ht : Tells policy label past update events)
    (legal : Legal (update.toList ++ past)) {e : SyncEvent} (he : e ∈ events) {h : FederateHandle}
    (hh : h ∈ e.recipients) : h ∈ joined (update.toList ++ past) := by
  cases ht with
  | announced g tag targets =>
    cases List.mem_singleton.mp he
    by_cases everybody : targets = ∅
    · have hj : h ∈ joined past := by
        simpa [SyncEvent.recipients, everybody] using hh
      exact hj
    · exact legal.1.2 h (by simpa [SyncEvent.recipients, everybody] using hh)
  | invited m r =>
    cases List.mem_singleton.mp he
    have hm : h = m.handle := by
      simpa [SyncEvent.recipients, HandleSet.mem_ofList] using hh
    exact HandleSet.mem_insert_iff.mpr (Or.inl hm)
  | synchronized d r registered later moved pending covered =>
    cases List.mem_singleton.mp he
    obtain ⟨_, _, ⟨⟩, -, -, -, -, -, all⟩ :=
      (Tells.synchronized d r registered later moved pending covered).of_synchronized he
    exact (ExtTreeSet.mem_inter_iff.mp (all h hh)).2
  | silent => simp at he

theorem Tells.tag_eq (ht : Tells policy label past update events)
    (quiet : ∀ d ∈ update, registers label d = false) {r : Registration}
    (registered : registration? label past = some r) {tag : Octets} {recipients : HandleSet}
    (he : .announced label tag recipients ∈ events) : tag = r.tag := by
  cases ht with
  | announced g tag targets => simpa [registers] using quiet _ rfl
  | invited m r' registered' =>
    cases registered.symm.trans registered'
    simp only [List.mem_singleton, SyncEvent.announced.injEq] at he
    exact he.2.1
  | synchronized => simp at he
  | silent => simp at he

end History

theorem tells_after (c : Constants) (a : Action) (earlier : List Action) (label : String)
    (few : joins (c.initial.history (a :: earlier)) < 2 ^ 32) :
    Tells c.policy label (c.initial.history earlier) ((c.initial.after earlier).act a).update
      (((c.initial.after earlier).act a).events.filter (·.label = label)) := by
  have few' := Nat.lt_of_le_of_lt (joins_tail _ _) few
  exact tells_step (after_reflects c earlier few') (fun l => after_tableEntry c earlier l few')
    (act_step _ a) (after_reflects c (a :: earlier) few) label

end HlaCoordination.Federation
