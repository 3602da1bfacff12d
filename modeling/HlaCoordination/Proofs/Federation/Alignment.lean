import HlaCoordination.Proofs.Federation.Workers
import HlaCoordination.Proofs.SyncTable.Silence

/-! Two federations side by side that differ in their policies and in some of their points. Whatever
is asked of both, the same federates come and go; and what is asked about a label comes to the same
for both as long as its points are the same, unless a resignation takes an open point's target. -/
namespace HlaCoordination

open Std

section Resignation

variable {p : SyncPoint} {h : FederateHandle} {joined : HandleSet}

theorem SyncScope.prune_eq_self {s : SyncScope}
    (unnamed : ∀ targets, s = .restricted targets → h ∉ targets) : s.prune h = s := by
  cases s with
  | federationWide => rfl
  | restricted targets =>
    have same : targets.erase h = targets := by
      apply ExtTreeSet.ext_mem
      intro k
      rw [HandleSet.mem_erase_iff]
      constructor
      · rintro ⟨-, target⟩
        exact target
      · intro target
        refine ⟨?_, target⟩
        rintro rfl
        exact unnamed targets rfl target
    rw [prune, same]

theorem SyncPoint.forget_policy (unnamed : ∀ targets, p.scope = .restricted targets → h ∉ targets)
    (policy policy' : ResignPolicy) : p.forget h policy = p.forget h policy' := by
  cases policy <;> cases policy' <;> simp [forget, SyncScope.prune_eq_self unnamed]

variable (unnamed : p.status = .announced → ∀ targets, p.scope = .restricted targets → h ∉ targets)
  (policy policy' : ResignPolicy)
include unnamed

theorem SyncTable.afterResignation_policy :
    afterResignation p h joined policy = afterResignation p h joined policy' := by
  cases status : p.status with
  | synchronized => simp [afterResignation, SyncPoint.isSynchronized, status]
  | announced =>
    simp only [afterResignation, SyncPoint.forget_policy (unnamed status) policy policy']

theorem SyncTable.resignationEvent?_policy :
    resignationEvent? p h joined policy = resignationEvent? p h joined policy' := by
  cases status : p.status with
  | synchronized => simp [resignationEvent?, SyncPoint.isSynchronized, status]
  | announced =>
    simp only [resignationEvent?, SyncPoint.forget_policy (unnamed status) policy policy']

end Resignation

def SyncCall.label? : SyncCall → Option String
  | .register label .. | .achieve label .. => some label
  | .resigned .. | .announcements _ => none

namespace SyncTable

variable {t u : SyncTable} {label other : String} {c : SyncCall}

theorem serve_alike (about : c.label? = some label) (mode : t.restoring = u.restoring)
    (held : t.points[label]? = u.points[label]?) :
    (t.serve (.call c)).1 = (u.serve (.call c)).1 ∧
      (t.serve (.call c)).2.points[label]? = (u.serve (.call c)).2.points[label]? := by
  cases c with
  | resigned | announcements => cases about
  | register l tag targets g joined =>
    cases about
    have listed : t.points.contains label = u.points.contains label := by
      rw [← ExtTreeMap.isSome_getElem?_eq_contains, held, ExtTreeMap.isSome_getElem?_eq_contains]
    simp only [serve, tryRegister, listed, emit, mode]
    split
    · exact ⟨rfl, held⟩
    · split
      · exact ⟨rfl, held⟩
      · split
        · exact ⟨rfl, held⟩
        · simp
  | achieve l h joined =>
    cases about
    simp only [serve, tryAchieve, held, emit, mode]
    split
    · exact ⟨rfl, held⟩
    · split
      · simp
      · exact ⟨rfl, held⟩

theorem filter_emit_of_others {events : List SyncEvent}
    (others : ∀ e ∈ events, e.label ≠ other) :
    (t.emit events).filter (·.label = other) = [] := by
  unfold emit
  split
  · rfl
  · rw [List.filter_eq_nil_iff]
    intro e he same
    exact others e he (of_decide_eq_true same)

theorem serve_other (about : c.label? = some label) (differ : label ≠ other) :
    (t.serve (.call c)).2.points[other]? = t.points[other]? ∧
      ∀ events, (t.serve (.call c)).1 = .ok events → events.filter (·.label = other) = [] := by
  cases c with
  | resigned | announcements => cases about
  | register l tag targets g joined =>
    cases about
    rw [serve]
    rcases outcome : t.tryRegister label tag targets g joined with ⟨e | events, t'⟩
    · rw [(tryRegister_error outcome).1]
      refine ⟨rfl, fun events answered => ?_⟩
      cases answered
    · obtain ⟨-, -, -, told, rfl⟩ := register_eq_ok_iff.mp (completed_eq_ok_iff.mpr outcome)
      refine ⟨?_, ?_⟩
      · rw [getElem?_insert_eq_ite, if_neg differ]
      · rintro _ ⟨⟩
        rw [told]
        apply filter_emit_of_others
        intro e he
        rw [List.mem_singleton.mp he]
        exact differ
  | achieve l h joined =>
    cases about
    rw [serve]
    rcases outcome : t.tryAchieve label h joined with ⟨e | events, t'⟩
    · rw [(tryAchieve_error outcome).1]
      refine ⟨rfl, fun events answered => ?_⟩
      cases answered
    · obtain ⟨p, -, -, told, rfl⟩ := achieve_eq_ok_iff.mp (completed_eq_ok_iff.mpr outcome)
      refine ⟨?_, ?_⟩
      · rw [getElem?_insert_eq_ite, if_neg differ]
      · rintro _ ⟨⟩
        rw [told]
        apply filter_emit_of_others
        intro e he
        split at he
        · rw [List.mem_singleton.mp he]
          exact differ
        · cases he

end SyncTable

namespace Federation

open History

variable {f g : Federation} {a : Action} {label : String}

/-- What an action is answered: a join the handle of the new federate, anything else nothing, unless
it fails. -/
def reply (f : Federation) : Action → Except RtiError (Option FederateHandle)
  | .join name session => (f.join name session).1.map fun r => some r.1
  | .resign _ => .ok none
  | .register g label tag targets => (f.registerSyncPoint g label tag targets).1.map fun _ => none
  | .achieve h label => (f.achieveSyncPoint h label).1.map fun _ => none

def Action.label? : Action → Option String
  | .join .. | .resign _ => none
  | .register _ label .. | .achieve _ label => some label

def call? (f : Federation) : Action → Option (FederateHandle × SyncCall)
  | .join .. | .resign _ => none
  | .register g label tag targets => some (g, .register label tag targets g f.joined)
  | .achieve h label => some (h, .achieve label h f.joined)

section Calls

variable {h : FederateHandle} {call : SyncCall} (asked : f.call? a = some (h, call))
include asked

theorem label?_of_call : a.label? = call.label? := by
  cases a with
  | join | resign => cases asked
  | register | achieve =>
    cases asked
    rfl

theorem act_of_stranger (stranger : h ∉ f.federates) :
    f.reply a = .error (.federateNotJoined h f.name) ∧ (f.act a).events = [] ∧
      (f.act a).federation = f := by
  cases a with
  | join | resign => cases asked
  | register g label tag targets =>
    cases asked
    have refused : f.registerSyncPoint h label tag targets =
        (.error (.federateNotJoined h f.name), f) :=
      registerSyncPoint_eq_error_iff.mpr ⟨rfl, Or.inl ⟨stranger, rfl⟩⟩
    simp only [reply, act, refused]
    exact ⟨rfl, trivial, trivial⟩
  | achieve h label =>
    cases asked
    have refused : f.achieveSyncPoint h label = (.error (.federateNotJoined h f.name), f) :=
      achieveSyncPoint_eq_error_iff.mpr ⟨rfl, Or.inl ⟨stranger, rfl⟩⟩
    simp only [reply, act, refused]
    exact ⟨rfl, trivial, trivial⟩

theorem act_of_member (member : h ∈ f.federates) :
    f.reply a = (f.sync.serve (.call call)).1.map (fun _ => none) ∧
      (f.act a).events = (f.sync.serve (.call call)).1.toOption.getD [] ∧
      (f.act a).federation = { f with sync := (f.sync.serve (.call call)).2 } := by
  cases a with
  | join | resign => cases asked
  | register g label tag targets =>
    cases asked
    simp only [SyncTable.serve]
    rcases worked : f.sync.tryRegister label tag targets h f.joined with ⟨e | events, sync⟩
    · have refused : f.registerSyncPoint h label tag targets = (.error e, f) :=
        registerSyncPoint_eq_error_iff.mpr
          ⟨rfl, Or.inr ⟨member, SyncTable.completed_eq_error_iff.mpr ⟨sync, worked⟩⟩⟩
      simp only [reply, act, refused, (SyncTable.tryRegister_error worked).1]
      exact ⟨rfl, rfl, trivial⟩
    · have done : f.registerSyncPoint h label tag targets =
          (.ok (f.deliveries events), { f with sync }) :=
        registerSyncPoint_eq_ok_iff.mpr
          ⟨member, events, sync, SyncTable.completed_eq_ok_iff.mpr worked, rfl, rfl⟩
      simp only [reply, act, done, worked]
      exact ⟨rfl, rfl, trivial⟩
  | achieve h label =>
    cases asked
    simp only [SyncTable.serve]
    rcases worked : f.sync.tryAchieve label h f.joined with ⟨e | events, sync⟩
    · have refused : f.achieveSyncPoint h label = (.error e, f) :=
        achieveSyncPoint_eq_error_iff.mpr
          ⟨rfl, Or.inr ⟨member, SyncTable.completed_eq_error_iff.mpr ⟨sync, worked⟩⟩⟩
      simp only [reply, act, refused, (SyncTable.tryAchieve_error worked).1]
      exact ⟨rfl, rfl, trivial⟩
    · have done : f.achieveSyncPoint h label = (.ok (f.deliveries events), { f with sync }) :=
        achieveSyncPoint_eq_ok_iff.mpr
          ⟨member, events, sync, SyncTable.completed_eq_ok_iff.mpr worked, rfl, rfl⟩
      simp only [reply, act, done, worked]
      exact ⟨rfl, rfl, trivial⟩

end Calls

def joinedWithout (f : Federation) (h : FederateHandle) : HandleSet :=
  { f with federates := f.federates.erase h }.joined

theorem act_resign_of_mem {h : FederateHandle} (member : h ∈ f.federates) :
    (f.act (.resign h)).events = (f.sync.resigned h (f.joinedWithout h) f.policy).1 ∧
      (f.act (.resign h)).federation.sync =
        (f.sync.resigned h (f.joinedWithout h) f.policy).2 := by
  simp only [act, resign_of_mem member, ExtTreeMap.contains_iff_mem.mpr member, if_true]
  exact ⟨rfl, rfl⟩

/-- Two federations that differ at most in their policies and in their points. -/
structure Kindred (f g : Federation) : Prop where
  name : f.name = g.name
  handle : f.handle = g.handle
  counter : f.counter = g.counter
  federates : f.federates = g.federates
  destroyed : f.destroyed = g.destroyed
  restoring : f.sync.restoring = g.sync.restoring

namespace Kindred

variable (same : Kindred f g)
include same

theorem joined : f.joined = g.joined := by
  rw [Federation.joined, Federation.joined, same.federates]

theorem joined_without (h : FederateHandle) : f.joinedWithout h = g.joinedWithout h := by
  rw [joinedWithout, joinedWithout, Federation.joined, Federation.joined, same.federates]

theorem call? (a : Action) : f.call? a = g.call? a := by
  cases a <;> simp only [Federation.call?, same.joined]

theorem deliveries (events : List SyncEvent) : f.deliveries events = g.deliveries events := by
  have each : f.delivery = g.delivery := by
    funext e
    cases e <;> simp only [delivery, same.handle, same.federates]
  rw [Federation.deliveries, Federation.deliveries, each]

theorem join (name : String) (session : Option SessionId) :
    (∃ e, f.join name session = (.error e, f) ∧ g.join name session = (.error e, g)) ∨
      ∃ h owed owed' f' g', f.join name session = (.ok (h, owed), f') ∧
        g.join name session = (.ok (h, owed'), g') ∧ Kindred f' g' ∧
        f'.sync = f.sync ∧ g'.sync = g.sync := by
  have taken : f.nameInUse name = g.nameInUse name := by
    rw [nameInUse, nameInUse, same.federates]
  by_cases gone : f.destroyed = true
  · have gone' := same.destroyed ▸ gone
    refine Or.inl ⟨.federationDoesNotExist f.name, ?_, ?_⟩
    · simp [Federation.join, gone]
    · simp [Federation.join, gone', same.name]
  · have live := same.destroyed ▸ gone
    by_cases used : f.nameInUse name = true
    · have used' := taken ▸ used
      refine Or.inl ⟨.federateNameInUse name f.name, ?_, ?_⟩
      · simp [Federation.join, gone, used]
      · simp [Federation.join, live, used', same.name]
    · have free := taken ▸ used
      rw [Bool.not_eq_true] at gone live used free
      refine Or.inr ⟨⟨f.counter.issued + 1⟩, _, _, _, _,
        join_eq_ok_iff.mpr ⟨gone, used, rfl, rfl, rfl⟩,
        join_eq_ok_iff.mpr ⟨live, free, by rw [same.counter], rfl, rfl⟩, ?_, rfl, rfl⟩
      exact {
        name := same.name
        handle := same.handle
        counter := by rw [same.counter]
        federates := by rw [same.federates]
        destroyed := same.destroyed
        restoring := same.restoring }

theorem act_of_call {h : FederateHandle} {call : SyncCall} (asked : f.call? a = some (h, call)) :
    Kindred (f.act a).federation (g.act a).federation := by
  have asked' := (same.call? a).symm.trans asked
  by_cases member : h ∈ f.federates
  · have member' := same.federates ▸ member
    rw [(act_of_member asked member).2.2, (act_of_member asked' member').2.2]
    exact {
      name := same.name
      handle := same.handle
      counter := same.counter
      federates := same.federates
      destroyed := same.destroyed
      restoring := by
        rw [SyncTable.restoring_serve, SyncTable.restoring_serve]
        exact same.restoring }
  · have stranger := same.federates ▸ member
    rw [(act_of_stranger asked member).2.2, (act_of_stranger asked' stranger).2.2]
    exact same

theorem act (a : Action) : Kindred (f.act a).federation (g.act a).federation := by
  cases a with
  | join name session =>
    rcases same.join name session with ⟨e, left, right⟩ | ⟨h, _, _, f', g', left, right, next, -, -⟩
    · simp only [Federation.act, left, right]
      exact same
    · simp only [Federation.act, left, right]
      exact next
  | resign h =>
    by_cases member : h ∈ f.federates
    · have member' := same.federates ▸ member
      simp only [Federation.act, resign_of_mem member, resign_of_mem member',
        ExtTreeMap.contains_iff_mem.mpr member, ExtTreeMap.contains_iff_mem.mpr member', if_true]
      exact {
        name := same.name
        handle := same.handle
        counter := same.counter
        federates := by rw [same.federates]
        destroyed := same.destroyed
        restoring := same.restoring }
    · have stranger := same.federates ▸ member
      simp only [Federation.act, resign_of_not_mem member, resign_of_not_mem stranger,
        ExtTreeMap.contains_iff_mem, member, stranger, if_false]
      exact same
  | register g' l tag targets => exact same.act_of_call rfl
  | achieve h l => exact same.act_of_call rfl

end Kindred

/-- Two federations that are the same as far as one label goes. -/
structure Aligned (label : String) (f g : Federation) : Prop where
  kindred : Kindred f g
  entry : f.sync.points[label]? = g.sync.points[label]?

/-- Not being restored, with its points under their labels. -/
structure Ordinary (f : Federation) : Prop where
  live : f.sync.restoring = false
  named : ∀ (label : String) (p : SyncPoint), f.sync.points[label]? = some p → p.label = label

/-- The action takes no target away from an open point of the label. -/
def Spares (f : Federation) (label : String) : Action → Prop
  | .resign h => h ∈ f.federates → ∀ p, f.sync.points[label]? = some p → p.status = .announced →
    ∀ targets, p.scope = .restricted targets → h ∉ targets
  | .join .. | .register .. | .achieve .. => True

/-- What an action comes to is the same for both, as far as the label goes. -/
structure SameFor (label : String) (f g : Federation) (a : Action) : Prop where
  entry : (f.act a).federation.sync.points[label]? = (g.act a).federation.sync.points[label]?
  events : (f.act a).events.filter (·.label = label) = (g.act a).events.filter (·.label = label)
  reply : a.label? = some label → f.reply a = g.reply a

namespace Aligned

variable (al : Aligned label f g)
include al

theorem spares_iff : f.Spares label a ↔ g.Spares label a := by
  cases a with
  | resign h => simp only [Spares, al.kindred.federates, al.entry]
  | join | register | achieve => exact Iff.rfl

theorem call {h : FederateHandle} {call : SyncCall} (asked : f.call? a = some (h, call))
    {l : String} (about : call.label? = some l) : SameFor label f g a := by
  have asked' := (al.kindred.call? a).symm.trans asked
  have about_a : a.label? = some l := (label?_of_call asked).trans about
  by_cases member : h ∈ f.federates
  · have member' := al.kindred.federates ▸ member
    obtain ⟨reply, events, became⟩ := act_of_member asked member
    obtain ⟨reply', events', became'⟩ := act_of_member asked' member'
    by_cases this : l = label
    · subst this
      obtain ⟨answer, entry⟩ := SyncTable.serve_alike about al.kindred.restoring al.entry
      constructor
      · rw [became, became']
        exact entry
      · rw [events, events', answer]
      · intro _
        rw [reply, reply', answer]
    · have untold (t : SyncTable) :
          ((t.serve (.call call)).1.toOption.getD []).filter (·.label = label) = [] := by
        cases answer : (t.serve (.call call)).1 with
        | error e => rfl
        | ok told => exact (SyncTable.serve_other about this).2 told answer
      constructor
      · rw [became, became', (SyncTable.serve_other about this).1,
          (SyncTable.serve_other about this).1]
        exact al.entry
      · rw [events, events', untold, untold]
      · intro about'
        exact absurd (Option.some.inj (about_a.symm.trans about')) this
  · have stranger := al.kindred.federates ▸ member
    obtain ⟨reply, events, became⟩ := act_of_stranger asked member
    obtain ⟨reply', events', became'⟩ := act_of_stranger asked' stranger
    constructor
    · rw [became, became']
      exact al.entry
    · rw [events, events']
    · intro _
      rw [reply, reply', al.kindred.name]

variable (ordinary : Ordinary f) (ordinary' : Ordinary g)
include ordinary ordinary'

theorem join (name : String) (session : Option SessionId) :
    SameFor label f g (.join name session) := by
  rcases al.kindred.join name session with
    ⟨e, left, right⟩ | ⟨h, _, _, f', g', left, right, -, sync, sync'⟩
  · constructor
    · simp only [Federation.act, left, right]
      exact al.entry
    · simp only [Federation.act, left, right]
    · intro about
      cases about
  · constructor
    · simp only [Federation.act, left, right, sync, sync']
      exact al.entry
    · simp only [Federation.act, left, right]
      rw [SyncTable.announcementsForJoiner_filter ordinary.live ordinary.named,
        SyncTable.announcementsForJoiner_filter ordinary'.live ordinary'.named, al.entry]
    · intro about
      cases about

theorem resign {h : FederateHandle} (spares : f.Spares label (.resign h)) :
    SameFor label f g (.resign h) := by
  by_cases member : h ∈ f.federates
  · have member' := al.kindred.federates ▸ member
    obtain ⟨events, sync⟩ := act_resign_of_mem member
    obtain ⟨events', sync'⟩ := act_resign_of_mem member'
    have stay := al.kindred.joined_without h
    constructor
    · rw [sync, sync', SyncTable.getElem?_resigned, SyncTable.getElem?_resigned, ← stay, ← al.entry]
      cases held : f.sync.points[label]? with
      | none => rfl
      | some p =>
        rw [Option.map_some, Option.map_some,
          SyncTable.afterResignation_policy (spares member p held) f.policy g.policy]
    · rw [events, events', SyncTable.resigned_filter ordinary.live ordinary.named,
        SyncTable.resigned_filter ordinary'.live ordinary'.named, ← stay, ← al.entry]
      cases held : f.sync.points[label]? with
      | none => rfl
      | some p =>
        rw [Option.bind_some, Option.bind_some,
          SyncTable.resignationEvent?_policy (spares member p held) f.policy g.policy]
    · intro about
      cases about
  · have stranger := al.kindred.federates ▸ member
    constructor
    · simp only [Federation.act, resign_of_not_mem member, resign_of_not_mem stranger,
        ExtTreeMap.contains_iff_mem, member, stranger, if_false]
      exact al.entry
    · simp only [Federation.act, ExtTreeMap.contains_iff_mem, member, stranger, if_false]
    · intro about
      cases about

theorem act (spares : f.Spares label a) : SameFor label f g a := by
  cases a with
  | join name session => exact al.join ordinary ordinary' name session
  | resign h => exact al.resign ordinary ordinary' spares
  | register g' l tag targets => exact al.call rfl rfl
  | achieve h l => exact al.call rfl rfl

end Aligned

theorem SameFor.deliveries (alike : SameFor label f g a) (kindred : Kindred f g) :
    (f.act a).deliveries.filter (noticeLabel ·.notice = label) =
      (g.act a).deliveries.filter (noticeLabel ·.notice = label) := by
  have named (f' : Federation) (events : List SyncEvent) :
      (f'.deliveries events).filter (noticeLabel ·.notice = label) =
        f'.deliveries (events.filter (·.label = label)) := by
    have about (e : SyncEvent) : noticeLabel (f'.delivery e).notice = e.label := by
      cases e <;> rfl
    simp only [Federation.deliveries, List.filter_map, Function.comp_def, about]
  rw [act_deliveries, act_deliveries, named, named, alike.events, (kindred.act a).deliveries]

end Federation

end HlaCoordination
