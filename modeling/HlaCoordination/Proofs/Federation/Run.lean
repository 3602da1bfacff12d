import HlaCoordination.Federation.Registry
import HlaCoordination.Proofs.SyncTable

/-! Runs of one federation from its creation, without restores. An action is a request with any
arguments; an update is an action that succeeded and changed something. Runs and histories are
listed newest first, so every earlier moment of a run is a tail of it. -/
namespace HlaCoordination.Federation

open Std

/-- What never changes about a federation. -/
structure Constants where
  name : String
  handle : FederationHandle
  schema : SchemaRef
  version : HlaVersion
  policy : ResignPolicy
  deriving DecidableEq

def Constants.initial (c : Constants) : Federation :=
  { name := c.name, handle := c.handle, schema := c.schema, version := c.version,
    policy := c.policy }

inductive Action where
  | join (name : String) (session : Option SessionId)
  | resign (federate : FederateHandle)
  | register (registrant : FederateHandle) (label : String) (tag : Octets) (targets : HandleSet)
  | achieve (federate : FederateHandle) (label : String)
  deriving DecidableEq

inductive Update where
  | joined (federate : Federate)
  | resigned (federate : FederateHandle)
  | registered (registrant : FederateHandle) (label : String) (tag : Octets) (targets : HandleSet)
  | achieved (federate : FederateHandle) (label : String)
  deriving DecidableEq

abbrev History := List Update

/-- What an action came to: the update, if there was one, what the point table told, what was
delivered, and the federation afterwards. -/
structure Outcome where
  update : Option Update := none
  events : List SyncEvent := []
  deliveries : List Delivery := []
  federation : Federation

def told : Except RtiError (List SyncEvent) → List SyncEvent
  | .ok events => events
  | .error _ => []

def act (f : Federation) : Action → Outcome
  | .join name session =>
    match f.join name session with
    | (.ok (h, deliveries), federation) =>
      { update := some (.joined ⟨name, h, session⟩), events := f.sync.announcementsForJoiner h,
        deliveries, federation }
    | (.error _, federation) => { federation }
  | .resign h =>
    let (deliveries, federation) := f.resign h
    if f.federates.contains h then
      { update := some (.resigned h), events := (f.sync.resigned h federation.joined f.policy).1,
        deliveries, federation }
    else { deliveries, federation }
  | .register g label tag targets =>
    match f.registerSyncPoint g label tag targets with
    | (.ok deliveries, federation) =>
      { update := some (.registered g label tag targets),
        events := told (f.sync.tryRegister label tag targets g f.joined).1, deliveries, federation }
    | (.error _, federation) => { federation }
  | .achieve h label =>
    match f.achieveSyncPoint h label with
    | (.ok deliveries, federation) =>
      { update := some (.achieved h label), events := told (f.sync.tryAchieve label h f.joined).1,
        deliveries, federation }
    | (.error _, federation) => { federation }

def after (f : Federation) : List Action → Federation
  | [] => f
  | a :: earlier => ((f.after earlier).act a).federation

def history (f : Federation) : List Action → History
  | [] => []
  | a :: earlier => ((f.after earlier).act a).update.toList ++ f.history earlier

def trace (f : Federation) : List Action → List SyncEvent
  | [] => []
  | a :: earlier => f.trace earlier ++ ((f.after earlier).act a).events

theorem after_append (f : Federation) (later earlier : List Action) :
    f.after (later ++ earlier) = (f.after earlier).after later := by
  induction later with
  | nil => rfl
  | cons a later ih => simp only [List.cons_append, after, ih]

theorem history_append (f : Federation) (later earlier : List Action) :
    f.history (later ++ earlier) = (f.after earlier).history later ++ f.history earlier := by
  induction later with
  | nil => rfl
  | cons a later ih => simp only [List.cons_append, history, after_append, ih, List.append_assoc]

theorem mem_joined {f : Federation} {h : FederateHandle} : h ∈ f.joined ↔ h ∈ f.federates := by
  simp [joined, HandleSet.mem_ofList]

/-- Everything an action can do. The new federate's handle is the next one of the counter, and a
resignation is settled among those who stay. -/
inductive Step (f : Federation) : Option Update → List SyncEvent → Federation → Prop where
  | refused : Step f none [] f
  | joined (name : String) (session : Option SessionId) (h : FederateHandle)
      (next : h = ⟨f.counter.issued + 1⟩) (alive : f.destroyed = false)
      (free : f.nameInUse name = false) :
      Step f (some (.joined ⟨name, h, session⟩)) (f.sync.announcementsForJoiner h)
        { f with
          counter := ⟨f.counter.issued + 1⟩
          federates := f.federates.insert h ⟨name, h, session⟩ }
  | resigned (h : FederateHandle) (stay : HandleSet) (member : h ∈ f.federates)
      (rest : stay = { f with federates := f.federates.erase h }.joined) :
      Step f (some (.resigned h)) (f.sync.resigned h stay f.policy).1
        { f with
          federates := f.federates.erase h
          sync := (f.sync.resigned h stay f.policy).2 }
  | registered (g : FederateHandle) (label : String) (tag : Octets) (targets : HandleSet)
      (events : List SyncEvent) (sync : SyncTable) (member : g ∈ f.federates)
      (ok : f.sync.register label tag targets g f.joined = .ok (events, sync)) :
      Step f (some (.registered g label tag targets)) events { f with sync }
  | achieved (h : FederateHandle) (label : String) (events : List SyncEvent) (sync : SyncTable)
      (member : h ∈ f.federates)
      (ok : f.sync.achieve label h f.joined = .ok (events, sync)) :
      Step f (some (.achieved h label)) events { f with sync }

theorem join_eq_ok_iff {f g : Federation} {name : String} {session : Option SessionId}
    {h : FederateHandle} {owed : List Delivery} :
    f.join name session = (.ok (h, owed), g) ↔
      f.destroyed = false ∧ f.nameInUse name = false ∧ h = ⟨f.counter.issued + 1⟩ ∧
      g = { f with
        counter := ⟨f.counter.issued + 1⟩
        federates := f.federates.insert h ⟨name, h, session⟩ } ∧
      owed = g.deliveries (f.sync.announcementsForJoiner h) := by
  unfold join
  by_cases hd : f.destroyed = true
  · simp [hd]
  · by_cases hn : f.nameInUse name = true
    · simp [hd, hn]
    · simp only [hd, hn, HandleCounter.next]
      constructor
      · rintro ⟨⟩
        exact ⟨trivial, trivial, rfl, rfl, rfl⟩
      · rintro ⟨-, -, rfl, rfl, rfl⟩
        rfl

theorem join_error {f g : Federation} {name : String} {session : Option SessionId} {e : RtiError}
    (failed : f.join name session = (.error e, g)) :
    g = f ∧ (e = .federationDoesNotExist f.name ∨ e = .federateNameInUse name f.name) := by
  unfold join at failed
  split at failed
  · cases failed
    exact ⟨rfl, Or.inl rfl⟩
  · split at failed
    · cases failed
      exact ⟨rfl, Or.inr rfl⟩
    · cases failed

theorem resign_of_mem {f : Federation} {h : FederateHandle} (hm : h ∈ f.federates) :
    f.resign h =
      let g := { f with federates := f.federates.erase h }
      (g.deliveries (f.sync.resigned h g.joined f.policy).1,
        { g with sync := (f.sync.resigned h g.joined f.policy).2 }) := by
  simp [resign, hm]

theorem resign_of_not_mem {f : Federation} {h : FederateHandle} (hm : h ∉ f.federates) :
    f.resign h = ([], f) := by
  simp [resign, hm]

section WorkOnPoints

variable {f g : Federation} {h : FederateHandle} {owed : List Delivery} {e : RtiError}
  {work : SyncTable → Except RtiError (List SyncEvent) × SyncTable}

theorem workOnPoints_eq_ok_iff :
    f.workOnPoints h work = (.ok owed, g) ↔
      h ∈ f.federates ∧ ∃ events sync, work f.sync = (.ok events, sync) ∧
        owed = f.deliveries events ∧ g = { f with sync } := by
  unfold workOnPoints requireMember
  by_cases hm : h ∈ f.federates
  · rcases hw : work f.sync with ⟨e | events, sync⟩
    · simp [hm, Except.map]
    · simp only [hm, ExtTreeMap.contains_iff_mem, if_true, Except.map, Except.ok.injEq,
        Prod.mk.injEq, true_and]
      constructor
      · rintro ⟨rfl, rfl⟩
        exact ⟨events, sync, ⟨rfl, rfl⟩, rfl, rfl⟩
      · rintro ⟨_, _, ⟨rfl, rfl⟩, rfl, rfl⟩
        exact ⟨rfl, rfl⟩
  · simp [hm]

/-- Requests on points fail for a stranger, or because the table does; if this keeps the table when
it fails, the federation stays as it was. -/
theorem workOnPoints_eq_error_iff
    (kept : ∀ e sync, work f.sync = (.error e, sync) → sync = f.sync) :
    f.workOnPoints h work = (.error e, g) ↔ g = f ∧
      (h ∉ f.federates ∧ e = .federateNotJoined h f.name ∨
        h ∈ f.federates ∧ SyncTable.completed (work f.sync) = .error e) := by
  unfold workOnPoints requireMember
  by_cases hm : h ∈ f.federates
  · rcases hw : work f.sync with ⟨e' | events, sync⟩
    · obtain rfl := kept e' sync hw
      simp only [hm, ExtTreeMap.contains_iff_mem, if_true, Except.map, Except.error.injEq,
        Prod.mk.injEq, SyncTable.completed, true_and, not_true_eq_false, false_and, false_or]
      rw [and_comm, eq_comm]
    · simp [hm, Except.map, SyncTable.completed]
  · simp only [hm, ExtTreeMap.contains_iff_mem, if_false, Prod.mk.injEq, Except.error.injEq,
      not_false_eq_true, true_and, false_and, or_false]
    rw [and_comm, eq_comm, eq_comm (a := e)]

end WorkOnPoints

section Requests

variable {f g : Federation} {h : FederateHandle} {label : String} {tag : Octets}
  {targets : HandleSet} {owed : List Delivery} {e : RtiError}

theorem registerSyncPoint_eq_ok_iff :
    f.registerSyncPoint h label tag targets = (.ok owed, g) ↔
      h ∈ f.federates ∧ ∃ events sync,
        f.sync.register label tag targets h f.joined = .ok (events, sync) ∧
        owed = f.deliveries events ∧ g = { f with sync } := by
  simp only [registerSyncPoint, workOnPoints_eq_ok_iff, SyncTable.register,
    SyncTable.completed_eq_ok_iff]

theorem achieveSyncPoint_eq_ok_iff :
    f.achieveSyncPoint h label = (.ok owed, g) ↔
      h ∈ f.federates ∧ ∃ events sync,
        f.sync.achieve label h f.joined = .ok (events, sync) ∧
        owed = f.deliveries events ∧ g = { f with sync } := by
  simp only [achieveSyncPoint, workOnPoints_eq_ok_iff, SyncTable.achieve,
    SyncTable.completed_eq_ok_iff]

theorem registerSyncPoint_eq_error_iff :
    f.registerSyncPoint h label tag targets = (.error e, g) ↔ g = f ∧
      (h ∉ f.federates ∧ e = .federateNotJoined h f.name ∨
        h ∈ f.federates ∧ f.sync.register label tag targets h f.joined = .error e) :=
  workOnPoints_eq_error_iff fun _ _ failed => (SyncTable.tryRegister_error failed).1

theorem achieveSyncPoint_eq_error_iff :
    f.achieveSyncPoint h label = (.error e, g) ↔ g = f ∧
      (h ∉ f.federates ∧ e = .federateNotJoined h f.name ∨
        h ∈ f.federates ∧ f.sync.achieve label h f.joined = .error e) :=
  workOnPoints_eq_error_iff fun _ _ failed => (SyncTable.tryAchieve_error failed).1

theorem restore_error {s : Snapshot} (failed : f.restore s = (.error e, g)) :
    g = f ∧ e = .internal .malformedSnapshot := by
  rcases worked : f.sync.tryRestore s with ⟨done, sync⟩
  simp only [restore, worked, Prod.mk.injEq] at failed
  obtain ⟨rfl, rfl⟩ := failed
  obtain ⟨rfl, rfl⟩ := SyncTable.tryRestore_error worked
  exact ⟨rfl, rfl⟩

end Requests

theorem act_step (f : Federation) (a : Action) :
    Step f (f.act a).update (f.act a).events (f.act a).federation := by
  cases a with
  | join name session =>
    rcases hj : f.join name session with ⟨_ | ⟨h, owed⟩, g⟩
    · obtain ⟨rfl, -⟩ := join_error hj
      simpa only [act, hj] using Step.refused
    · obtain ⟨alive, free, next, rfl, -⟩ := join_eq_ok_iff.mp hj
      simpa only [act, hj] using Step.joined name session h next alive free
  | resign h =>
    by_cases hm : h ∈ f.federates
    · simp only [act, resign_of_mem hm, ExtTreeMap.contains_iff_mem.mpr hm, if_true]
      exact Step.resigned h _ hm rfl
    · simpa [act, hm, resign_of_not_mem hm] using Step.refused
  | register g label tag targets =>
    rcases hr : f.registerSyncPoint g label tag targets with ⟨_ | owed, g'⟩
    · obtain ⟨rfl, -⟩ := registerSyncPoint_eq_error_iff.mp hr
      simpa only [act, hr] using Step.refused
    · obtain ⟨member, events, sync, ok, -, rfl⟩ := registerSyncPoint_eq_ok_iff.mp hr
      simpa only [act, hr, SyncTable.completed_eq_ok_iff.mp ok, told] using
        Step.registered g label tag targets events sync member ok
  | achieve h label =>
    rcases hr : f.achieveSyncPoint h label with ⟨_ | owed, g'⟩
    · obtain ⟨rfl, -⟩ := achieveSyncPoint_eq_error_iff.mp hr
      simpa only [act, hr] using Step.refused
    · obtain ⟨member, events, sync, ok, -, rfl⟩ := achieveSyncPoint_eq_ok_iff.mp hr
      simpa only [act, hr, SyncTable.completed_eq_ok_iff.mp ok, told] using
        Step.achieved h label events sync member ok

/-- Every event makes one delivery, addressed by the table of federates afterwards. -/
theorem act_deliveries (f : Federation) (a : Action) :
    (f.act a).deliveries = (f.act a).federation.deliveries (f.act a).events := by
  cases a with
  | join name session =>
    rcases hj : f.join name session with ⟨_ | ⟨h, owed⟩, g⟩
    · simp [act, hj, deliveries]
    · obtain ⟨-, -, -, -, rfl⟩ := join_eq_ok_iff.mp hj
      simp only [act, hj]
  | resign h =>
    by_cases hm : h ∈ f.federates
    · simp only [act, resign_of_mem hm, ExtTreeMap.contains_iff_mem.mpr hm, if_true]
      rfl
    · simp [act, resign_of_not_mem hm, hm, deliveries]
  | register g label tag targets =>
    rcases hr : f.registerSyncPoint g label tag targets with ⟨_ | owed, g'⟩
    · simp [act, hr, deliveries]
    · obtain ⟨-, events, sync, ok, rfl, rfl⟩ := registerSyncPoint_eq_ok_iff.mp hr
      simp only [act, hr, SyncTable.completed_eq_ok_iff.mp ok, told]
      rfl
  | achieve h label =>
    rcases hr : f.achieveSyncPoint h label with ⟨_ | owed, g'⟩
    · simp [act, hr, deliveries]
    · obtain ⟨-, events, sync, ok, rfl, rfl⟩ := achieveSyncPoint_eq_ok_iff.mp hr
      simp only [act, hr, SyncTable.completed_eq_ok_iff.mp ok, told]
      rfl

end HlaCoordination.Federation
