import HlaCoordination.Authority.Assembly
import HlaCoordination.Proofs.Authority.Answers
import HlaCoordination.Proofs.Authority.Isolation
import HlaCoordination.Proofs.Sink

/-! A registry with its federations as objects comes to the registry that it stands for, whatever is
looked up, created or destroyed in it. Tables give every type of message its handler; a federation
that is alive has a sink that refers to it. -/
namespace HlaCoordination

open Std

def TableHandler.wired {κ σ : Type} (s : TableHandler κ σ) (shared : κ) : Handler σ :=
  ⟨s.name, s.process (some shared)⟩

def ObjectRegistry.tableHandler? : MessageType → Option (TableHandler Unit ObjectRegistry)
  | .createFederation => some createFederation
  | .destroyFederation => some destroyFederation
  | .listFederations => some listFederations
  | .ping => some ping
  | .joinFederation | .resignFederation | .registerSyncPoint | .achieveSyncPoint => none

section Tables

theorem incoming_sound (scope : FederationScope) : Sink.Sound LiveFederations.incoming scope where
  distinct := by decide
  configured := by simp [LiveFederations.incoming, TableHandler.wiring]

theorem global_sound : Sink.Sound ObjectRegistry.global () where
  distinct := by decide
  configured := by simp [ObjectRegistry.global, TableHandler.wiring]

def Attends (serial : Serial) (sink : Sink LiveFederations) : Prop :=
  ∀ t, sink.handler? t =
    (FederationDesk.incoming.handler? t).map fun h => (LiveFederations.handler h).wired ⟨serial⟩

theorem attends_built (name : String) (serial : Serial) :
    Attends serial (Sink.built name LiveFederations.incoming ⟨serial⟩) := by
  intro t
  rw [Sink.built, Sink.handler?_enrolAll, Sink.empty, Option.none_or]
  cases t <;> rfl

theorem handler?_global (name : String) (t : MessageType) :
    (Sink.built name ObjectRegistry.global ()).handler? t =
      (ObjectRegistry.tableHandler? t).map (·.wired ()) := by
  rw [Sink.built, Sink.handler?_enrolAll, Sink.empty, Option.none_or]
  cases t <;> rfl

end Tables

namespace ObjectRegistry

variable {p p' : ObjectRegistry} {serial : Serial} {f g : Federation} {name : String} {e : RtiError}

/-- The registry that the objects stand for. -/
def registry (p : ObjectRegistry) : Registry where
  policy := p.policy
  counter := p.counter
  federations := p.names.filterMap fun _ serial => p.alive[serial]?

/-- A federation that is alive has a sink of its own; one that is named is alive, under its name;
and no number is used before it is given away. -/
structure Sturdy (p : ObjectRegistry) : Prop where
  wired : ∀ (serial : Serial) (f : Federation), p.alive[serial]? = some f →
    ∃ sink, p.sinks[serial]? = some sink ∧ Attends serial sink
  named : ∀ (name : String) (serial : Serial), p.names[name]? = some serial →
    ∃ f : Federation, p.alive[serial]? = some f ∧ f.name = name
  fresh : ∀ serial : Serial, p.issued ≤ serial →
    p.alive[serial]? = none ∧ p.sinks[serial]? = none

theorem getElem?_registry (p : ObjectRegistry) (name : String) :
    p.registry.federations[name]? = p.names[name]?.bind (p.alive[·]?) :=
  ExtTreeMap.getElem?_filterMap'

theorem Sturdy.filed (sturdy : p.Sturdy) : p.registry.Filed := by
  intro name f hf
  rw [getElem?_registry] at hf
  obtain ⟨serial, filed, alive⟩ := Option.bind_eq_some_iff.mp hf
  obtain ⟨g, there, named⟩ := sturdy.named name serial filed
  cases alive.symm.trans there
  exact named

theorem registry_eq {r : Registry} (policy : p.policy = r.policy) (counter : p.counter = r.counter)
    (federations : ∀ name : String,
      p.names[name]?.bind (p.alive[·]?) = r.federations[name]?) : p.registry = r := by
  have same : p.registry.federations = r.federations :=
    ExtTreeMap.ext_getElem? fun name => (p.getElem?_registry name).trans (federations name)
  obtain ⟨policy', counter', federations'⟩ := r
  subst policy counter same
  rfl

theorem values_registry (p : ObjectRegistry) : p.registry.federations.values = p.federations := by
  simp only [registry, federations, values_eq_map_snd, ExtTreeMap.toList_filterMap,
    List.map_filterMap, List.filterMap_map]
  congr 1
  funext entry
  simp [Option.map_map, Function.comp_def]

inductive Finds (p : ObjectRegistry) :
    Except RtiError Serial → Except RtiError Federation → Prop where
  | found (serial : Serial) (f : Federation) (alive : p.alive[serial]? = some f)
      (filed : p.names[f.name]? = some serial) : Finds p (.ok serial) (.ok f)
  | lost (e : RtiError) : Finds p (.error e) (.error e)

theorem Sturdy.lookup_cases (sturdy : p.Sturdy) (name : String) :
    (p.lookup name = .error (.federationDoesNotExist name) ∧
        p.registry.lookup name = .error (.federationDoesNotExist name)) ∨
      ∃ serial f, p.lookup name = .ok serial ∧ p.registry.lookup name = .ok f ∧ f.name = name ∧
        p.names[name]? = some serial ∧ p.alive[serial]? = some f := by
  unfold ObjectRegistry.lookup Registry.lookup
  rw [getElem?_registry]
  cases filed : p.names[name]? with
  | none => exact Or.inl ⟨rfl, rfl⟩
  | some serial =>
    obtain ⟨f, alive, named⟩ := sturdy.named name serial filed
    simp only [Option.bind_some, alive]
    exact Or.inr ⟨serial, f, rfl, rfl, named, rfl, alive⟩

theorem Sturdy.lookup (sturdy : p.Sturdy) (name : String) :
    Finds p (p.lookup name) (p.registry.lookup name) := by
  rcases sturdy.lookup_cases name with ⟨lost, lost'⟩ | ⟨serial, f, found, found', rfl, filed, alive⟩
  · rw [lost, lost']
    exact .lost (.federationDoesNotExist name)
  · rw [found, found']
    exact .found serial f alive filed

theorem Sturdy.lookupHandle (sturdy : p.Sturdy) (h : FederationHandle) :
    Finds p (p.lookupHandle h) (p.registry.lookupHandle h) := by
  unfold ObjectRegistry.lookupHandle Registry.lookupHandle
  rw [values_registry, federations, List.find?_filterMap]
  cases search : p.names.values.find? fun serial => (p.alive[serial]?).any (·.handle == h) with
  | none => exact .lost _
  | some serial =>
    obtain ⟨name, filed⟩ := mem_values_iff.mp (List.mem_of_find?_eq_some search)
    obtain ⟨f, alive, rfl⟩ := sturdy.named name serial filed
    simp only [Option.bind_some, alive]
    exact .found serial f alive filed

theorem Sturdy.addressed (sturdy : p.Sturdy) (m : ControlMessage) :
    Finds p (p.addressed m) (Authority.addressedFederation p.registry m) := by
  obtain ⟨request, source, target, origin⟩ := m
  cases request with
  | joinFederation federation | resignFederation federation => exact sturdy.lookup federation
  | createFederation | destroyFederation | listFederations | ping | registerSyncPoint
  | achieveSyncPoint =>
    cases target with
    | none => exact .lost _
    | some h => exact sturdy.lookupHandle h

/-- What becomes of objects: whoever was alive still is. -/
structure Preserves (p' p : ObjectRegistry) : Prop where
  sturdy : p'.Sturdy
  kept : ∀ serial ∈ p.alive, serial ∈ p'.alive

theorem Sturdy.preserves (sturdy : p.Sturdy) : p.Preserves p := ⟨sturdy, fun _ there => there⟩

theorem Preserves.trans {p'' : ObjectRegistry} (later : p''.Preserves p') (first : p'.Preserves p) :
    p''.Preserves p :=
  ⟨later.sturdy, fun serial there => later.kept serial (first.kept serial there)⟩

def changed (p : ObjectRegistry) (serial : Serial) (g : Federation) : ObjectRegistry :=
  { p with alive := p.alive.insert serial g }

section Updates

variable (sturdy : p.Sturdy) (alive : p.alive[serial]? = some f) (same : g.name = f.name)
include sturdy alive same

theorem Sturdy.changed : (p.changed serial g).Preserves p where
  sturdy := {
    wired := fun serial' f' there => by
      rcases getElem?_insert_eq_some_iff.mp there with ⟨rfl, -⟩ | ⟨-, there⟩
      · exact sturdy.wired serial f alive
      · exact sturdy.wired serial' f' there
    named := fun name serial' filed => by
      obtain ⟨f', there, rfl⟩ := sturdy.named name serial' filed
      by_cases here : serial = serial'
      · subst here
        cases alive.symm.trans there
        exact ⟨g, ExtTreeMap.getElem?_insert_self, same⟩
      · exact ⟨f', getElem?_insert_eq_some_iff.mpr (Or.inr ⟨here, there⟩), rfl⟩
    fresh := fun serial' above => by
      have other : serial ≠ serial' := by
        rintro rfl
        cases (sturdy.fresh serial above).1.symm.trans alive
      refine ⟨?_, (sturdy.fresh serial' above).2⟩
      rw [ObjectRegistry.changed, getElem?_insert_eq_ite, if_neg other]
      exact (sturdy.fresh serial' above).1 }
  kept serial' there := ExtTreeMap.mem_insert.mpr (Or.inr there)

theorem Sturdy.registry_changed (filed : p.names[f.name]? = some serial) :
    (p.changed serial g).registry = p.registry.put g := by
  refine registry_eq rfl rfl fun name => ?_
  rw [Registry.getElem?_put, getElem?_registry, same, ObjectRegistry.changed]
  by_cases here : f.name = name
  · subst here
    simp only [filed, Option.bind_some, ExtTreeMap.getElem?_insert_self, if_true]
  · rw [if_neg here]
    cases other : p.names[name]? with
    | none => rfl
    | some serial' =>
      have apart : serial ≠ serial' := by
        rintro rfl
        obtain ⟨f', there, rfl⟩ := sturdy.named name serial other
        cases alive.symm.trans there
        exact here rfl
      simp only [Option.bind_some, getElem?_insert_eq_ite, apart, if_false]

end Updates

/-- What is done in the objects is what is done in the registry. -/
structure Represents {α : Type} (p : ObjectRegistry) (done : α × ObjectRegistry)
    (meant : α × Registry) :
    Prop where
  same : done.1 = meant.1
  registry : done.2.registry = meant.2
  preserves : done.2.Preserves p

theorem Sturdy.idle {α : Type} (sturdy : p.Sturdy) (value : α) :
    Represents p (value, p) (value, p.registry) :=
  ⟨rfl, rfl, sturdy.preserves⟩

theorem Sturdy.timed (sturdy : p.Sturdy) (clock : Clock) : (p.timed clock).Preserves p :=
  ⟨⟨sturdy.wired, sturdy.named, sturdy.fresh⟩, fun _ there => there⟩

theorem create_taken {schema : SchemaRef} {version : HlaVersion} (taken : name ∈ p.names) :
    p.create name schema version = (.error (.federationAlreadyExists name), p) := by
  simp only [create, ExtTreeMap.contains_iff_mem.mpr taken, if_true]

def added (p : ObjectRegistry) (f : Federation) (sink : Sink LiveFederations) : ObjectRegistry :=
  { p with
    counter := ⟨p.counter.issued + 1⟩, issued := p.issued + 1
    names := p.names.insert f.name p.issued
    alive := p.alive.insert p.issued f
    sinks := p.sinks.insert p.issued sink }

theorem Sturdy.create_free (sturdy : p.Sturdy) (free : name ∉ p.names) (schema : SchemaRef)
    (version : HlaVersion) :
    let f : Federation :=
      { name, handle := ⟨p.counter.issued + 1⟩, schema, version, policy := p.policy }
    ∃ sink, Attends p.issued sink ∧ p.create name schema version = (.ok f, p.added f sink) := by
  intro f
  refine ⟨_, attends_built ("federation-" ++ toString (p.counter.issued + 1) ++ "-incoming")
    p.issued, ?_⟩
  have vacant : p.names.contains name = false := by
    rw [← Bool.not_eq_true, ExtTreeMap.contains_iff_mem]
    exact free
  have uninstalled : p.sinks.contains p.issued = false := by
    rw [← Bool.not_eq_true, ExtTreeMap.contains_iff_mem, ExtTreeMap.mem_iff_isSome_getElem?,
      (sturdy.fresh p.issued (Nat.le_refl _)).2]
    exact Bool.false_ne_true
  simp only [create, vacant, Bool.false_eq_true, if_false, HandleCounter.next,
    Sink.ofTable_of_sound (incoming_sound _), install, uninstalled]
  rfl

theorem Sturdy.mem_registry (sturdy : p.Sturdy) :
    name ∈ p.registry.federations ↔ name ∈ p.names := by
  rw [ExtTreeMap.mem_iff_isSome_getElem?, ExtTreeMap.mem_iff_isSome_getElem?, getElem?_registry]
  cases filed : p.names[name]? with
  | none => exact Iff.rfl
  | some serial =>
    obtain ⟨f, alive, -⟩ := sturdy.named name serial filed
    simp only [Option.bind_some, alive, Option.isSome_some]

theorem Sturdy.ne_issued (sturdy : p.Sturdy) (filed : p.names[name]? = some serial) :
    p.issued ≠ serial := by
  rintro rfl
  obtain ⟨f, alive, -⟩ := sturdy.named name p.issued filed
  cases (sturdy.fresh p.issued (Nat.le_refl _)).1.symm.trans alive

theorem Sturdy.added (sturdy : p.Sturdy) {sink : Sink LiveFederations}
    (attends : Attends p.issued sink)
    (f : Federation) : (p.added f sink).Preserves p where
  sturdy := {
    wired := fun serial g there => by
      rcases getElem?_insert_eq_some_iff.mp there with ⟨rfl, -⟩ | ⟨other, there⟩
      · exact ⟨sink, ExtTreeMap.getElem?_insert_self, attends⟩
      · obtain ⟨sink', installed, attends'⟩ := sturdy.wired serial g there
        exact ⟨sink', getElem?_insert_eq_some_iff.mpr (Or.inr ⟨other, installed⟩), attends'⟩
    named := fun name serial filed => by
      rcases getElem?_insert_eq_some_iff.mp filed with ⟨rfl, rfl⟩ | ⟨-, filed⟩
      · exact ⟨f, ExtTreeMap.getElem?_insert_self, rfl⟩
      · obtain ⟨g, there, named⟩ := sturdy.named name serial filed
        exact ⟨g, getElem?_insert_eq_some_iff.mpr (Or.inr ⟨sturdy.ne_issued filed, there⟩), named⟩
    fresh := fun serial above => by
      have other : p.issued ≠ serial := Nat.ne_of_lt above
      have unused := sturdy.fresh serial (Nat.le_of_succ_le above)
      simp only [ObjectRegistry.added, getElem?_insert_eq_ite, other, if_false]
      exact unused }
  kept serial there := ExtTreeMap.mem_insert.mpr (Or.inr there)

theorem Sturdy.registry_added (sturdy : p.Sturdy) (f : Federation) (sink : Sink LiveFederations) :
    (p.added f sink).registry =
      { p.registry with
        counter := ⟨p.counter.issued + 1⟩
        federations := p.registry.federations.insert f.name f } := by
  refine registry_eq rfl rfl fun name => ?_
  rw [getElem?_insert_eq_ite, getElem?_registry, ObjectRegistry.added, getElem?_insert_eq_ite]
  by_cases here : f.name = name
  · simp only [here, if_true, Option.bind_some, ExtTreeMap.getElem?_insert_self]
  · simp only [here, if_false]
    cases filed : p.names[name]? with
    | none => rfl
    | some serial =>
      simp only [Option.bind_some, getElem?_insert_eq_ite, sturdy.ne_issued filed, if_false]

/-- A creation comes to the same in the objects and in the registry. -/
theorem Sturdy.create (sturdy : p.Sturdy) (name : String) (schema : SchemaRef)
    (version : HlaVersion) :
    (∃ e, p.create name schema version = (.error e, p) ∧
        p.registry.create name schema version = (.error e, p.registry)) ∨
      ∃ f p', p.create name schema version = (.ok f, p') ∧
        p.registry.create name schema version = (.ok f, p'.registry) ∧ p'.Preserves p := by
  by_cases taken : name ∈ p.names
  · refine Or.inl ⟨_, create_taken taken, ?_⟩
    simp only [Registry.create, ExtTreeMap.contains_iff_mem.mpr (sturdy.mem_registry.mpr taken),
      if_true]
  · obtain ⟨sink, attends, made⟩ := sturdy.create_free taken schema version
    refine Or.inr ⟨_, _, made, ?_, sturdy.added attends _⟩
    rw [sturdy.registry_added]
    exact Registry.create_eq_ok_iff.mpr ⟨mt sturdy.mem_registry.mp taken, rfl, rfl⟩

theorem Preserves.erase (preserves : p'.Preserves p) (name : String) :
    Preserves { p' with names := p'.names.erase name } p where
  sturdy := {
    wired := preserves.sturdy.wired
    named := fun name' serial filed =>
      preserves.sturdy.named name' serial (getElem?_erase_eq_some_iff.mp filed).2
    fresh := preserves.sturdy.fresh }
  kept := preserves.kept

theorem registry_erase (p : ObjectRegistry) (name : String) :
    ({ p with names := p.names.erase name } : ObjectRegistry).registry =
      { p.registry with federations := p.registry.federations.erase name } := by
  refine registry_eq rfl rfl fun name' => ?_
  rw [getElem?_erase_eq_ite, getElem?_erase_eq_ite, getElem?_registry]
  split <;> rfl

theorem Sturdy.destroy (sturdy : p.Sturdy) (name : String) :
    (∃ e, p.destroy name = (.error e, p) ∧
        p.registry.destroy name = (.error e, p.registry)) ∨
      ∃ p', p.destroy name = (.ok (), p') ∧
        p.registry.destroy name = (.ok (), p'.registry) ∧ p'.Preserves p := by
  rcases sturdy.lookup_cases name with ⟨lost, lost'⟩ | ⟨serial, f, found, found', rfl, filed, alive⟩
  · refine Or.inl ⟨.federationDoesNotExist name, ?_, ?_⟩
    · rw [ObjectRegistry.destroy, lost]
    · rw [Registry.destroy, lost']
  · cases occupied : f.isOccupied with
    | true =>
      refine Or.inl ⟨.federatesCurrentlyJoined f.name, ?_, ?_⟩
      · simp [ObjectRegistry.destroy, found, alive, Federation.retire, occupied,
          insert_eq_self alive]
      · have kept := sturdy.filed.put_self (Registry.lookup_eq_ok_iff.mp found')
        simp [Registry.destroy, found', Federation.retire, occupied, kept]
    | false =>
      have retired : Federation.name { f with destroyed := true } = f.name := rfl
      refine Or.inr ⟨{ p with
          names := p.names.erase f.name
          alive := p.alive.insert serial { f with destroyed := true } }, ?_, ?_, ?_⟩
      · simp [ObjectRegistry.destroy, found, alive, Federation.retire, occupied]
      · have erased := registry_erase
          (p.changed serial { f with destroyed := true }) f.name
        rw [sturdy.registry_changed alive retired filed] at erased
        refine Registry.destroy_eq_ok_iff.mpr ⟨f, ?_, occupied, ?_⟩
        · rw [getElem?_registry, filed]
          exact alive
        · refine erased.trans ?_
          simp only [Registry.put, erase_insert]
      · exact (sturdy.changed alive retired).erase f.name

end ObjectRegistry

end HlaCoordination
