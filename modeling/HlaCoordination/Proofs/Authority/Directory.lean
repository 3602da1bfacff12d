import HlaCoordination.Proofs.Authority.Isolation
import Mathlib.Data.List.Perm.Subperm
import Mathlib.Data.List.Nodup

/-! The registry of an authority that has been sent any messages since it was opened: what it can
be asked about its federations, which requests to create or destroy one succeed, and which handles
it gives out. -/
namespace HlaCoordination

open Std

/-- Federates are told apart by words of 32 bits, so there is room in a summary to count them. -/
theorem FederateTable.size_le (federates : FederateTable) : federates.size ≤ 2 ^ 32 := by
  have distinct : (federates.keys.map fun h => h.value.toNat).Nodup := by
    refine List.Nodup.map ?_ ExtTreeMap.nodup_keys
    intro h k same
    cases h
    cases k
    exact congrArg FederateHandle.mk (UInt32.toNat_inj.mp same)
  have bounded : (federates.keys.map fun h => h.value.toNat) ⊆ List.range (2 ^ 32) := by
    intro n hn
    obtain ⟨h, -, rfl⟩ := List.mem_map.mp hn
    exact List.mem_range.mpr h.value.toNat_lt
  have short := (List.subperm_of_subset distinct bounded).length_le
  rwa [List.length_map, ExtTreeMap.length_keys, List.length_range] at short

theorem Federation.federateCount_summary (f : Federation) :
    f.summary.federateCount.toNat = f.federates.size := by
  have bound := FederateTable.size_le f.federates
  change f.federates.size.toUInt64.toNat = f.federates.size
  rw [Nat.toUInt64_eq, UInt64.toNat_ofNat']
  exact Nat.mod_eq_of_lt (by omega)

namespace Registry

variable {r r' : Registry} {f : Federation} {name : String} {order : List Federation}

def listing (order : List Federation) : List FederationSummary :=
  (order.map Federation.summary).mergeSort fun a b => a.handle.value ≤ b.handle.value

/-- Names and handles find federations, and all of them are listed, however the table is gone
through. -/
structure Directory (r : Registry) : Prop where
  keys : r.federations.keys = r.federations.values.map Federation.name
  handles : (r.federations.values.map Federation.handle).Nodup
  lookup : ∀ f ∈ r.federations.values, r.lookup f.name = .ok f
  lookupHandle : ∀ f ∈ r.federations.values, r.lookupHandle f.handle = .ok f
  searched : ∀ order : List Federation, order.Perm r.federations.values → ∀ f ∈ order,
    order.find? (·.handle == f.handle) = some f
  listed : r.summaries.Perm (r.federations.values.map Federation.summary)
  counted : ∀ f ∈ r.federations.values, f.summary.federateCount.toNat = f.federates.size
  ascending : r.summaries.Pairwise (·.handle.value < ·.handle.value)
  collected : ∀ order : List Federation, order.Perm r.federations.values →
    listing order = r.summaries

theorem find?_handle (distinct : (order.map Federation.handle).Nodup) (hf : f ∈ order) :
    order.find? (·.handle == f.handle) = some f := by
  cases found : order.find? (·.handle == f.handle) with
  | none =>
    have unlike := List.find?_eq_none.mp found f hf
    simp at unlike
  | some g =>
    have same : g.handle = f.handle := by simpa using List.find?_some found
    rw [List.inj_on_of_nodup_map distinct (List.mem_of_find?_eq_some found) hf same]

theorem listing_perm (order : List Federation) :
    (listing order).Perm (order.map Federation.summary) :=
  List.mergeSort_perm _ _

theorem listing_ascending (distinct : (order.map Federation.handle).Nodup) :
    (listing order).Pairwise (·.handle.value < ·.handle.value) := by
  have sorted : (listing order).Pairwise
      fun a b => decide (a.handle.value ≤ b.handle.value) = true := by
    apply List.pairwise_mergeSort
    · intro a b c first second
      have first := of_decide_eq_true first
      have second := of_decide_eq_true second
      exact decide_eq_true (UInt32.le_trans first second)
    · intro a b
      rw [Bool.or_eq_true, decide_eq_true_eq, decide_eq_true_eq]
      exact UInt32.le_total a.handle.value b.handle.value
  have apart : (listing order).Pairwise fun a b => a.handle ≠ b.handle := by
    rw [← List.pairwise_map]
    have handles := (listing_perm order).map FederationSummary.handle
    rw [List.map_map] at handles
    exact handles.nodup_iff.mpr distinct
  refine List.Pairwise.imp₂ ?_ sorted apart
  intro a b le ne
  refine UInt32.lt_of_le_of_ne (of_decide_eq_true le) fun same => ne ?_
  exact congrArg FederationHandle.mk same

theorem listing_eq (distinct : (r.federations.values.map Federation.handle).Nodup)
    (perm : order.Perm r.federations.values) : listing order = r.summaries := by
  have distinct' : (order.map Federation.handle).Nodup :=
    (perm.map Federation.handle).nodup_iff.mpr distinct
  refine List.Perm.eq_of_pairwise ?_ (listing_ascending distinct') (listing_ascending distinct) ?_
  · -- The order is strict, so of two entries only one can come first.
    intro a b _ _ below above
    exact absurd (UInt32.lt_trans below above) (UInt32.lt_irrefl _)
  · have summaries := perm.map Federation.summary
    exact ((listing_perm order).trans summaries).trans (listing_perm r.federations.values).symm

namespace Indexed

variable (hr : r.Indexed)
include hr

theorem keys_eq : r.federations.keys = r.federations.values.map Federation.name := by
  rw [values_eq_map_snd, List.map_map, ← ExtTreeMap.map_fst_toList_eq_keys]
  apply List.map_congr_left
  rintro ⟨name, f⟩ entry
  exact (hr.named name f (ExtTreeMap.mem_toList_iff_getElem?_eq_some.mp entry)).symm

theorem handles_nodup : (r.federations.values.map Federation.handle).Nodup := by
  have nodup : r.federations.toList.Nodup := by
    apply List.Nodup.of_map Prod.fst
    rw [ExtTreeMap.map_fst_toList_eq_keys]
    exact ExtTreeMap.nodup_keys
  rw [values_eq_map_snd, List.map_map]
  refine List.Nodup.map_on ?_ nodup
  rintro ⟨name₁, f₁⟩ entry₁ ⟨name₂, f₂⟩ entry₂ same
  have there₁ := ExtTreeMap.mem_toList_iff_getElem?_eq_some.mp entry₁
  have there₂ := ExtTreeMap.mem_toList_iff_getElem?_eq_some.mp entry₂
  obtain rfl := hr.distinct name₁ name₂ f₁ f₂ there₁ there₂ same
  cases there₁.symm.trans there₂
  rfl

theorem directory : r.Directory where
  keys := hr.keys_eq
  handles := hr.handles_nodup
  lookup := by
    intro f hf
    obtain ⟨name, there⟩ := mem_values_iff.mp hf
    rw [hr.named name f there]
    exact lookup_eq_ok_iff.mpr there
  lookupHandle := by
    intro f hf
    obtain ⟨name, there⟩ := mem_values_iff.mp hf
    exact hr.lookupHandle_eq_ok_iff.mpr ⟨name, there, rfl⟩
  searched := by
    intro order perm f hf
    exact find?_handle ((perm.map Federation.handle).nodup_iff.mpr hr.handles_nodup) hf
  listed := listing_perm r.federations.values
  counted := fun f _ => f.federateCount_summary
  ascending := listing_ascending hr.handles_nodup
  collected := fun order perm => listing_eq hr.handles_nodup perm

end Indexed

theorem Filed.step (filed : r.Filed) (st : r.Step r') : r'.Filed := by
  cases st with
  | kept => exact filed
  | created name schema version f r' ok => exact filed.create ok
  | destroyed name r' ok => exact filed.destroy ok
  | changed name f g found same => exact filed.put g

theorem Filed.destroy_eq (filed : r.Filed) (name : String) :
    r.destroy name = match r.federations[name]? with
      | none => (.error (.federationDoesNotExist name), r)
      | some f =>
        if f.federates = ∅ then (.ok (), { r with federations := r.federations.erase name })
        else (.error (.federatesCurrentlyJoined name), r) := by
  unfold Registry.destroy Registry.lookup Federation.retire Federation.isOccupied
  cases there : r.federations[name]? with
  | none => rfl
  | some f =>
    have kept := filed.put_self there
    rw [← filed name f there]
    by_cases empty : f.federates = ∅
    · simp [empty]
    · have occupied : f.federates.isEmpty = false := by
        rw [Bool.eq_false_iff]
        exact mt ExtTreeMap.isEmpty_iff.mp empty
      simp [empty, occupied, kept]

end Registry

def MessageContext.created? (c : MessageContext) : Option FederationHandle :=
  match c.response with
  | .success (.federationCreated h) => some h
  | _ => none

namespace Authority

variable {r : Registry} {a : Arrival} {name : String} {schema : SchemaRef} {version : HlaVersion}

theorem receive_create (asked : a.message.request = .createFederation name schema version)
    (named : name ≠ "") :
    receive r a = match r.create name schema version with
      | (.ok f, r') => ⟨⟨a.message, .success (.federationCreated f.handle)⟩, r', []⟩
      | (.error e, r') => ⟨⟨a.message, .failure e⟩, r', []⟩ := by
  obtain ⟨clock, ⟨request, source, target, origin⟩⟩ := a
  cases asked
  rw [receive, receiveControl_of_global rfl rfl]
  simp only [createFederation, named, if_false]
  obtain ⟨_ | _, r'⟩ := r.create name schema version <;> rfl

theorem receive_unnamed (asked : a.message.request = .createFederation "" schema version) :
    receive r a = ⟨⟨a.message, .failure (.internal .emptyFederationName)⟩, r, []⟩ := by
  obtain ⟨clock, ⟨request, source, target, origin⟩⟩ := a
  cases asked
  rw [receive, receiveControl_of_global rfl rfl]
  rfl

theorem receive_destroy (asked : a.message.request = .destroyFederation name) :
    receive r a = match r.destroy name with
      | (.ok (), r') => ⟨⟨a.message, .success .empty⟩, r', []⟩
      | (.error e, r') => ⟨⟨a.message, .failure e⟩, r', []⟩ := by
  obtain ⟨clock, ⟨request, source, target, origin⟩⟩ := a
  cases asked
  rw [receive, receiveControl_of_global rfl rfl]
  simp only [destroyFederation]
  obtain ⟨_ | _, r'⟩ := r.destroy name <;> rfl

theorem receive_list (asked : a.message.request = .listFederations) :
    receive r a = ⟨⟨a.message, .success (.federations r.summaries)⟩, r, []⟩ := by
  obtain ⟨clock, ⟨request, source, target, origin⟩⟩ := a
  cases asked
  rw [receive, receiveControl_of_global rfl rfl]
  rfl

theorem receive_created? (filed : r.Filed) (a : Arrival) :
    (receive r a).context.created? = none ∧ r.issues (receive r a).registry = 0 ∨
      (receive r a).context.created? = some ⟨r.counter.issued + 1⟩ ∧
        r.issues (receive r a).registry = 1 := by
  have settled := receiveControl_settled filed a.clock a.message
  unfold receive
  generalize receiveControl a.clock r ⟨a.message, .pending⟩ = receipt at settled ⊢
  cases settled with
  | refused e cause => exact Or.inl ⟨rfl, r.issues_self⟩
  | done payload r' outbox answered =>
    cases answered with
    | listed | pong => exact Or.inl ⟨rfl, r.issues_self⟩
    | created name schema version f r' asked ok =>
      have issued := Registry.issues_create ok
      obtain ⟨-, rfl, -⟩ := Registry.create_eq_ok_iff.mp ok
      exact Or.inr ⟨rfl, issued⟩
    | destroyed name r' asked ok => exact Or.inl ⟨rfl, Registry.issues_destroy ok⟩
    | joined federation federate f g => exact Or.inl ⟨rfl, r.issues_put g⟩
    | resigned federation h f => exact Or.inl ⟨rfl, r.issues_put _⟩
    | synced h target f sync => exact Or.inl ⟨rfl, r.issues_put _⟩

def issued (r : Registry) (run : List Arrival) : List FederationHandle :=
  (answers r run).filterMap MessageContext.created?

theorem issued_cons (r : Registry) (a : Arrival) (earlier : List Arrival) :
    issued r (a :: earlier) =
      (receive (after r earlier) a).context.created?.toList ++ issued r earlier := by
  unfold issued
  rw [answers, List.filterMap_cons]
  cases (receive (after r earlier) a).context.created? <;> rfl

theorem after_filed (filed : r.Filed) (run : List Arrival) : (after r run).Filed := by
  induction run with
  | nil => exact filed
  | cons a earlier ih => exact ih.step (receive_step ih a)

theorem length_issued (filed : r.Filed) (run : List Arrival) :
    (issued r run).length = creations r run := by
  induction run with
  | nil => rfl
  | cons a earlier ih =>
    rw [issued_cons, creations, List.length_append, ih, Nat.add_comm]
    congr 1
    rcases receive_created? (after_filed filed earlier) a with ⟨carried, count⟩ | ⟨carried, count⟩
    · rw [carried]
      exact count.symm
    · rw [carried]
      exact count.symm

theorem issued_suffix {earlier run : List Arrival} (past : earlier <:+ run) :
    issued r earlier <:+ issued r run := by
  obtain ⟨later, rfl⟩ := past
  induction later with
  | nil => exact List.suffix_refl _
  | cons a later ih =>
    rw [List.cons_append, issued_cons]
    exact ih.trans (List.suffix_append _ _)

/-- What becomes of a request to create a federation, when so many handles are out. -/
structure Creation (r : Registry) (out : List FederationHandle) (receipt : Receipt) (name : String)
    (schema : SchemaRef) (version : HlaVersion) : Prop where
  accepted : (∃ h, receipt.context.created? = some h) ↔ name ∉ r.federations
  refused : receipt.context.response = .failure (.federationAlreadyExists name) ↔
    name ∈ r.federations
  fresh : ∀ h, receipt.context.created? = some h →
    h.value.toNat = out.length + 1 ∧ ∀ earlier ∈ out, earlier.value < h.value
  added : ∀ h, receipt.context.created? = some h →
    receipt.registry.federations =
      r.federations.insert name { name, handle := h, schema, version, policy := r.policy }
  /-- A name that is taken costs no handle. -/
  kept : receipt.context.created? = none → receipt.registry = r

structure Destruction (r : Registry) (receipt : Receipt) (name : String) : Prop where
  accepted : receipt.context.response = .success .empty ↔
    ∃ f, r.lookup name = .ok f ∧ f.federates = ∅
  absent : receipt.context.response = .failure (.federationDoesNotExist name) ↔
    name ∉ r.federations
  occupied : receipt.context.response = .failure (.federatesCurrentlyJoined name) ↔
    ∃ f, r.lookup name = .ok f ∧ f.federates ≠ ∅
  removed : receipt.context.response = .success .empty →
    receipt.registry = { r with federations := r.federations.erase name }
  kept : receipt.context.response ≠ .success .empty → receipt.registry = r

theorem receive_creation {out : List FederationHandle}
    (asked : a.message.request = .createFederation name schema version) (named : name ≠ "")
    (counted : Numbered (out.map FederationHandle.value))
    (level : r.counter.issued.toNat = out.length)
    (few : (receive r a).context.created?.toList.length + out.length < 2 ^ 32) :
    Creation r out (receive r a) name schema version := by
  rw [receive_create asked named] at few ⊢
  by_cases taken : name ∈ r.federations
  · have failed : r.create name schema version = (.error (.federationAlreadyExists name), r) := by
      rw [Registry.create, if_pos (ExtTreeMap.contains_iff_mem.mpr taken)]
    rw [failed]
    refine ⟨?_, ?_, nofun, nofun, fun _ => rfl⟩
    · simp [taken, MessageContext.created?]
    · simp [taken]
  · rcases created : r.create name schema version with ⟨e | f, r'⟩
    · rw [Registry.create, if_neg (mt ExtTreeMap.contains_iff_mem.mp taken)] at created
      cases created
    · obtain ⟨-, rfl, rfl⟩ := Registry.create_eq_ok_iff.mp created
      rw [created] at few
      have room : 1 + out.length < 2 ^ 32 := few
      rw [← level, Nat.add_comm] at room
      have next := toNat_succ_of_lt room
      rw [level] at next
      refine ⟨?_, ?_, ?_, ?_, nofun⟩
      · simp [taken, MessageContext.created?]
      · simp [taken]
      · intro h carried
        cases carried
        refine ⟨next, fun earlier he => ?_⟩
        have bound := counted.le_length (List.mem_map.mpr ⟨earlier, he, rfl⟩)
        rw [List.length_map] at bound
        rw [UInt32.lt_iff_toNat_lt, next]
        omega
      · intro h carried
        cases carried
        rfl

theorem receive_destruction (filed : r.Filed)
    (asked : a.message.request = .destroyFederation name) :
    Destruction r (receive r a) name := by
  rw [receive_destroy asked, filed.destroy_eq]
  have member : name ∈ r.federations ↔ r.federations[name]?.isSome = true :=
    ExtTreeMap.isSome_getElem?_iff_mem.symm
  cases there : r.federations[name]? with
  | none =>
    have lost : ∀ f, r.lookup name ≠ .ok f := by
      intro f found
      rw [Registry.lookup_eq_ok_iff, there] at found
      cases found
    refine ⟨?_, ?_, ?_, nofun, fun _ => rfl⟩
    · simp [lost]
    · simp [member, there]
    · simp [lost]
  | some f =>
    have found : r.lookup name = .ok f := Registry.lookup_eq_ok_iff.mpr there
    by_cases empty : f.federates = ∅
    · simp only [if_pos empty]
      refine ⟨?_, ?_, ?_, fun _ => rfl, fun failed => absurd rfl failed⟩
      · simp [found, empty]
      · simp [member, there]
      · simp [found, empty]
    · simp only [if_neg empty]
      refine ⟨?_, ?_, ?_, nofun, fun _ => rfl⟩
      · simp [found, empty]
      · simp [member, there]
      · simp [found, empty]

structure Coherence (policy : ResignPolicy) (run : List Arrival) : Prop where
  directory : ∀ earlier, earlier <:+ run → (after { policy } earlier).Directory
  listings : ∀ later a earlier, run = later ++ a :: earlier →
    a.message.request = .listFederations →
    (receive (after { policy } earlier) a).context.response =
      .success (.federations (after { policy } earlier).summaries)
  numbered : Numbered ((issued { policy } run).map FederationHandle.value)
  creations : ∀ later a earlier name schema version, run = later ++ a :: earlier →
    a.message.request = .createFederation name schema version → name ≠ "" →
    Creation (after { policy } earlier) (issued { policy } earlier)
      (receive (after { policy } earlier) a) name schema version
  unnamed : ∀ later a earlier schema version, run = later ++ a :: earlier →
    a.message.request = .createFederation "" schema version →
    (receive (after { policy } earlier) a).context.created? = none ∧
      after { policy } (a :: earlier) = after { policy } earlier
  destructions : ∀ later a earlier name, run = later ++ a :: earlier →
    a.message.request = .destroyFederation name →
    Destruction (after { policy } earlier) (receive (after { policy } earlier) a) name

section Opened

variable {policy : ResignPolicy} {run earlier : List Arrival}

theorem opened_indexed (policy : ResignPolicy) : ({ policy } : Registry).Indexed :=
  ⟨by simp, by simp, by simp⟩

theorem opened_level (few : (issued { policy } run).length < 2 ^ 32) :
    (after { policy } run).Indexed ∧
      (after { policy } run).counter.issued.toNat = (issued { policy } run).length := by
  have opened := opened_indexed policy
  rw [length_issued opened.named] at few ⊢
  have level : ({ policy } : Registry).counter.issued.toNat = 0 := rfl
  obtain ⟨indexed, counted⟩ := after_indexed opened run (by omega)
  exact ⟨indexed, by omega⟩

theorem few_before (few : (issued { policy } run).length < 2 ^ 32) (past : earlier <:+ run) :
    (issued { policy } earlier).length < 2 ^ 32 :=
  Nat.lt_of_le_of_lt (issued_suffix past).length_le few

theorem issued_numbered (few : (issued { policy } run).length < 2 ^ 32) :
    Numbered ((issued { policy } run).map FederationHandle.value) := by
  induction run with
  | nil => rfl
  | cons a earlier ih =>
    have before := few_before few (List.suffix_cons a earlier)
    obtain ⟨indexed, level⟩ := opened_level before
    rw [issued_cons] at few ⊢
    rcases receive_created? indexed.named a with ⟨carried, -⟩ | ⟨carried, -⟩
    · rw [carried]
      exact ih before
    · rw [carried] at few ⊢
      refine (ih before).cons ?_
      rw [Option.toList_some, List.length_append, List.length_singleton, Nat.add_comm,
        ← level] at few
      rw [List.length_map, ← level]
      exact toNat_succ_of_lt few

end Opened

def recreation : List Arrival :=
  [⟨some 9, { request := .listFederations }⟩,
    ⟨some 8, { request := .createFederation "alpha" ⟨[]⟩ .hla13 }⟩,
    ⟨some 7, { request := .destroyFederation "alpha" }⟩,
    ⟨some 6, { request := .resignFederation "alpha" ⟨1⟩ }⟩,
    ⟨some 5, { request := .createFederation "beta" ⟨[]⟩ .ieee1516 }⟩,
    ⟨some 4, { request := .destroyFederation "alpha" }⟩,
    ⟨some 3, { request := .createFederation "alpha" ⟨["base"]⟩ .ieee1516e }⟩,
    ⟨some 2, { request := .joinFederation "alpha" "red", origin := some ⟨1⟩ }⟩,
    ⟨some 1, { request := .createFederation "alpha" ⟨[]⟩ .ieee1516e }⟩]

end Authority

end HlaCoordination
