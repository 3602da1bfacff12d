import HlaCoordination.Federation.Registry
import HlaCoordination.Proofs.OrderedTables

/-! What the operations of a registry do, and that they keep it coherent: as long as the counters
do not come round, a name, a handle and a federate's handle each find one thing. -/
namespace HlaCoordination

open Std

/-- Federates are kept under their handles, and none of these is still to be issued. -/
def Federation.Coherent (f : Federation) : Prop :=
  ∀ (h : FederateHandle) (e : Federate), f.federates[h]? = some e →
    e.handle = h ∧ h.value.toNat ≤ f.counter.issued.toNat

namespace Registry

variable {r r' : Registry} {f g : Federation} {name : String}

/-- Federations are kept under their names and found by their handles, and none of these handles
is still to be issued. -/
structure Coherent (r : Registry) : Prop where
  named : ∀ (name : String) (f : Federation), r.federations[name]? = some f → f.name = name
  distinct : ∀ (name₁ name₂ : String) (f₁ f₂ : Federation), r.federations[name₁]? = some f₁ →
    r.federations[name₂]? = some f₂ → f₁.handle = f₂.handle → name₁ = name₂
  issued : ∀ (name : String) (f : Federation), r.federations[name]? = some f →
    f.handle.value.toNat ≤ r.counter.issued.toNat
  federates : ∀ (name : String) (f : Federation), r.federations[name]? = some f → f.Coherent

/-- What of this does not depend on federates. -/
structure Indexed (r : Registry) : Prop where
  named : ∀ (name : String) (f : Federation), r.federations[name]? = some f → f.name = name
  distinct : ∀ (name₁ name₂ : String) (f₁ f₂ : Federation), r.federations[name₁]? = some f₁ →
    r.federations[name₂]? = some f₂ → f₁.handle = f₂.handle → name₁ = name₂
  issued : ∀ (name : String) (f : Federation), r.federations[name]? = some f →
    f.handle.value.toNat ≤ r.counter.issued.toNat

def Filed (r : Registry) : Prop :=
  ∀ (name : String) (f : Federation), r.federations[name]? = some f → f.name = name

theorem lookup_eq_ok_iff : r.lookup name = .ok f ↔ r.federations[name]? = some f := by
  unfold lookup
  cases r.federations[name]? <;> simp

theorem lookup_error {e : RtiError} (failed : r.lookup name = .error e) :
    e = .federationDoesNotExist name := by
  unfold lookup at failed
  split at failed
  · cases failed
  · exact (Except.error.inj failed).symm

theorem create_error {schema : SchemaRef} {version : HlaVersion} {e : RtiError}
    (failed : r.create name schema version = (.error e, r')) :
    r' = r ∧ e = .federationAlreadyExists name := by
  unfold create at failed
  split at failed
  · cases failed
    exact ⟨rfl, rfl⟩
  · cases failed

theorem create_eq_ok_iff {schema : SchemaRef} {version : HlaVersion} :
    r.create name schema version = (.ok f, r') ↔ name ∉ r.federations ∧
      f = { name, handle := ⟨r.counter.issued + 1⟩, schema, version, policy := r.policy } ∧
      r' = { r with
        counter := ⟨r.counter.issued + 1⟩
        federations := r.federations.insert name f } := by
  unfold create
  by_cases hn : name ∈ r.federations
  · simp [hn]
  · simp only [ExtTreeMap.contains_iff_mem, hn, if_false, HandleCounter.next, Except.ok.injEq,
      Prod.mk.injEq, not_false_eq_true, true_and]
    constructor
    · rintro ⟨rfl, rfl⟩
      exact ⟨rfl, rfl⟩
    · rintro ⟨rfl, rfl⟩
      exact ⟨rfl, rfl⟩

theorem destroy_eq_ok_iff : r.destroy name = (.ok (), r') ↔
    ∃ f, r.federations[name]? = some f ∧ f.isOccupied = false ∧
      r' = { r with federations := r.federations.erase name } := by
  unfold destroy lookup Federation.retire
  cases hf : r.federations[name]? with
  | none => simp
  | some f =>
    by_cases ho : f.isOccupied = true
    · simp [ho]
    · simp only [ho, Prod.mk.injEq, Option.some.injEq, exists_eq_left', true_and, if_false,
        Bool.false_eq_true]
      exact eq_comm

theorem getElem?_of_destroy {k : String} (ok : r.destroy name = (.ok (), r'))
    (hg : r'.federations[k]? = some g) : r.federations[k]? = some g := by
  obtain ⟨f, -, -, rfl⟩ := destroy_eq_ok_iff.mp ok
  exact (getElem?_erase_eq_some_iff.mp hg).2

theorem counter_destroy (ok : r.destroy name = (.ok (), r')) : r'.counter = r.counter := by
  obtain ⟨f, -, -, rfl⟩ := destroy_eq_ok_iff.mp ok
  rfl

theorem getElem?_put (r : Registry) (f : Federation) (name : String) :
    (r.put f).federations[name]? = if f.name = name then some f else r.federations[name]? := by
  simp only [put, getElem?_insert_eq_ite]

theorem restore_resyncs (r : Registry) (name : String) (s : Snapshot) :
    (r.restore name s).2 = r ∨ ∃ (f : Federation) (sync : SyncTable),
      r.federations[name]? = some f ∧ (r.restore name s).2 = r.put { f with sync } := by
  unfold restore withFederation
  cases found : r.lookup name with
  | error e => exact Or.inl rfl
  | ok f => exact Or.inr ⟨f, (f.sync.tryRestore s).2, lookup_eq_ok_iff.mp found, rfl⟩

theorem finishRestore_resyncs (r : Registry) (name : String) :
    (r.finishRestore name).2 = r ∨ ∃ (f : Federation) (sync : SyncTable),
      r.federations[name]? = some f ∧ (r.finishRestore name).2 = r.put { f with sync } := by
  unfold finishRestore withFederation
  cases found : r.lookup name with
  | error e => exact Or.inl rfl
  | ok f => exact Or.inr ⟨f, f.sync.finishRestore, lookup_eq_ok_iff.mp found, rfl⟩

theorem lookupHandle_found {h : FederationHandle} (ok : r.lookupHandle h = .ok f) :
    ∃ name : String, r.federations[name]? = some f ∧ f.handle = h := by
  unfold lookupHandle at ok
  split at ok
  · rename_i found
    cases ok
    obtain ⟨name, hn⟩ := mem_values_iff.mp (List.mem_of_find?_eq_some found)
    exact ⟨name, hn, by simpa using List.find?_some found⟩
  · cases ok

theorem Filed.create {schema : SchemaRef} {version : HlaVersion} (filed : r.Filed)
    (ok : r.create name schema version = (.ok f, r')) : r'.Filed := by
  obtain ⟨-, rfl, rfl⟩ := create_eq_ok_iff.mp ok
  intro k g hg
  rcases getElem?_insert_eq_some_iff.mp hg with ⟨rfl, rfl⟩ | ⟨-, hg⟩
  · rfl
  · exact filed k g hg

theorem Filed.destroy (filed : r.Filed) (ok : r.destroy name = (.ok (), r')) : r'.Filed :=
  fun k g hg => filed k g (getElem?_of_destroy ok hg)

theorem Filed.put (filed : r.Filed) (f : Federation) : (r.put f).Filed := by
  intro k g hg
  rw [getElem?_put] at hg
  split at hg
  · cases hg
    assumption
  · exact filed k g hg

theorem Filed.put_self (filed : r.Filed) (hf : r.federations[name]? = some f) : r.put f = r := by
  have named := filed name f hf
  subst named
  rw [Registry.put, insert_eq_self hf]

theorem Filed.destroy_error {e : RtiError} (filed : r.Filed)
    (failed : r.destroy name = (.error e, r')) :
    r' = r ∧ (e = .federationDoesNotExist name ∨ e = .federatesCurrentlyJoined name) := by
  unfold Registry.destroy at failed
  cases found : r.lookup name with
  | error e' =>
    simp only [found, Prod.mk.injEq, Except.error.injEq] at failed
    obtain ⟨rfl, rfl⟩ := failed
    exact ⟨rfl, Or.inl (lookup_error found)⟩
  | ok f =>
    have hf := lookup_eq_ok_iff.mp found
    have named := filed name f hf
    cases occupied : f.isOccupied with
    | true =>
      simp only [found, Federation.retire, occupied, if_true, Prod.mk.injEq, Except.error.injEq,
        named] at failed
      obtain ⟨rfl, rfl⟩ := failed
      exact ⟨filed.put_self hf, Or.inr rfl⟩
    | false => simp [found, Federation.retire, occupied] at failed

namespace Indexed

variable {schema : SchemaRef} {version : HlaVersion} (hr : r.Indexed)
include hr

theorem lookupHandle_eq_ok_iff {h : FederationHandle} :
    r.lookupHandle h = .ok f ↔ ∃ name : String, r.federations[name]? = some f ∧ f.handle = h := by
  constructor
  · exact lookupHandle_found
  · rintro ⟨name, hn, rfl⟩
    have some_found : (r.federations.values.find? fun g => g.handle == f.handle).isSome :=
      List.find?_isSome.mpr ⟨f, mem_values_iff.mpr ⟨name, hn⟩, by simp⟩
    obtain ⟨g, hg⟩ := Option.isSome_iff_exists.mp some_found
    obtain ⟨name', hn'⟩ := mem_values_iff.mp (List.mem_of_find?_eq_some hg)
    have same : g.handle = f.handle := by simpa using List.find?_some hg
    cases hr.distinct _ _ _ _ hn' hn same
    cases hn.symm.trans hn'
    rw [lookupHandle, hg]

theorem insert {counter : HandleCounter} (named : f.name = name)
    (alone : ∀ (k : String) (g : Federation), k ≠ name → r.federations[k]? = some g →
      g.handle ≠ f.handle)
    (up : r.counter.issued.toNat ≤ counter.issued.toNat)
    (issued : f.handle.value.toNat ≤ counter.issued.toNat) :
    Indexed { r with counter, federations := r.federations.insert name f } where
  named := by
    intro k g hg
    rcases getElem?_insert_eq_some_iff.mp hg with ⟨rfl, rfl⟩ | ⟨-, hg⟩
    · exact named
    · exact hr.named k g hg
  distinct := by
    intro k₁ k₂ g₁ g₂ h₁ h₂ same
    rcases getElem?_insert_eq_some_iff.mp h₁, getElem?_insert_eq_some_iff.mp h₂ with
      ⟨⟨rfl, rfl⟩ | ⟨hk₁, old₁⟩, ⟨rfl, rfl⟩ | ⟨hk₂, old₂⟩⟩
    · rfl
    · exact absurd same.symm (alone k₂ g₂ (Ne.symm hk₂) old₂)
    · exact absurd same (alone k₁ g₁ (Ne.symm hk₁) old₁)
    · exact hr.distinct k₁ k₂ g₁ g₂ old₁ old₂ same
  issued := by
    intro k g hg
    rcases getElem?_insert_eq_some_iff.mp hg with ⟨-, rfl⟩ | ⟨-, hg⟩
    · exact issued
    · exact Nat.le_trans (hr.issued k g hg) up

theorem create (ok : r.create name schema version = (.ok f, r'))
    (few : r.counter.issued.toNat + 1 < 2 ^ 32) :
    r'.Indexed ∧ r'.counter.issued.toNat = r.counter.issued.toNat + 1 := by
  obtain ⟨-, rfl, rfl⟩ := create_eq_ok_iff.mp ok
  have next := toNat_succ_of_lt few
  refine ⟨hr.insert rfl (fun k g _ hg same => ?_) ?_ ?_, next⟩
  · have := hr.issued k g hg
    rw [same, next] at this
    omega
  · rw [next]
    omega
  · exact Nat.le_refl _

theorem destroy (ok : r.destroy name = (.ok (), r')) : r'.Indexed where
  named := fun k g hg => hr.named k g (getElem?_of_destroy ok hg)
  distinct := fun k₁ k₂ g₁ g₂ h₁ h₂ =>
    hr.distinct k₁ k₂ g₁ g₂ (getElem?_of_destroy ok h₁) (getElem?_of_destroy ok h₂)
  issued := fun k g hg => counter_destroy ok ▸ hr.issued k g (getElem?_of_destroy ok hg)

theorem put (hf : r.federations[name]? = some f) (same_name : g.name = f.name)
    (same_handle : g.handle = f.handle) : (r.put g).Indexed := by
  have named : g.name = name := same_name.trans (hr.named name f hf)
  rw [Registry.put, named]
  refine hr.insert named (fun k g' hk hg' same => ?_) (Nat.le_refl _) ?_
  · exact hk (hr.distinct k name g' f hg' hf (same.trans same_handle))
  · rw [same_handle]
    exact hr.issued name f hf

theorem coherent
    (federates : ∀ (name : String) (f : Federation), r.federations[name]? = some f → f.Coherent) :
    r.Coherent :=
  ⟨hr.named, hr.distinct, hr.issued, federates⟩

end Indexed

namespace Coherent

variable {schema : SchemaRef} {version : HlaVersion} (hr : r.Coherent)
include hr

theorem indexed : r.Indexed := ⟨hr.named, hr.distinct, hr.issued⟩

theorem lookupHandle_eq_ok_iff {h : FederationHandle} :
    r.lookupHandle h = .ok f ↔ ∃ name : String, r.federations[name]? = some f ∧ f.handle = h :=
  hr.indexed.lookupHandle_eq_ok_iff

theorem put_self (hf : r.federations[name]? = some f) : r.put f = r :=
  Filed.put_self hr.named hf

theorem create (ok : r.create name schema version = (.ok f, r'))
    (few : r.counter.issued.toNat + 1 < 2 ^ 32) : r'.Coherent := by
  refine (hr.indexed.create ok few).1.coherent ?_
  obtain ⟨-, rfl, rfl⟩ := create_eq_ok_iff.mp ok
  intro k g hg
  rcases getElem?_insert_eq_some_iff.mp hg with ⟨-, rfl⟩ | ⟨-, hg⟩
  · intro h e he
    simp at he
  · exact hr.federates k g hg

theorem destroy (ok : r.destroy name = (.ok (), r')) : r'.Coherent :=
  (hr.indexed.destroy ok).coherent fun k g hg => hr.federates k g (getElem?_of_destroy ok hg)

theorem put (hf : r.federations[name]? = some f) (same_name : g.name = f.name)
    (same_handle : g.handle = f.handle) (hg : g.Coherent) : (r.put g).Coherent := by
  refine (hr.indexed.put hf same_name same_handle).coherent ?_
  intro k g' hg'
  rw [getElem?_put] at hg'
  split at hg'
  · cases hg'
    exact hg
  · exact hr.federates k g' hg'

end Coherent

end Registry

end HlaCoordination
