import HlaCoordination.Proofs.Network.Calls

/-! Who sits where in a registry. A seat is what a membership names, taken by a session; an
operation takes a new seat, leaves its own, or touches none. -/
namespace HlaCoordination

open Std

variable {r r' : Registry} {f g : Federation} {name : String} {m : Membership}

namespace Registry

/-- The federation of the membership's name has its handle, and the federate in it. -/
def Seats (r : Registry) (m : Membership) (session : Option SessionId) : Prop :=
  ∃ f : Federation, r.federations[m.federationName]? = some f ∧ f.handle = m.federation ∧
    f.federates[m.federate]? = some ⟨m.federateName, m.federate, session⟩

def Issued (r : Registry) (m : Membership) : Prop :=
  m.federation.value.toNat ≤ r.counter.issued.toNat ∧
    ∀ (name : String) (f : Federation), r.federations[name]? = some f →
      f.handle = m.federation → m.federate.value.toNat ≤ f.counter.issued.toNat

structure Counted (r : Registry) (creates joins : Nat) : Prop where
  coherent : r.Coherent
  creates : r.counter.issued.toNat = creates
  joins : ∀ (name : String) (f : Federation), r.federations[name]? = some f →
    f.counter.issued.toNat ≤ joins

theorem Issued.congr {m' : Membership} (hm : r.Issued m) (federation : m.federation = m'.federation)
    (federate : m.federate = m'.federate) : r.Issued m' := by
  unfold Issued at hm ⊢
  rwa [← federation, ← federate]

theorem Seats.issued {session : Option SessionId} (hr : r.Coherent) (hm : r.Seats m session) :
    r.Issued m := by
  obtain ⟨f, hf, same, he⟩ := hm
  refine ⟨same ▸ hr.issued _ f hf, ?_⟩
  intro k g hg same'
  cases hr.distinct _ _ _ _ hf hg (same.trans same'.symm)
  cases hf.symm.trans hg
  exact (hr.federates _ f hf _ _ he).2

section Put

variable (hr : r.Coherent) (hf : r.federations[name]? = some f) (same_name : g.name = f.name)
  (same_handle : g.handle = f.handle)
include hr hf same_name

theorem getElem?_put_of_found (k : String) :
    (r.put g).federations[k]? = if name = k then some g else r.federations[k]? := by
  rw [getElem?_put, same_name, hr.named name f hf]

theorem seats_put_self {session : Option SessionId} (hm : m.federationName = name) :
    (r.put g).Seats m session ↔ g.handle = m.federation ∧
      g.federates[m.federate]? = some ⟨m.federateName, m.federate, session⟩ := by
  unfold Seats
  rw [getElem?_put_of_found hr hf same_name, if_pos hm.symm]
  simp

theorem seats_put_other {session : Option SessionId} (hm : m.federationName ≠ name) :
    (r.put g).Seats m session ↔ r.Seats m session := by
  unfold Seats
  rw [getElem?_put_of_found hr hf same_name, if_neg (Ne.symm hm)]

include same_handle

theorem Issued.put (up : f.counter.issued.toNat ≤ g.counter.issued.toNat) (hm : r.Issued m) :
    (r.put g).Issued m := by
  refine ⟨hm.1, ?_⟩
  intro k g' hg same
  rw [getElem?_put_of_found hr hf same_name] at hg
  split at hg
  · cases hg
    exact Nat.le_trans (hm.2 name f hf (same_handle.symm.trans same)) up
  · exact hm.2 k g' hg same

theorem Counted.put {creates joins joins' : Nat} (hc : r.Counted creates joins)
    (hg : g.Coherent) (up : joins ≤ joins') (few : g.counter.issued.toNat ≤ joins') :
    (r.put g).Counted creates joins' where
  coherent := hr.put hf same_name same_handle hg
  creates := hc.creates
  joins := by
    intro k g' hg'
    rw [getElem?_put_of_found hr hf same_name] at hg'
    split at hg'
    · cases hg'
      exact few
    · exact Nat.le_trans (hc.joins k g' hg') up

end Put

theorem seats_iff_of_found {session : Option SessionId} (hf : r.federations[name]? = some f)
    (hm : m.federationName = name) :
    r.Seats m session ↔ f.handle = m.federation ∧
      f.federates[m.federate]? = some ⟨m.federateName, m.federate, session⟩ := by
  unfold Seats
  rw [hm, hf]
  simp

/-! A federation that gets another point table. -/
section Resync

variable (hf : r.federations[name]? = some f) (sync : SyncTable)
include hf

theorem seats_resynced (hr : r.Coherent) {session : Option SessionId} :
    (r.put { f with sync }).Seats m session ↔ r.Seats m session := by
  by_cases hm : m.federationName = name
  · rw [seats_put_self (g := { f with sync }) hr hf rfl hm, seats_iff_of_found hf hm]
  · exact seats_put_other (g := { f with sync }) hr hf rfl hm

theorem Counted.resynced {creates joins : Nat} (hc : r.Counted creates joins) :
    (r.put { f with sync }).Counted creates joins :=
  hc.put (g := { f with sync }) hc.coherent hf rfl rfl (hc.coherent.federates _ f hf)
    (Nat.le_refl _) (hc.joins _ f hf)

theorem Issued.resynced (hr : r.Coherent) (hm : r.Issued m) :
    (r.put { f with sync }).Issued m :=
  hm.put (g := { f with sync }) hr hf rfl rfl (Nat.le_refl _)

end Resync

section Create

variable {schema : SchemaRef} {version : HlaVersion}
  (ok : r.create name schema version = (.ok f, r'))
include ok

theorem seats_create {session : Option SessionId} : r'.Seats m session ↔ r.Seats m session := by
  obtain ⟨free, rfl, rfl⟩ := create_eq_ok_iff.mp ok
  have absent : r.federations[name]? = none := ExtTreeMap.getElem?_eq_none free
  unfold Seats
  by_cases hm : name = m.federationName
  · subst hm
    simp [absent]
  · simp only [getElem?_insert_eq_ite, hm, if_false]

theorem counted_create {creates joins : Nat} (hc : r.Counted creates joins)
    (few : creates + 1 < 2 ^ 32) : r'.Counted (creates + 1) joins := by
  have few' : r.counter.issued.toNat + 1 < 2 ^ 32 := by
    rw [hc.creates]
    exact few
  have next := (hc.coherent.indexed.create ok few').2
  refine ⟨hc.coherent.create ok few', by rw [next, hc.creates], ?_⟩
  obtain ⟨-, rfl, rfl⟩ := create_eq_ok_iff.mp ok
  intro k g hg
  rcases getElem?_insert_eq_some_iff.mp hg with ⟨-, rfl⟩ | ⟨-, hg⟩
  · exact Nat.zero_le _
  · exact hc.joins k g hg

theorem issued_create {creates joins : Nat} (hc : r.Counted creates joins)
    (few : creates + 1 < 2 ^ 32) (hm : r.Issued m) : r'.Issued m := by
  have next : r'.counter.issued.toNat = r.counter.issued.toNat + 1 :=
    (hc.coherent.indexed.create ok (by rw [hc.creates]; exact few)).2
  obtain ⟨-, rfl, rfl⟩ := create_eq_ok_iff.mp ok
  refine ⟨Nat.le_trans hm.1 (by rw [next]; omega), ?_⟩
  intro k g hg same
  rcases getElem?_insert_eq_some_iff.mp hg with ⟨-, rfl⟩ | ⟨-, hg⟩
  · have := hm.1
    rw [← same, next] at this
    omega
  · exact hm.2 k g hg same

end Create

section Destroy

variable (ok : r.destroy name = (.ok (), r'))
include ok

theorem seats_destroy {session : Option SessionId} : r'.Seats m session ↔ r.Seats m session := by
  obtain ⟨f, hf, empty, rfl⟩ := destroy_eq_ok_iff.mp ok
  have nobody (h : FederateHandle) : f.federates[h]? = none := by
    have : f.federates = ∅ := by simpa [Federation.isOccupied] using empty
    simp [this]
  unfold Seats
  by_cases hm : name = m.federationName
  · subst hm
    simp [hf, nobody]
  · simp only [getElem?_erase_eq_ite, hm, if_false]

theorem counted_destroy {creates joins : Nat} (hc : r.Counted creates joins) :
    r'.Counted creates joins where
  coherent := hc.coherent.destroy ok
  creates := by rw [counter_destroy ok, hc.creates]
  joins := fun k g hg => hc.joins k g (getElem?_of_destroy ok hg)

theorem issued_destroy (hm : r.Issued m) : r'.Issued m :=
  ⟨counter_destroy ok ▸ hm.1, fun k g hg => hm.2 k g (getElem?_of_destroy ok hg)⟩

end Destroy

end Registry

namespace Network

open Registry

/-- What an operation does to the seats, as far as the one who asks for it is concerned. -/
inductive Shift (r r' : Registry) (link : SessionLink) :
    Option Membership → Option Membership → Prop where
  | kept (membership : Option Membership) (same : ∀ m s, r'.Seats m s ↔ r.Seats m s) :
      Shift r r' link membership membership
  | taken (m : Membership) (id : SessionId) (connected : link.session = some id)
      (new : ¬ r.Issued m) (issued : r'.Issued m)
      (seats : ∀ m' s, r'.Seats m' s ↔ r.Seats m' s ∨ m' = m ∧ s = some id) :
      Shift r r' link none (some m)
  | left (m : Membership) (seats : ∀ m' s, r'.Seats m' s ↔ r.Seats m' s ∧ m' ≠ m) :
      Shift r r' link (some m) none

variable {link : SessionLink} {membership membership' : Option Membership} {op : Operation}
  {reply : Except RtiError Reply}

theorem Shift.seats_of_seats {s : Option SessionId}
    (shift : Shift r r' link membership membership') (hs : r.Seats m s)
    (stays : membership = some m → membership' = some m) : r'.Seats m s := by
  cases shift with
  | kept _ same => exact (same m s).mpr hs
  | taken m' id connected new issued seats => exact (seats m s).mpr (Or.inl hs)
  | left m' seats =>
    refine (seats m s).mpr ⟨hs, ?_⟩
    intro same
    subst same
    cases stays rfl

theorem Shift.seats_cases {s : Option SessionId}
    (shift : Shift r r' link membership membership') (hs : r'.Seats m s) :
    r.Seats m s ∧ (membership = some m → membership' = some m) ∨
      membership = none ∧ membership' = some m ∧ ∃ id, link.session = some id ∧ s = some id := by
  cases shift with
  | kept _ same => exact Or.inl ⟨(same m s).mp hs, id⟩
  | taken m' id connected new issued seats =>
    rcases (seats m s).mp hs with old | ⟨rfl, rfl⟩
    · exact Or.inl ⟨old, nofun⟩
    · exact Or.inr ⟨rfl, rfl, id, connected, rfl⟩
  | left m' seats =>
    obtain ⟨old, other⟩ := (seats m s).mp hs
    exact Or.inl ⟨old, fun same => absurd (Option.some.inj same).symm other⟩

theorem Shift.membership_cases (shift : Shift r r' link membership membership')
    (hm : membership' = some m) :
    membership = some m ∨ membership = none ∧ ¬ r.Issued m ∧ r'.Issued m ∧
      ∃ id, link.session = some id ∧ r'.Seats m (some id) := by
  cases shift with
  | kept => exact Or.inl hm
  | taken m' id connected new issued seats =>
    cases hm
    exact Or.inr ⟨rfl, new, issued, id, connected, (seats _ _).mpr (Or.inr ⟨rfl, rfl⟩)⟩
  | left => cases hm

section Join

variable {federation federate : String} {id : SessionId} {h : FederateHandle}
  {owed : List Delivery} (few : f.counter.issued.toNat + 1 < 2 ^ 32)
  (ok : f.join federate (some id) = (.ok (h, owed), g))
include few ok

theorem join_next : h.value.toNat = f.counter.issued.toNat + 1 ∧
    g.counter.issued.toNat = f.counter.issued.toNat + 1 := by
  obtain ⟨-, -, rfl, rfl, -⟩ := Federation.join_eq_ok_iff.mp ok
  exact ⟨toNat_succ_of_lt few, toNat_succ_of_lt few⟩

theorem join_coherent (hf : f.Coherent) : g.Coherent := by
  obtain ⟨next, next'⟩ := join_next few ok
  obtain ⟨-, -, -, rfl, -⟩ := Federation.join_eq_ok_iff.mp ok
  intro k e he
  rw [next']
  rcases getElem?_insert_eq_some_iff.mp he with ⟨rfl, rfl⟩ | ⟨-, he⟩
  · exact ⟨rfl, Nat.le_of_eq next⟩
  · obtain ⟨same, le⟩ := hf k e he
    exact ⟨same, Nat.le_succ_of_le le⟩

theorem join_new (hf : f.Coherent) : f.federates[h]? = none := by
  rw [Option.eq_none_iff_forall_ne_some]
  intro e he
  have := (hf h e he).2
  rw [(join_next few ok).1] at this
  omega

theorem shift_of_join (hr : r.Coherent) (connected : link.session = some id)
    (found : r.lookup federation = .ok f) :
    Shift r (r.put g) link none (some ⟨federation, g.handle, federate, h⟩) := by
  have hf := lookup_eq_ok_iff.mp found
  have absent := join_new few ok (hr.federates _ f hf)
  have hg := join_coherent few ok (hr.federates _ f hf)
  obtain ⟨next, -⟩ := join_next few ok
  obtain ⟨-, -, -, rfl, -⟩ := Federation.join_eq_ok_iff.mp ok
  have coherent := hr.put (g := { f with
      counter := ⟨f.counter.issued + 1⟩
      federates := f.federates.insert h ⟨federate, h, some id⟩ }) hf rfl rfl hg
  have seats (m' : Membership) (s : Option SessionId) :
      (r.put { f with
        counter := ⟨f.counter.issued + 1⟩
        federates := f.federates.insert h ⟨federate, h, some id⟩ }).Seats m' s ↔
      r.Seats m' s ∨ m' = ⟨federation, f.handle, federate, h⟩ ∧ s = some id := by
    by_cases hm : m'.federationName = federation
    · rw [seats_put_self hr hf (by rfl) hm, seats_iff_of_found hf hm]
      simp only [getElem?_insert_eq_ite]
      by_cases hh : h = m'.federate
      · obtain ⟨name, handle, federateName, h'⟩ := m'
        cases hm
        cases hh
        simp only [if_true, absent, Option.some.injEq, Federate.mk.injEq, Membership.mk.injEq,
          reduceCtorEq, and_false, false_or, true_and, and_true]
        constructor
        · rintro ⟨rfl, rfl, rfl⟩
          exact ⟨⟨rfl, rfl⟩, rfl⟩
        · rintro ⟨⟨rfl, rfl⟩, rfl⟩
          exact ⟨rfl, rfl, rfl⟩
      · rw [if_neg hh]
        refine (or_iff_left ?_).symm
        rintro ⟨rfl, -⟩
        exact hh rfl
    · rw [seats_put_other hr hf (by rfl) hm]
      refine (or_iff_left ?_).symm
      rintro ⟨rfl, -⟩
      exact hm rfl
  refine .taken _ id connected ?_ ?_ seats
  · intro issued
    have := issued.2 _ f hf rfl
    simp only [next] at this
    omega
  · exact ((seats _ (some id)).mpr (Or.inr ⟨rfl, rfl⟩)).issued coherent

end Join

theorem resign_frame (h : FederateHandle) (hf : f.Coherent) :
    (f.resign h).2.name = f.name ∧ (f.resign h).2.handle = f.handle ∧
      (f.resign h).2.counter = f.counter ∧ (f.resign h).2.Coherent := by
  by_cases member : h ∈ f.federates
  · rw [Federation.resign_of_mem member]
    exact ⟨rfl, rfl, rfl, fun k e he => hf k e (getElem?_erase_eq_some_iff.mp he).2⟩
  · rw [Federation.resign_of_not_mem member]
    exact ⟨rfl, rfl, rfl, hf⟩

theorem shift_of_resign {session : Option SessionId} (hr : r.Coherent)
    (found : r.lookup m.federationName = .ok f) (seated : r.Seats m session) :
    Shift r (r.put (f.resign m.federate).2) link (some m) none := by
  have hf := lookup_eq_ok_iff.mp found
  obtain ⟨same, sits⟩ := (seats_iff_of_found hf rfl).mp seated
  have member : m.federate ∈ f.federates := by
    rw [← ExtTreeMap.isSome_getElem?_iff_mem, sits]
    rfl
  rw [Federation.resign_of_mem member]
  refine .left m ?_
  intro m' s
  by_cases hm : m'.federationName = m.federationName
  · rw [seats_put_self hr hf (by rfl) hm, seats_iff_of_found hf hm]
    simp only [getElem?_erase_eq_ite]
    by_cases hh : m.federate = m'.federate
    · rw [if_pos hh]
      simp only [reduceCtorEq, and_false, false_iff, not_and, not_not]
      rintro ⟨same', sits'⟩
      rw [← hh, sits] at sits'
      simp only [Option.some.injEq, Federate.mk.injEq] at sits'
      obtain ⟨named, -, -⟩ := sits'
      obtain ⟨name, handle, federateName, h'⟩ := m'
      obtain ⟨_, _, _, _⟩ := m
      cases hm
      cases hh
      cases named
      cases same.symm.trans same'
      rfl
    · rw [if_neg hh]
      refine (and_iff_left_of_imp ?_).symm
      rintro - rfl
      exact hh rfl
  · rw [seats_put_other hr hf (by rfl) hm]
    refine (and_iff_left_of_imp ?_).symm
    rintro - rfl
    exact hm rfl

section Effects

variable {past : Journal} {key : ParticipantId}
  (hc : r.Counted (creates past) (joins past))
  (effect : OperationEffect r link membership op reply r' membership')
include hc effect

theorem shift_of_effect (few : joins ((entryOf key op reply).toList ++ past) < 2 ^ 32)
    (seated : ∀ m ∈ membership, ∃ s, r.Seats m s) : Shift r r' link membership membership' := by
  have hr := hc.coherent
  cases effect with
  | failed | asked => exact .kept _ fun m s => Iff.rfl
  | created name schema version f r' ok => exact .kept _ fun m s => seats_create ok
  | destroyed name r' ok => exact .kept _ fun m s => seats_destroy ok
  | synced op m f sync held found member =>
    obtain ⟨name, hf, -⟩ := hr.lookupHandle_eq_ok_iff.mp found
    exact .kept _ fun m' s => seats_resynced hf sync hr
  | joined federation federate id f g h owed free connected found ok =>
    subst free
    have up := hc.joins _ f (lookup_eq_ok_iff.mp found)
    exact shift_of_join (Nat.lt_of_le_of_lt (Nat.succ_le_succ up) few) ok hr connected found
  | resigned m f held found =>
    subst held
    obtain ⟨s, sits⟩ := seated m rfl
    exact shift_of_resign hr found sits

theorem counted_of_effect (few_creates : creates ((entryOf key op reply).toList ++ past) < 2 ^ 32)
    (few_joins : joins ((entryOf key op reply).toList ++ past) < 2 ^ 32) :
    r'.Counted (creates ((entryOf key op reply).toList ++ past))
      (joins ((entryOf key op reply).toList ++ past)) := by
  have hr := hc.coherent
  cases effect with
  | failed op e => cases op <;> exact hc
  | asked op reply question => rcases question with rfl | rfl <;> exact hc
  | created name schema version f r' ok => exact counted_create ok hc few_creates
  | destroyed name r' ok => exact counted_destroy ok hc
  | synced op m f sync held found member =>
    obtain ⟨name, hf, -⟩ := hr.lookupHandle_eq_ok_iff.mp found
    have hg := hc.resynced hf sync
    cases op <;> exact hg
  | joined federation federate id f g h owed free connected found ok =>
    have hf := lookup_eq_ok_iff.mp found
    have up := hc.joins _ f hf
    have few := Nat.lt_of_le_of_lt (Nat.succ_le_succ up) few_joins
    have next := (join_next few ok).2
    have coherent := join_coherent few ok (hr.federates _ f hf)
    obtain ⟨-, -, -, rfl, -⟩ := Federation.join_eq_ok_iff.mp ok
    exact hc.put hr hf (by rfl) (by rfl) coherent (Nat.le_succ _) (next ▸ Nat.succ_le_succ up)
  | resigned m f held found =>
    have hf := lookup_eq_ok_iff.mp found
    obtain ⟨named, handled, counted, coherent⟩ := resign_frame m.federate (hr.federates _ f hf)
    exact hc.put hr hf named handled coherent (Nat.le_refl _) (counted ▸ hc.joins _ f hf)

theorem issued_of_effect (few_creates : creates ((entryOf key op reply).toList ++ past) < 2 ^ 32)
    (few_joins : joins ((entryOf key op reply).toList ++ past) < 2 ^ 32) (hm : r.Issued m) :
    r'.Issued m := by
  have hr := hc.coherent
  cases effect with
  | failed | asked => exact hm
  | created name schema version f r' ok => exact issued_create ok hc few_creates hm
  | destroyed name r' ok => exact issued_destroy ok hm
  | synced op m f sync held found member =>
    obtain ⟨name, hf, -⟩ := hr.lookupHandle_eq_ok_iff.mp found
    exact hm.resynced hf sync hr
  | joined federation federate id f g h owed free connected found ok =>
    have hf := lookup_eq_ok_iff.mp found
    have few := Nat.lt_of_le_of_lt (Nat.succ_le_succ (hc.joins _ f hf)) few_joins
    have next := (join_next few ok).2
    obtain ⟨-, -, -, rfl, -⟩ := Federation.join_eq_ok_iff.mp ok
    exact hm.put hr hf (by rfl) (by rfl) (next ▸ Nat.le_succ _)
  | resigned m f held found =>
    have hf := lookup_eq_ok_iff.mp found
    obtain ⟨named, handled, counted, -⟩ := resign_frame m.federate (hr.federates _ f hf)
    exact hm.put hr hf named handled (Nat.le_of_eq (by rw [counted]))

end Effects

end Network

end HlaCoordination
