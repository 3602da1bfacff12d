import HlaCoordination.Proofs.Federation.Run
import Mathlib.Algebra.Group.Nat.Defs

/-! What a history says about a federation, read off the updates alone: who is joined, what a label
was last registered with, who has achieved it since, and at which moments its scope was covered.
A federation that was never restored has exactly the federates its history says. -/
namespace HlaCoordination.Federation

open Std

namespace History

def joins : History → Nat
  | [] => 0
  | .joined _ :: past => joins past + 1
  | .resigned _ :: past | .registered .. :: past | .achieved .. :: past => joins past

def federate? (h : FederateHandle) : History → Option Federate
  | [] => none
  | .joined m :: past => if m.handle = h then some m else federate? h past
  | .resigned k :: past => if k = h then none else federate? h past
  | .registered .. :: past | .achieved .. :: past => federate? h past

def joined : History → HandleSet
  | [] => ∅
  | .joined m :: past => (joined past).insert m.handle
  | .resigned h :: past => (joined past).erase h
  | .registered .. :: past | .achieved .. :: past => joined past

structure Registration where
  registrant : FederateHandle
  tag : Octets
  targets : HandleSet
  deriving DecidableEq

/-- The last successful registration of a label. -/
def registration? (label : String) : History → Option Registration
  | [] => none
  | .registered g l tag targets :: past =>
    if l = label then some ⟨g, tag, targets⟩ else registration? label past
  | .joined _ :: past | .resigned _ :: past | .achieved .. :: past => registration? label past

/-- Whoever has achieved a label since it was last registered. -/
def achievers (label : String) : History → HandleSet
  | [] => ∅
  | .achieved h l :: past =>
    if l = label then (achievers label past).insert h else achievers label past
  | .registered _ l _ _ :: past => if l = label then ∅ else achievers label past
  | .joined _ :: past | .resigned _ :: past => achievers label past

def achieved (label : String) (past : History) : HandleSet := achievers label past ∩ joined past

/-- Who has to achieve a registered label now. -/
def scope (policy : ResignPolicy) (r : Registration) (past : History) : HandleSet :=
  if r.targets = ∅ then joined past
  else match policy with
    | .prune => r.targets ∩ joined past
    | .retain => r.targets

def registers (label : String) : Update → Bool
  | .registered _ l _ _ => l = label
  | .joined _ | .resigned _ | .achieved .. => false

/-- The moments since a label was last registered, that one included, newest first. -/
def moments (label : String) : History → List History
  | [] => []
  | d :: past => (d :: past) :: if registers label d then [] else moments label past

/-- Somebody has to achieve the label, and all who have to have done so. -/
def Covered (policy : ResignPolicy) (label : String) (past : History) : Prop :=
  ∃ r ∈ registration? label past, scope policy r past ≠ ∅ ∧
    ∀ h ∈ scope policy r past, h ∈ achieved label past

def EverCovered (policy : ResignPolicy) (label : String) (past : History) : Prop :=
  ∃ moment ∈ moments label past, Covered policy label moment

/-- All targets of a restricted registration are gone, and gone for good. -/
def Deserted (policy : ResignPolicy) (r : Registration) (past : History) : Prop :=
  policy = .prune ∧ r.targets ≠ ∅ ∧ r.targets ∩ joined past = ∅

def Issued (h : FederateHandle) (past : History) : Prop := ∃ m, .joined m ∈ past ∧ m.handle = h

/-- A join issues a new handle, and everything else is done by or to those who are joined. -/
def Admissible (past : History) : Update → Prop
  | .joined m => ¬ Issued m.handle past
  | .resigned h | .achieved h _ => h ∈ joined past
  | .registered g _ _ targets => g ∈ joined past ∧ ∀ h ∈ targets, h ∈ joined past

def Legal : History → Prop
  | [] => True
  | d :: past => Admissible past d ∧ Legal past

theorem issued_cons_iff {h : FederateHandle} {d : Update} {past : History} :
    Issued h (d :: past) ↔ (∃ m, d = .joined m ∧ m.handle = h) ∨ Issued h past := by
  constructor
  · rintro ⟨m, hm, rfl⟩
    rcases List.mem_cons.mp hm with he | hm
    · exact Or.inl ⟨m, he.symm, rfl⟩
    · exact Or.inr ⟨m, hm, rfl⟩
  · rintro (⟨m, rfl, rfl⟩ | ⟨m, hm, rfl⟩)
    · exact ⟨m, List.mem_cons_self, rfl⟩
    · exact ⟨m, List.mem_cons_of_mem _ hm, rfl⟩

theorem Issued.cons {h : FederateHandle} {past : History} (hi : Issued h past) (d : Update) :
    Issued h (d :: past) := issued_cons_iff.mpr (Or.inr hi)

theorem mem_joined_iff {h : FederateHandle} {past : History} :
    h ∈ joined past ↔ (federate? h past).isSome = true := by
  induction past with
  | nil => simp [joined, federate?]
  | cons d past ih =>
    cases d with
    | joined m =>
      by_cases hm : m.handle = h
      · simp [joined, federate?, hm]
      · simpa [joined, federate?, hm, HandleSet.mem_insert_iff, Ne.symm hm] using ih
    | resigned k =>
      by_cases hk : k = h
      · simp [joined, federate?, hk]
      · simpa [joined, federate?, hk, HandleSet.mem_erase_iff, Ne.symm hk] using ih
    | registered => exact ih
    | achieved => exact ih

theorem issued_of_mem_joined {h : FederateHandle} {past : History} (hj : h ∈ joined past) :
    Issued h past := by
  induction past with
  | nil => simp [joined] at hj
  | cons d past ih =>
    cases d with
    | joined m =>
      rcases HandleSet.mem_insert_iff.mp hj with rfl | hj
      · exact ⟨m, List.mem_cons_self, rfl⟩
      · exact (ih hj).cons _
    | resigned k => exact (ih (HandleSet.mem_erase_iff.mp hj).2).cons _
    | registered => exact (ih hj).cons _
    | achieved => exact (ih hj).cons _

theorem Legal.issued_of_target {label : String} {past : History} (hl : Legal past)
    {r : Registration} (hr : registration? label past = some r) {h : FederateHandle}
    (ht : h ∈ r.targets) : Issued h past := by
  induction past with
  | nil => simp [registration?] at hr
  | cons d past ih =>
    cases d with
    | registered g l tag targets =>
      by_cases he : l = label
      · simp only [registration?, he, if_true, Option.some.injEq] at hr
        subst hr
        exact (issued_of_mem_joined (hl.1.2 h ht)).cons _
      · simp only [registration?, he, if_false] at hr
        exact (ih hl.2 hr).cons _
    | joined m => exact (ih hl.2 hr).cons _
    | resigned k => exact (ih hl.2 hr).cons _
    | achieved k l => exact (ih hl.2 hr).cons _

theorem Legal.issued_of_achiever {label : String} {past : History} (hl : Legal past)
    {h : FederateHandle} (ha : h ∈ achievers label past) : Issued h past := by
  induction past with
  | nil => simp [achievers] at ha
  | cons d past ih =>
    cases d with
    | achieved k l =>
      by_cases he : l = label
      · simp only [achievers, he, if_true] at ha
        rcases HandleSet.mem_insert_iff.mp ha with rfl | ha
        · exact (issued_of_mem_joined hl.1).cons _
        · exact (ih hl.2 ha).cons _
      · simp only [achievers, he, if_false] at ha
        exact (ih hl.2 ha).cons _
    | registered g l tag targets =>
      by_cases he : l = label
      · simp [achievers, he] at ha
      · simp only [achievers, he, if_false] at ha
        exact (ih hl.2 ha).cons _
    | joined m => exact (ih hl.2 ha).cons _
    | resigned k => exact (ih hl.2 ha).cons _

end History

/-- The federation is where its history says it is. -/
structure Reflects (c : Constants) (f : Federation) (past : History) : Prop where
  handle : f.handle = c.handle
  policy : f.policy = c.policy
  alive : f.destroyed = false
  live : f.sync.restoring = false
  federates : ∀ h, f.federates[h]? = History.federate? h past
  issued : f.counter.issued.toNat = History.joins past
  numbered : ∀ h, History.Issued h past → h.value.toNat ≤ History.joins past
  legal : History.Legal past

namespace Reflects

variable {c : Constants} {f g : Federation} {past : History}

theorem mem_federates_iff (hf : Reflects c f past) {h : FederateHandle} :
    h ∈ f.federates ↔ h ∈ History.joined past := by
  rw [History.mem_joined_iff, ← hf.federates, ExtTreeMap.isSome_getElem?_iff_mem]

theorem joined_eq (hf : Reflects c f past) : f.joined = History.joined past :=
  ExtTreeSet.ext_mem fun _ => mem_joined.trans hf.mem_federates_iff

theorem initial (c : Constants) : Reflects c c.initial [] where
  handle := rfl
  policy := rfl
  alive := rfl
  live := rfl
  federates := by simp [Constants.initial, History.federate?]
  issued := rfl
  numbered := by simp [History.Issued]
  legal := trivial

theorem next_new (hf : Reflects c f past) (few : History.joins past + 1 < 2 ^ 32) :
    (f.counter.issued + 1).toNat = History.joins past + 1 := by
  rw [← hf.issued] at few ⊢
  exact toNat_succ_of_lt few

theorem step (hf : Reflects c f past) {update : Option Update} {events : List SyncEvent}
    (st : Step f update events g) (few : History.joins (update.toList ++ past) < 2 ^ 32) :
    Reflects c g (update.toList ++ past) := by
  cases st with
  | refused => exact hf
  | joined name session h next alive free =>
    subst next
    have hn := hf.next_new few
    exact {
      handle := hf.handle
      policy := hf.policy
      alive := hf.alive
      live := hf.live
      federates := by
        intro k
        simp only [getElem?_insert_eq_ite, hf.federates]
        rfl
      issued := hn
      numbered := by
        intro k hk
        rcases History.issued_cons_iff.mp hk with ⟨m, he, rfl⟩ | hk
        · cases he
          exact Nat.le_of_eq hn
        · exact Nat.le_succ_of_le (hf.numbered k hk)
      legal := by
        refine ⟨?_, hf.legal⟩
        intro hi
        have := hf.numbered _ hi
        rw [hn] at this
        omega }
  | resigned h stay member rest =>
    exact {
      handle := hf.handle
      policy := hf.policy
      alive := hf.alive
      live := hf.live
      federates := by
        intro k
        simp only [getElem?_erase_eq_ite, hf.federates]
        rfl
      issued := hf.issued
      numbered := by simpa [History.issued_cons_iff, History.joins] using hf.numbered
      legal := ⟨hf.mem_federates_iff.mp member, hf.legal⟩ }
  | registered g label tag targets events sync member ok =>
    obtain ⟨-, known, -, -, rfl⟩ := SyncTable.register_eq_ok_iff.mp ok
    rw [hf.joined_eq] at known
    exact {
      handle := hf.handle
      policy := hf.policy
      alive := hf.alive
      live := hf.live
      federates := hf.federates
      issued := hf.issued
      numbered := by simpa [History.issued_cons_iff, History.joins] using hf.numbered
      legal := ⟨⟨hf.mem_federates_iff.mp member, known⟩, hf.legal⟩ }
  | achieved h label events sync member ok =>
    obtain ⟨p, -, -, -, rfl⟩ := SyncTable.achieve_eq_ok_iff.mp ok
    exact {
      handle := hf.handle
      policy := hf.policy
      alive := hf.alive
      live := hf.live
      federates := hf.federates
      issued := hf.issued
      numbered := by simpa [History.issued_cons_iff, History.joins] using hf.numbered
      legal := ⟨hf.mem_federates_iff.mp member, hf.legal⟩ }

end Reflects

theorem joins_tail (d : Option Update) (past : History) :
    History.joins past ≤ History.joins (d.toList ++ past) := by
  rcases d with _ | d
  · exact Nat.le_refl _
  · cases d <;> simp [History.joins]

theorem after_reflects (c : Constants) (run : List Action)
    (few : History.joins (c.initial.history run) < 2 ^ 32) :
    Reflects c (c.initial.after run) (c.initial.history run) := by
  induction run with
  | nil => exact Reflects.initial c
  | cons a earlier ih =>
    exact (ih (Nat.lt_of_le_of_lt (joins_tail _ _) few)).step (act_step _ a) few

end HlaCoordination.Federation
