import HlaCoordination.Proofs.Network.Agreement
import HlaCoordination.Proofs.Network.Succession

/-! Runs under one authority in which sessions also look after their notices and the points of
federations are saved and restored. Any octets may be restored; saving changes nothing. Sessions
and registry agree throughout. Runs are listed newest first. -/
namespace HlaCoordination.Network

open Std Session Registry

variable {a : RunningAuthority} {n n' n'' : Network} {r : Registry} {past : Journal}

/-- What the users of sessions do, and what is done to the points of federations. -/
inductive Turn where
  | call (c : Call)
  | poll (session : ParticipantId)
  | listen (session : ParticipantId) (listener : Listener)
  | unlisten (session : ParticipantId)
  | settle
  | restore (federation : String) (s : Snapshot)
  | finishRestore (federation : String)
  deriving DecidableEq

def rework (n : Network) (id : RegistryId) (act : Registry → Registry) : Network :=
  match n.registries[id]? with
  | some r => n.setRegistry id (act r)
  | none => n

def turn (a : RunningAuthority) (n : Network) : Turn → Option Entry × Network
  | .call c => n.call c
  | .poll key => (none, n.happen (.poll key))
  | .listen key l => (none, n.happen (.listen key l))
  | .unlisten key => (none, n.happen (.unlisten key))
  | .settle => (none, n.happen .settle)
  | .restore federation s => (none, n.rework a.registry fun r => (r.restore federation s).2)
  | .finishRestore federation => (none, n.rework a.registry fun r => (r.finishRestore federation).2)

def played (a : RunningAuthority) (n : Network) : List Turn → Network
  | [] => n
  | t :: earlier => (turn a (n.played a earlier) t).2

def turnJournal (a : RunningAuthority) (n : Network) : List Turn → Journal
  | [] => []
  | t :: earlier => (turn a (n.played a earlier) t).1.toList ++ n.turnJournal a earlier

/-- All of a session but the way it gets its notices. -/
def standing (p : Participant) : SessionLink × SessionId × Option Membership :=
  (p.link, p.mailbox, p.membership)

structure Tended (n n' : Network) : Prop where
  undisturbed : Undisturbed n n'
  issued : n'.issued = n.issued
  standing : ∀ key : ParticipantId,
    n'.participants[key]?.map standing = n.participants[key]?.map standing

namespace Tended

theorem refl (n : Network) : Tended n n := ⟨.refl n, rfl, fun _ => rfl⟩

theorem trans (h : Tended n n') (h' : Tended n' n'') : Tended n n'' :=
  ⟨h.undisturbed.trans h'.undisturbed, h'.issued.trans h.issued,
    fun key => (h'.standing key).trans (h.standing key)⟩

theorem callbacks {key : ParticipantId} {p : Participant}
    (there : n.participants[key]?.map Network.standing = some (Network.standing p))
    (exchange : Exchange) (same : exchange.authority = n.exchange.authority)
    (callbacks : Callbacks) :
    Tended n ({ n with exchange }.setParticipant key { p with callbacks }) := by
  refine ⟨⟨same, rfl, rfl⟩, rfl, ?_⟩
  intro key'
  simp only [setParticipant, getElem?_insert_eq_ite]
  split
  · rename_i here
    rw [← here, there]
    rfl
  · rfl

theorem poll (n : Network) (p : Participant) : Tended n (n.poll p).2 := by
  refine ⟨undisturbed_poll n p, ?_, ?_⟩
  · unfold Network.poll
    split <;> rfl
  · intro key
    unfold Network.poll
    split <;> rfl

theorem settle (n : Network) : Tended n n.settle := by
  apply settle_of_steps (.refl n)
  intro m key p there before
  apply before.trans (.callbacks _ (m.exchange.keep _ _) rfl _)
  rw [before.standing key, there]
  rfl

end Tended

theorem tended_onParticipant (n : Network) (key : ParticipantId)
    {act : Participant → Option Entry × Network}
    (acts : ∀ p : Participant, n.participants[key]? = some p → Tended n (act p).2) :
    Tended n (n.onParticipant key act).2 :=
  onParticipant_cases (P := fun outcome => Tended n outcome.2) (.refl n) acts

namespace Agrees

theorem tended (h : Agrees a n past r) (t : Tended n n') : Agrees a n' past r := by
  refine h.narrow (h.served.undisturbed t.undisturbed) t.issued ?_
  intro key p' hp'
  have same := t.standing key
  rw [hp'] at same
  obtain ⟨p, hp, alike⟩ := Option.map_eq_some_iff.mp same.symm
  simp only [standing, Prod.mk.injEq] at alike
  obtain ⟨link, mailbox, membership⟩ := alike
  exact ⟨p, hp, mailbox.symm, membership.symm, fun id hid => link ▸ hid⟩

theorem resynced (h : Agrees a n past r) {name : String} {f : Federation}
    (hf : r.federations[name]? = some f) (sync : SyncTable) :
    Agrees a (n.setRegistry a.registry (r.put { f with sync })) past (r.put { f with sync }) where
  served := ⟨h.served.attached, h.served.listening, ExtTreeMap.getElem?_insert_self⟩
  counted := h.counted.resynced hf sync
  issued := fun key m hm => (h.issued key m hm).resynced hf sync h.counted.coherent
  keyed := h.keyed
  identified := h.identified
  connected := h.connected
  once := h.once
  held := by
    intro key p hp m hm
    obtain ⟨joined, sits⟩ := h.held key p hp m hm
    exact ⟨joined, (seats_resynced hf sync h.counted.coherent).mpr sits⟩
  seated := by
    intro m session hs
    exact h.seated m session ((seats_resynced hf sync h.counted.coherent).mp hs)

theorem replaced (h : Agrees a n past r) : Agrees a (n.setRegistry a.registry r) past r := by
  have same : n.setRegistry a.registry r = n := by
    rw [setRegistry, insert_eq_self h.served.kept]
  rwa [same]

theorem rework (h : Agrees a n past r) (act : Registry → Registry) {name : String}
    (acts : act r = r ∨ ∃ (f : Federation) (sync : SyncTable),
      r.federations[name]? = some f ∧ act r = r.put { f with sync }) :
    ∃ r', Agrees a (n.rework a.registry act) past r' ∧
      ∀ m session, r.Seats m session → r'.Seats m session := by
  simp only [Network.rework, h.served.kept]
  rcases acts with same | ⟨f, sync, hf, became⟩
  · rw [same]
    exact ⟨r, h.replaced, fun _ _ => id⟩
  · rw [became]
    refine ⟨_, h.resynced hf sync, fun m session sits => ?_⟩
    exact (seats_resynced hf sync h.counted.coherent).mpr sits

theorem turn (h : Agrees a n past r) (t : Turn)
    (few_creates : creates ((turn a n t).1.toList ++ past) < 2 ^ 32)
    (few_joins : joins ((turn a n t).1.toList ++ past) < 2 ^ 32) :
    ∃ r', Agrees a (turn a n t).2 ((turn a n t).1.toList ++ past) r' := by
  cases t with
  | call c => exact h.call c few_creates few_joins
  | poll key => exact ⟨r, h.tended (tended_onParticipant n key fun p _ => .poll n p)⟩
  | listen key l =>
    refine ⟨r, h.tended (tended_onParticipant n key fun p hp => ?_)⟩
    exact .callbacks (by rw [hp]; rfl) n.exchange rfl (p.callbacks.enable l)
  | unlisten key =>
    refine ⟨r, h.tended (tended_onParticipant n key fun p hp => ?_)⟩
    exact .callbacks (by rw [hp]; rfl) n.exchange rfl p.callbacks.disable
  | settle => exact ⟨r, h.tended (.settle n)⟩
  | restore federation s =>
    obtain ⟨r', agrees, -⟩ := h.rework (fun r => (r.restore federation s).2)
      (restore_resyncs r federation s)
    exact ⟨r', agrees⟩
  | finishRestore federation =>
    obtain ⟨r', agrees, -⟩ := h.rework (fun r => (r.finishRestore federation).2)
      (finishRestore_resyncs r federation)
    exact ⟨r', agrees⟩

end Agrees

theorem played_agrees {config : Config} (empty : n.participants = ∅)
    (started : n.startAuthority config = .ok (a, n')) (run : List Turn)
    (few_creates : creates (n'.turnJournal a run) < 2 ^ 32)
    (few_joins : joins (n'.turnJournal a run) < 2 ^ 32) :
    ∃ r, Agrees a (n'.played a run) (n'.turnJournal a run) r := by
  induction run with
  | nil => exact ⟨_, Agrees.start empty started⟩
  | cons t earlier ih =>
    obtain ⟨r, h⟩ := ih (Nat.lt_of_le_of_lt (creates_tail _ _) few_creates)
      (Nat.lt_of_le_of_lt (joins_tail _ _) few_joins)
    exact h.turn t few_creates few_joins

end HlaCoordination.Network
