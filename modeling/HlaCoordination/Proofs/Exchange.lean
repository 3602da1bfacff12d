import HlaCoordination.Exchange
import HlaCoordination.Proofs.OrderedTables

/-! What delivering a notice does. It changes mailboxes only, and a mailbox gains a copy each time
it is named, as long as its session is attached and there is room. -/
namespace HlaCoordination.Exchange

open Std

variable {x : Exchange} {notice : Notice} {ids : List SessionId}

def Accepts (x : Exchange) (id : SessionId) : Prop :=
  id ∈ x.attached ∧ (x.mailbox id).hasRoom = true

theorem accepts_iff {id : SessionId} :
    x.Accepts id ↔ (x.attached.contains id && (x.mailbox id).hasRoom) = true := by
  rw [Bool.and_eq_true, ExtTreeSet.contains_iff_mem]
  rfl

instance (id : SessionId) : Decidable (x.Accepts id) := decidable_of_iff _ accepts_iff.symm

theorem deliver_of_accepts {id : SessionId} (accepts : x.Accepts id) :
    (x.deliver notice (id :: ids)).2 =
      (Exchange.deliver { x with
          mailboxes := x.mailboxes.insert id ((x.mailbox id).offer notice) } notice ids).2 := by
  simp only [deliver, deliverTo, accepts_iff.mp accepts, if_true]

theorem deliver_of_not_accepts {id : SessionId} (closed : ¬ x.Accepts id) :
    (x.deliver notice (id :: ids)).2 = (x.deliver notice ids).2 := by
  have refused := mt accepts_iff.mpr closed
  simp only [deliver, deliverTo, refused, Bool.false_eq_true, if_false]

theorem deliver_eq (x : Exchange) (notice : Notice) (ids : List SessionId) :
    ∃ mailboxes, (x.deliver notice ids).2 = { x with mailboxes } := by
  induction ids generalizing x with
  | nil => exact ⟨x.mailboxes, rfl⟩
  | cons first rest ih =>
    by_cases takes : x.Accepts first
    · rw [deliver_of_accepts takes]
      exact ih { x with mailboxes := x.mailboxes.insert first ((x.mailbox first).offer notice) }
    · rw [deliver_of_not_accepts takes]
      exact ih x

theorem mailbox_insert (id other : SessionId) (m : Mailbox) :
    ({ x with mailboxes := x.mailboxes.insert id m } : Exchange).mailbox other =
      if id = other then m else x.mailbox other := by
  simp only [mailbox, ExtTreeMap.getD_insert, Std.compare_eq_iff_eq]

theorem offer_of_room {m : Mailbox} (room : m.hasRoom = true) :
    m.offer notice = { m with notices := m.notices ++ [notice] } := by
  simp only [Mailbox.offer, room, if_true]

/-- A mailbox gains copies of a notice that is delivered, at least one if its session is among the
recipients and it has room, and at most as many as its session is named. -/
theorem mailbox_deliver (x : Exchange) (notice : Notice) (ids : List SessionId) (id : SessionId) :
    ∃ copies, (x.deliver notice ids).2.mailbox id =
        { x.mailbox id with
          notices := (x.mailbox id).notices ++ List.replicate copies notice } ∧
      (0 < copies ↔ id ∈ ids ∧ x.Accepts id) ∧ copies ≤ ids.count id := by
  induction ids generalizing x with
  | nil => exact ⟨0, by simp [deliver], by simp, Nat.zero_le _⟩
  | cons first rest ih =>
    by_cases takes : x.Accepts first
    · rw [deliver_of_accepts takes]
      obtain ⟨copies, gained, some_iff, most⟩ :=
        ih { x with mailboxes := x.mailboxes.insert first ((x.mailbox first).offer notice) }
      simp only [Accepts, mailbox_insert] at gained some_iff
      by_cases here : first = id
      · subst here
        rw [if_pos rfl] at gained
        refine ⟨copies + 1, gained.trans ?_, by simp [takes], ?_⟩
        · rw [offer_of_room takes.2, List.append_assoc, List.replicate_succ]
          rfl
        · rw [List.count_cons_self]
          exact Nat.succ_le_succ most
      · simp only [here, if_false] at gained some_iff
        refine ⟨copies, gained, some_iff.trans ?_, ?_⟩
        · simp [Accepts, Ne.symm here]
        · rwa [List.count_cons_of_ne here]
    · rw [deliver_of_not_accepts takes]
      obtain ⟨copies, gained, some_iff, most⟩ := ih x
      refine ⟨copies, gained, some_iff.trans ?_, Nat.le_trans most List.count_le_count_cons⟩
      constructor
      · rintro ⟨among, accepts⟩
        exact ⟨List.mem_cons_of_mem first among, accepts⟩
      · rintro ⟨among, accepts⟩
        rcases List.mem_cons.mp among with rfl | later
        · exact absurd accepts takes
        · exact ⟨later, accepts⟩

theorem mailbox_deliver_single (x : Exchange) (notice : Notice) {id : SessionId}
    (single : x.Accepts id → ids.count id ≤ 1) :
    (x.deliver notice ids).2.mailbox id =
      if id ∈ ids ∧ x.Accepts id then
        { x.mailbox id with notices := (x.mailbox id).notices ++ [notice] }
      else x.mailbox id := by
  obtain ⟨copies, gained, some_iff, most⟩ := x.mailbox_deliver notice ids id
  rw [gained]
  by_cases taken : id ∈ ids ∧ x.Accepts id
  · have one := Nat.le_trans most (single taken.2)
    obtain rfl : copies = 1 := Nat.le_antisymm one (some_iff.mpr taken)
    rw [if_pos taken, List.replicate_one]
  · obtain rfl : copies = 0 := Nat.eq_zero_of_not_pos (mt some_iff.mp taken)
    rw [if_neg taken, List.replicate_zero, List.append_nil]

theorem mailbox_deliver_once (x : Exchange) (notice : Notice) (once : ids.Nodup) (id : SessionId) :
    (x.deliver notice ids).2.mailbox id =
      if id ∈ ids ∧ x.Accepts id then
        { x.mailbox id with notices := (x.mailbox id).notices ++ [notice] }
      else x.mailbox id :=
  x.mailbox_deliver_single notice fun _ => List.nodup_iff_count_le_one.mp once id

theorem detachAuthority_eq (present : x.authority.isSome = true) (reason : String) :
    ∃ mailboxes, x.detachAuthority reason =
      { x with authority := none, attached := ∅, mailboxes } := by
  obtain ⟨mailboxes, told⟩ := x.deliver_eq (.disconnected reason) x.attached.toList
  refine ⟨mailboxes, ?_⟩
  simp only [detachAuthority, hasAuthority, present, if_true, told]

/-- An authority that leaves is heard by the attached sessions that have room, and by nobody else.
-/
theorem mailbox_detachAuthority (present : x.authority.isSome = true) (reason : String)
    (id : SessionId) :
    (x.detachAuthority reason).mailbox id =
      if x.Accepts id then
        { x.mailbox id with notices := (x.mailbox id).notices ++ [.disconnected reason] }
      else x.mailbox id := by
  have told := x.mailbox_deliver_once (.disconnected reason) (nodup_toList x.attached) id
  have audience : id ∈ x.attached.toList ∧ x.Accepts id ↔ x.Accepts id := by
    rw [ExtTreeSet.mem_toList]
    exact and_iff_right_of_imp And.left
  simp only [audience] at told
  rw [← told]
  simp only [detachAuthority, hasAuthority, present, if_true, mailbox]

theorem attachSession_eq_ok_iff {capacity : Nat} {id : SessionId} {x' : Exchange} :
    x.attachSession capacity = .ok (id, x') ↔
      x.authority.isSome = true ∧ id = ⟨x.counter.issued + 1⟩ ∧
        x' = { x with
          counter := ⟨x.counter.issued + 1⟩
          attached := x.attached.insert id
          mailboxes := x.mailboxes.insert id { capacity } } := by
  unfold attachSession hasAuthority
  cases x.authority.isSome with
  | false => simp
  | true =>
    simp only [if_true, SessionCounter.next, Except.ok.injEq, Prod.mk.injEq, true_and]
    constructor
    · rintro ⟨rfl, rfl⟩
      exact ⟨rfl, rfl⟩
    · rintro ⟨rfl, rfl⟩
      exact ⟨rfl, rfl⟩

theorem deliver_eq_self (closed : ∀ id ∈ ids, ¬ x.Accepts id) :
    (x.deliver notice ids).2 = x := by
  induction ids with
  | nil => rfl
  | cons first rest ih =>
    rw [deliver_of_not_accepts (closed first List.mem_cons_self)]
    exact ih fun id later => closed id (List.mem_cons_of_mem first later)

end HlaCoordination.Exchange
