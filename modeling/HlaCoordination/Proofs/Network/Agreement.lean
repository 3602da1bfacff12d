import HlaCoordination.Proofs.Network.Seating

/-! The authority and its sessions agree. A session that holds a membership sits in the federation
of that name and handle, and every federate there was joined by one session, which holds just that
membership for as long as it exists. -/
namespace HlaCoordination.Network

open Std Session Registry

variable {a : RunningAuthority} {n n' : Network} {r r' : Registry} {past : Journal}

structure Agrees (a : RunningAuthority) (n : Network) (past : Journal) (r : Registry) : Prop where
  served : Served a n r
  counted : r.Counted (creates past) (joins past)
  issued : ∀ key m, .joined key m ∈ past → r.Issued m
  keyed : ∀ key id, .connected key id ∈ past → key < n.issued
  identified : ∀ key id id', .connected key id ∈ past → .connected key id' ∈ past → id = id'
  connected : ∀ (key : ParticipantId) (p : Participant), n.participants[key]? = some p →
    .connected key p.mailbox ∈ past ∧ ∀ id ∈ p.link.session, id = p.mailbox
  once : ∀ key₁ key₂ m₁ m₂, .joined key₁ m₁ ∈ past → .joined key₂ m₂ ∈ past →
    m₁.federation = m₂.federation → m₁.federate = m₂.federate → key₁ = key₂
  held : ∀ (key : ParticipantId) (p : Participant), n.participants[key]? = some p →
    ∀ m ∈ p.membership, .joined key m ∈ past ∧ r.Seats m (some p.mailbox)
  seated : ∀ m session, r.Seats m session → ∃ key id, session = some id ∧
    .connected key id ∈ past ∧ .joined key m ∈ past ∧
    ∀ p : Participant, n.participants[key]? = some p → p.membership = some m

namespace Agrees

theorem narrow (h : Agrees a n past r) (served : Served a n' r) (same : n'.issued = n.issued)
    (from_old : ∀ (key : ParticipantId) (p' : Participant), n'.participants[key]? = some p' →
      ∃ p : Participant, n.participants[key]? = some p ∧ p'.mailbox = p.mailbox ∧
        p'.membership = p.membership ∧ ∀ id ∈ p'.link.session, id ∈ p.link.session) :
    Agrees a n' past r where
  served := served
  counted := h.counted
  issued := h.issued
  keyed := fun key id hid => same ▸ h.keyed key id hid
  identified := h.identified
  connected := by
    intro key p' hp'
    obtain ⟨p, hp, mailbox, -, cut⟩ := from_old key p' hp'
    obtain ⟨known, linked⟩ := h.connected key p hp
    rw [mailbox]
    exact ⟨known, fun id hid => linked id (cut id hid)⟩
  once := h.once
  held := by
    intro key p' hp' m hm
    obtain ⟨p, hp, mailbox, membership, -⟩ := from_old key p' hp'
    rw [mailbox]
    exact h.held key p hp m (membership ▸ hm)
  seated := by
    intro m session hs
    obtain ⟨key, id, hid, known, joined, holds⟩ := h.seated m session hs
    refine ⟨key, id, hid, known, joined, ?_⟩
    intro p' hp'
    obtain ⟨p, hp, -, membership, -⟩ := from_old key p' hp'
    exact membership.trans (holds p hp)

theorem disconnect (h : Agrees a n past r) {key : ParticipantId} {p : Participant}
    (hp : n.participants[key]? = some p) : Agrees a (n.disconnectSession key p) past r := by
  obtain ⟨attached, link, callbacks, cut, same⟩ := disconnectSession_eq n key p
  rw [same]
  refine h.narrow ⟨h.served.attached, h.served.listening, h.served.kept⟩ rfl ?_
  intro key' p' hp'
  rcases getElem?_insert_eq_some_iff.mp hp' with ⟨rfl, rfl⟩ | ⟨-, hp'⟩
  · exact ⟨p, hp, rfl, rfl, fun id hid => by simp [cut] at hid⟩
  · exact ⟨p', hp', rfl, rfl, fun _ hid => hid⟩

theorem connect (h : Agrees a n past r) {link : SessionLink} {id : SessionId} {exchange : Exchange}
    (attached : exchange.authority = n.exchange.authority) (session : link.session = some id) :
    Agrees a
      { n with
        issued := n.issued + 1, exchange
        participants := n.participants.insert n.issued ⟨link, id, none, {}⟩ }
      (.connected n.issued id :: past) r where
  served := ⟨attached.trans h.served.attached, h.served.listening, h.served.kept⟩
  counted := h.counted
  issued := by
    intro key m hm
    exact h.issued key m (by simpa using hm)
  keyed := by
    intro key id' hid
    rcases List.mem_cons.mp hid with he | hid
    · cases he
      exact Nat.lt_succ_self n.issued
    · exact Nat.lt_succ_of_lt (h.keyed key id' hid)
  identified := by
    intro key id₁ id₂ h₁ h₂
    rcases List.mem_cons.mp h₁, List.mem_cons.mp h₂ with ⟨e₁ | old₁, e₂ | old₂⟩
    · cases e₁
      cases e₂
      rfl
    · cases e₁
      exact absurd (h.keyed _ _ old₂) (Nat.lt_irrefl _)
    · cases e₂
      exact absurd (h.keyed _ _ old₁) (Nat.lt_irrefl _)
    · exact h.identified key id₁ id₂ old₁ old₂
  connected := by
    intro key p hp
    rcases getElem?_insert_eq_some_iff.mp hp with ⟨rfl, rfl⟩ | ⟨-, hp⟩
    · refine ⟨List.mem_cons_self, ?_⟩
      intro id' hid
      exact (Option.some.inj (session.symm.trans hid)).symm
    · obtain ⟨known, linked⟩ := h.connected key p hp
      exact ⟨List.mem_cons_of_mem _ known, linked⟩
  once := by
    intro key₁ key₂ m₁ m₂ h₁ h₂
    exact h.once key₁ key₂ m₁ m₂ (by simpa using h₁) (by simpa using h₂)
  held := by
    intro key p hp m hm
    rcases getElem?_insert_eq_some_iff.mp hp with ⟨rfl, rfl⟩ | ⟨-, hp⟩
    · cases hm
    · obtain ⟨joined, sits⟩ := h.held key p hp m hm
      exact ⟨List.mem_cons_of_mem _ joined, sits⟩
  seated := by
    intro m s hs
    obtain ⟨key, id', hid, known, joined, holds⟩ := h.seated m s hs
    refine ⟨key, id', hid, List.mem_cons_of_mem _ known, List.mem_cons_of_mem _ joined, ?_⟩
    intro p hp
    rcases getElem?_insert_eq_some_iff.mp hp with ⟨rfl, -⟩ | ⟨-, hp⟩
    · exact absurd (h.keyed _ _ known) (Nat.lt_irrefl _)
    · exact holds p hp

theorem connected_not_mem_entryOf (key : ParticipantId) (op : Operation)
    (reply : Except RtiError Reply) (key' : ParticipantId) (id : SessionId) :
    .connected key' id ∉ (entryOf key op reply).toList := by
  unfold entryOf
  split <;> simp

theorem joined_mem_entryOf_iff {link : SessionLink} {membership membership' : Option Membership}
    {op : Operation} {reply : Except RtiError Reply} {key : ParticipantId}
    (effect : OperationEffect r link membership op reply r' membership') (key' : ParticipantId)
    (m : Membership) : .joined key' m ∈ (entryOf key op reply).toList ↔
      key' = key ∧ membership = none ∧ membership' = some m := by
  have unchanged (nothing : .joined key' m ∉ (entryOf key op reply).toList) :
      .joined key' m ∈ (entryOf key op reply).toList ↔
        key' = key ∧ membership = none ∧ membership = some m := by
    refine iff_of_false nothing ?_
    rintro ⟨-, free, taken⟩
    simp [free] at taken
  cases effect with
  | failed op e => exact unchanged (by cases op <;> simp [entryOf])
  | asked op reply question =>
    apply unchanged
    rcases question with rfl | rfl <;> simp [entryOf]
  | created => exact unchanged (by simp [entryOf])
  | destroyed => exact unchanged (by simp [entryOf])
  | synced op m f sync held found member => exact unchanged (by cases op <;> simp [entryOf])
  | joined federation federate id f g h owed free connected found ok =>
    simp [entryOf, free, eq_comm]
  | resigned m f held found => simp [entryOf]

section Request

variable {key : ParticipantId} {p : Participant} {op : Operation} {reply : Except RtiError Reply}
  {membership : Option Membership} (h : Agrees a n past r) (hp : n.participants[key]? = some p)
  (effect : OperationEffect r p.link p.membership op reply r' membership)
  (few_joins : joins ((entryOf key op reply).toList ++ past) < 2 ^ 32)
include h hp effect few_joins

theorem shift : Shift r r' p.link p.membership membership :=
  shift_of_effect h.counted effect few_joins fun m hm => ⟨_, (h.held key p hp m hm).2⟩

theorem joined_cases {key' : ParticipantId} {m : Membership}
    (hm : .joined key' m ∈ (entryOf key op reply).toList ++ past) :
    .joined key' m ∈ past ∨ key' = key ∧ ¬ r.Issued m ∧ r'.Issued m := by
  rcases List.mem_append.mp hm with hm | hm
  · obtain ⟨same, free, taken⟩ := (joined_mem_entryOf_iff effect key' m).mp hm
    rcases (h.shift hp effect few_joins).membership_cases taken with holds | ⟨-, new, issued, -⟩
    · simp [free] at holds
    · exact Or.inr ⟨same, new, issued⟩
  · exact Or.inl hm

theorem held_own {m : Membership} (hm : m ∈ membership) :
    .joined key m ∈ (entryOf key op reply).toList ++ past ∧ r'.Seats m (some p.mailbox) := by
  have shift := h.shift hp effect few_joins
  rcases shift.membership_cases hm with before | ⟨free, -, -, id, session, sits⟩
  · obtain ⟨old, sits⟩ := h.held key p hp m before
    exact ⟨List.mem_append_right _ old, shift.seats_of_seats sits fun _ => hm⟩
  · have entered := (joined_mem_entryOf_iff effect key m).mpr ⟨rfl, free, hm⟩
    rw [(h.connected key p hp).2 id session] at sits
    exact ⟨List.mem_append_left _ entered, sits⟩

/-- A request takes nobody's seat but the caller's own. -/
theorem held_other {key' : ParticipantId} {p' : Participant} {m : Membership} (other : key ≠ key')
    (hp' : n.participants[key']? = some p') (hm : m ∈ p'.membership) :
    .joined key' m ∈ (entryOf key op reply).toList ++ past ∧ r'.Seats m (some p'.mailbox) := by
  obtain ⟨old, sits⟩ := h.held key' p' hp' m hm
  refine ⟨List.mem_append_right _ old,
    (h.shift hp effect few_joins).seats_of_seats sits fun before => ?_⟩
  have mine := (h.held key p hp m before).1
  exact absurd (h.once key key' m m mine old rfl rfl) other

theorem seated_cases {m : Membership} {s : Option SessionId} (hs : r'.Seats m s) :
    ∃ key' id, s = some id ∧ .connected key' id ∈ past ∧
      .joined key' m ∈ (entryOf key op reply).toList ++ past ∧
      (key' = key → membership = some m) ∧
      (key' ≠ key → ∀ p' : Participant, n.participants[key']? = some p' →
        p'.membership = some m) := by
  obtain ⟨known, linked⟩ := h.connected key p hp
  rcases (h.shift hp effect few_joins).seats_cases hs with
    ⟨sits, stays⟩ | ⟨free, taken, id, session, rfl⟩
  · obtain ⟨key', id, hid, known', old, holds⟩ := h.seated m s sits
    refine ⟨key', id, hid, known', List.mem_append_right _ old, ?_, fun _ => holds⟩
    rintro rfl
    exact stays (holds p hp)
  · have entered := (joined_mem_entryOf_iff effect key m).mpr ⟨rfl, free, taken⟩
    rw [linked id session]
    refine ⟨key, _, rfl, known, List.mem_append_left _ entered, fun _ => taken, ?_⟩
    intro other
    exact absurd rfl other

theorem request (mailboxes : ExtTreeMap SessionId Mailbox)
    (few_creates : creates ((entryOf key op reply).toList ++ past) < 2 ^ 32) :
    Agrees a ((n.revised a r' mailboxes).setParticipant key { p with membership })
      ((entryOf key op reply).toList ++ past) r' := by
  have connected {key' : ParticipantId} {id : SessionId}
      (hid : .connected key' id ∈ (entryOf key op reply).toList ++ past) :
      .connected key' id ∈ past :=
    (List.mem_append.mp hid).resolve_left (connected_not_mem_entryOf key op reply key' id)
  exact {
    served := ⟨h.served.attached, h.served.listening, by simp [revised, setParticipant]⟩
    counted := counted_of_effect h.counted effect few_creates few_joins
    issued := by
      intro key' m hm
      rcases h.joined_cases hp effect few_joins hm with old | ⟨-, -, issued⟩
      · exact issued_of_effect h.counted effect few_creates few_joins (h.issued key' m old)
      · exact issued
    keyed := by
      intro key' id hid
      exact h.keyed key' id (connected hid)
    identified := by
      intro key' id₁ id₂ h₁ h₂
      exact h.identified key' id₁ id₂ (connected h₁) (connected h₂)
    connected := by
      intro key' p' hp'
      rcases getElem?_insert_eq_some_iff.mp hp' with ⟨rfl, rfl⟩ | ⟨-, hp'⟩
      · obtain ⟨known, linked⟩ := h.connected key p hp
        exact ⟨List.mem_append_right _ known, linked⟩
      · obtain ⟨known, linked⟩ := h.connected key' p' hp'
        exact ⟨List.mem_append_right _ known, linked⟩
    once := by
      intro key₁ key₂ m₁ m₂ h₁ h₂ federation federate
      rcases h.joined_cases hp effect few_joins h₁, h.joined_cases hp effect few_joins h₂ with
        ⟨old₁ | ⟨rfl, new₁, -⟩, old₂ | ⟨rfl, new₂, -⟩⟩
      · exact h.once key₁ key₂ m₁ m₂ old₁ old₂ federation federate
      · exact absurd ((h.issued key₁ m₁ old₁).congr federation federate) new₂
      · exact absurd ((h.issued key₂ m₂ old₂).congr federation.symm federate.symm) new₁
      · rfl
    held := by
      intro key' p' hp' m hm
      rcases getElem?_insert_eq_some_iff.mp hp' with ⟨rfl, rfl⟩ | ⟨other, hp'⟩
      · exact h.held_own hp effect few_joins hm
      · exact h.held_other hp effect few_joins other hp' hm
    seated := by
      intro m s hs
      obtain ⟨key', id, hid, known, joined, own, others⟩ :=
        h.seated_cases hp effect few_joins hs
      refine ⟨key', id, hid, List.mem_append_right _ known, joined, ?_⟩
      intro p' hp'
      rcases getElem?_insert_eq_some_iff.mp hp' with ⟨rfl, rfl⟩ | ⟨other, hp'⟩
      · exact own rfl
      · exact others (Ne.symm other) p' hp' }

end Request

theorem call (h : Agrees a n past r) (c : Call)
    (few_creates : creates ((n.call c).1.toList ++ past) < 2 ^ 32)
    (few_joins : joins ((n.call c).1.toList ++ past) < 2 ^ 32) :
    ∃ r', Agrees a (n.call c).2 ((n.call c).1.toList ++ past) r' := by
  cases c with
  | connect config =>
    simp only [Network.call]
    split
    · rename_i key n' ok
      obtain ⟨id, exchange, link, rfl, session, attached, rfl⟩ := connectSession_eq ok
      simp only [ExtTreeMap.getElem?_insert_self]
      exact ⟨r, h.connect attached session⟩
    · exact ⟨r, h⟩
  | request key op =>
    cases hp : n.participants[key]? with
    | none =>
      simp only [Network.call, onParticipant, hp]
      exact ⟨r, h⟩
    | some p =>
      obtain ⟨reply, r', membership, mailboxes, performed, effect⟩ :=
        perform_effect h.served h.counted.coherent key p op
      simp only [Network.call, onParticipant, hp, performed] at few_creates few_joins ⊢
      exact ⟨r', h.request hp effect few_joins mailboxes few_creates⟩
  | broadcast key payload =>
    cases hp : n.participants[key]? with
    | none =>
      simp only [Network.call, onParticipant, hp]
      exact ⟨r, h⟩
    | some p =>
      simp only [Network.call, onParticipant, hp]
      split
      · rename_i n' ok
        obtain ⟨mailboxes, rfl⟩ := sendBroadcast_eq h.served ok
        exact ⟨r, h.narrow ⟨h.served.attached, h.served.listening, h.served.kept⟩ rfl
          fun key' p' hp' => ⟨p', hp', rfl, rfl, fun _ hid => hid⟩⟩
      · exact ⟨r, h⟩
  | disconnect key =>
    cases hp : n.participants[key]? with
    | none =>
      simp only [Network.call, onParticipant, hp]
      exact ⟨r, h⟩
    | some p =>
      simp only [Network.call, onParticipant, hp]
      exact ⟨r, h.disconnect hp⟩
  | drop key =>
    cases hp : n.participants[key]? with
    | none =>
      simp only [Network.call, onParticipant, hp]
      exact ⟨r, h⟩
    | some p =>
      simp only [Network.call, onParticipant, hp]
      have gone := h.disconnect hp
      refine ⟨r, gone.narrow ⟨gone.served.attached, gone.served.listening, gone.served.kept⟩ rfl ?_⟩
      intro key' p' hp'
      exact ⟨p', (getElem?_erase_eq_some_iff.mp hp').2, rfl, rfl, fun _ hid => hid⟩

theorem start {config : Config} (empty : n.participants = ∅)
    (started : n.startAuthority config = .ok (a, n')) :
    Agrees a n' [] { policy := config.resignPolicy } := by
  obtain ⟨served, same, -⟩ := startAuthority_served started
  have nobody (key : ParticipantId) : n'.participants[key]? = none := by simp [same, empty]
  exact {
    served := served
    counted := ⟨⟨by simp, by simp, by simp, by simp⟩, rfl, by simp⟩
    issued := nofun
    keyed := nofun
    identified := nofun
    connected := fun key p hp => by simp [nobody] at hp
    once := nofun
    held := fun key p hp => by simp [nobody] at hp
    seated := fun m s ⟨f, hf, _⟩ => by simp at hf }

end Agrees

/-- What the sessions hold and what the authority's registry holds, against each other. -/
structure Agreement (a : RunningAuthority) (n : Network) (past : Journal) : Prop where
  /-- A session that holds a membership sits in the one federation of that name and handle, with
  the id it got on connecting. -/
  held : ∀ (key : ParticipantId) (p : Participant) (m : Membership),
    n.participants[key]? = some p → p.membership = some m →
      .connected key p.mailbox ∈ past ∧
      ∃ r f, n.registries[a.registry]? = some r ∧ r.lookup m.federationName = .ok f ∧
        r.lookupHandle m.federation = .ok f ∧
        f.federates[m.federate]? = some ⟨m.federateName, m.federate, some p.mailbox⟩
  apart : ∀ (key₁ key₂ : ParticipantId) (p₁ p₂ : Participant) (m₁ m₂ : Membership),
    n.participants[key₁]? = some p₁ → n.participants[key₂]? = some p₂ →
    p₁.membership = some m₁ → p₂.membership = some m₂ →
    m₁.federation = m₂.federation → m₁.federate = m₂.federate → key₁ = key₂
  /-- A federate was joined by one session, whose id it records and which holds just that
  membership for as long as it exists. -/
  seated : ∀ (r : Registry) (name : String) (f : Federation) (h : FederateHandle) (e : Federate),
    n.registries[a.registry]? = some r → r.lookup name = .ok f → f.federates[h]? = some e →
      ∃ key id, e.session = some id ∧ .connected key id ∈ past ∧
        .joined key ⟨name, f.handle, e.name, h⟩ ∈ past ∧
        (∀ key' m, .joined key' m ∈ past → m.federation = f.handle → m.federate = h →
          key' = key) ∧
        ∀ p : Participant, n.participants[key]? = some p →
          p.mailbox = id ∧ p.membership = some ⟨name, f.handle, e.name, h⟩

theorem Agrees.agreement (h : Agrees a n past r) : Agreement a n past where
  held := by
    intro key p m hp hm
    obtain ⟨-, f, hf, same, sits⟩ := h.held key p hp m hm
    refine ⟨(h.connected key p hp).1, r, f, h.served.kept, lookup_eq_ok_iff.mpr hf, ?_, sits⟩
    exact h.counted.coherent.lookupHandle_eq_ok_iff.mpr ⟨_, hf, same⟩
  apart := by
    intro key₁ key₂ p₁ p₂ m₁ m₂ hp₁ hp₂ hm₁ hm₂
    exact h.once key₁ key₂ m₁ m₂ (h.held key₁ p₁ hp₁ m₁ hm₁).1 (h.held key₂ p₂ hp₂ m₂ hm₂).1
  seated := by
    intro r' name f k e hr found he
    cases hr.symm.trans h.served.kept
    have hf := lookup_eq_ok_iff.mp found
    obtain ⟨same, -⟩ := h.counted.coherent.federates name f hf k e he
    have sits : r.Seats ⟨name, f.handle, e.name, k⟩ e.session := by
      refine ⟨f, hf, rfl, ?_⟩
      rw [he, ← same]
    obtain ⟨key, id, hid, known, joined, holds⟩ := h.seated _ _ sits
    refine ⟨key, id, hid, known, joined, fun key' m hm federation federate => ?_, fun p hp => ?_⟩
    · exact h.once key' key m _ hm joined federation federate
    · exact ⟨h.identified key p.mailbox id (h.connected key p hp).1 known, holds p hp⟩

section Runs

variable {config : Config} (empty : n.participants = ∅)
  (started : n.startAuthority config = .ok (a, n'))
include empty started

theorem after_agrees (run : List Call) (few_creates : creates (n'.journal run) < 2 ^ 32)
    (few_joins : joins (n'.journal run) < 2 ^ 32) :
    ∃ r, Agrees a (n'.after run) (n'.journal run) r := by
  induction run with
  | nil => exact ⟨_, Agrees.start empty started⟩
  | cons c earlier ih =>
    obtain ⟨r, h⟩ := ih (Nat.lt_of_le_of_lt (creates_tail _ _) few_creates)
      (Nat.lt_of_le_of_lt (joins_tail _ _) few_joins)
    exact h.call c few_creates few_joins

/-- After every run of calls under one authority the sessions and the registry agree. -/
theorem sessions_agree (run : List Call) (few_creates : creates (n'.journal run) < 2 ^ 32)
    (few_joins : joins (n'.journal run) < 2 ^ 32) :
    Agreement a (n'.after run) (n'.journal run) := by
  obtain ⟨r, h⟩ := after_agrees empty started run few_creates few_joins
  exact h.agreement

end Runs

def opened : Network :=
  match ({} : Network).startAuthority {} with
  | .ok (_, n) => n
  | .error _ => {}

/-- Two sessions of one federation. The second disconnects and keeps its membership; the first
resigns, fails to destroy what is occupied, and joins again. -/
def visit : List Call :=
  [.request 2 (.join "alpha" "red"), .request 2 (.destroy "alpha"), .request 2 .resign,
    .disconnect 3, .broadcast 3 [1], .request 3 (.join "alpha" "blue"),
    .request 2 (.join "alpha" "red"), .request 2 (.create "alpha" ⟨[]⟩ .ieee1516e),
    .connect {}, .connect {}]

theorem visit_agrees :
    ({} : Network).participants = ∅ ∧
      ({} : Network).startAuthority {} = .ok (⟨{}, 0, 1⟩, opened) ∧
      creates (opened.journal visit) < 2 ^ 32 ∧ joins (opened.journal visit) < 2 ^ 32 ∧
      Agreement ⟨{}, 0, 1⟩ (opened.after visit) (opened.journal visit) := by
  have started : ({} : Network).startAuthority {} = .ok (⟨{}, 0, 1⟩, opened) := rfl
  have few_creates : creates (opened.journal visit) < 2 ^ 32 := by decide
  have few_joins : joins (opened.journal visit) < 2 ^ 32 := by decide
  exact ⟨rfl, started, few_creates, few_joins,
    sessions_agree rfl started visit few_creates few_joins⟩

end HlaCoordination.Network
