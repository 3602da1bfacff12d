import HlaCoordination.Proofs.Network.Absence
import HlaCoordination.Proofs.Network.Attachment
import HlaCoordination.Proofs.Network.Turns
import Mathlib.Data.List.Duplicate

/-! Who gets a broadcast. The audience is told by the handles of federates and the notice goes to
the ids of sessions. Under one authority, as long as the ids of sessions have not run out, an id
belongs to one session, and a session holds at most one federate; so nobody gets a notice twice, and
nobody gets his own. Runs and journals are listed newest first. -/
namespace HlaCoordination

open Std Session

theorem count_filterMap_le_one {α β : Type} [DecidableEq β] {l : List α} {φ : α → Option β} {b : β}
    (distinct : l.Nodup)
    (sole : ∀ x ∈ l, ∀ y ∈ l, φ x = some b → φ y = some b → x = y) :
    (l.filterMap φ).count b ≤ 1 := by
  by_contra twice
  have pair : List.Sublist [b, b] (l.filterMap φ) := by
    apply List.duplicate_iff_sublist.mp
    apply List.duplicate_iff_two_le_count.mpr
    omega
  have apart : l.Pairwise fun x y => ∀ c, φ x = some c → ∀ c', φ y = some c' →
      ¬ (c = b ∧ c' = b) := by
    refine distinct.imp_of_mem ?_
    rintro x y hx hy other c hc c' hc' ⟨rfl, rfl⟩
    exact other (sole x hx y hy hc hc')
  have alone := (List.pairwise_filterMap.mpr apart).sublist pair
  simp at alone

theorem Federation.Coherent.values_nodup {f : Federation} (hf : f.Coherent) :
    f.federates.values.Nodup := by
  have keys : f.federates.values.map Federate.handle = f.federates.keys := by
    rw [values_eq_map_snd, List.map_map, ← ExtTreeMap.map_fst_toList_eq_keys]
    apply List.map_congr_left
    rintro ⟨h, e⟩ entry
    exact (hf h e (ExtTreeMap.mem_toList_iff_getElem?_eq_some.mp entry)).1
  apply List.Nodup.of_map Federate.handle
  rw [keys]
  exact ExtTreeMap.nodup_keys

namespace Network

variable {a : RunningAuthority} {n n' : Network} {r : Registry} {past : Journal}
  {key key' : ParticipantId} {p : Participant} {id : SessionId}

def arrivals : Journal → Marks
  | [] => []
  | .connected key id :: past => .connected key id :: arrivals past
  | .created .. :: past | .joined .. :: past => arrivals past

theorem mem_arrivals_iff : .connected key id ∈ arrivals past ↔ .connected key id ∈ past := by
  induction past with
  | nil => simp [arrivals]
  | cons entry past ih => cases entry <;> simp [arrivals, ih]

theorem arrivals_entryOf (key : ParticipantId) (op : Operation) (reply : Except RtiError Reply)
    (past : Journal) : arrivals ((entryOf key op reply).toList ++ past) = arrivals past := by
  unfold entryOf
  split <;> rfl

def ids (past : Journal) : List SessionId := handedOut (arrivals past)

/-- Nobody has come to the exchange, and nobody has left. -/
structure Stayed (n n' : Network) : Prop where
  exchange : ∃ mailboxes, n'.exchange = { n.exchange with mailboxes }
  linked : n'.linked = n.linked

theorem linked_setParticipant (n : Network) (exchange : Exchange) (key : ParticipantId)
    (p : Participant) (key' : ParticipantId) :
    ({ n with exchange }.setParticipant key p).linked key' =
      if key = key' then p.link.session else n.linked key' :=
  congrFun (congrArg Roster.sessions (roster_setParticipant n exchange key p)) key'

namespace Stayed

theorem refl (n : Network) : Stayed n n := ⟨⟨n.exchange.mailboxes, rfl⟩, rfl⟩

theorem trans {n'' : Network} (h : Stayed n n') (h' : Stayed n' n'') : Stayed n n'' := by
  obtain ⟨boxes, exchange⟩ := h.exchange
  obtain ⟨boxes', exchange'⟩ := h'.exchange
  refine ⟨⟨boxes', ?_⟩, h'.linked.trans h.linked⟩
  rw [exchange', exchange]

theorem tended (h : Tended n n')
    (exchange : ∃ mailboxes, n'.exchange = { n.exchange with mailboxes }) : Stayed n n' := by
  refine ⟨exchange, ?_⟩
  have links (m : Network) (key : ParticipantId) : m.linked key =
      (m.participants[key]?.map standing).bind fun standing => standing.1.session := by
    rw [Option.bind_map]
    rfl
  funext key
  rw [links, links, h.standing key]

theorem poll (n : Network) (p : Participant) : Stayed n (n.poll p).2 := by
  unfold Network.poll
  split
  · exact .refl n
  · simp only [Exchange.take]
    split
    · exact .refl n
    · exact ⟨⟨_, rfl⟩, rfl⟩

theorem settle (n : Network) : Stayed n n.settle := by
  apply tended (.settle n)
  apply settle_of_steps (P := fun m => ∃ mailboxes, m.exchange = { n.exchange with mailboxes })
    ⟨n.exchange.mailboxes, rfl⟩
  rintro m key p - ⟨mailboxes, same⟩
  simp only [settleParticipant, Network.setParticipant, Exchange.keep, same]
  exact ⟨_, rfl⟩

theorem setParticipant (there : n.participants[key]? = some p) (p' : Participant)
    (same : p'.link = p.link) : Stayed n (n.setParticipant key p') := by
  refine ⟨⟨n.exchange.mailboxes, rfl⟩, ?_⟩
  have unchanged : n.linked key = p'.link.session := by rw [linked_of_there there, same]
  have roster := roster_setParticipant n n.exchange key p'
  exact congrArg Roster.sessions (roster.trans (Roster.link_self unchanged))

theorem rework (n : Network) (id : RegistryId) (act : Registry → Registry) :
    Stayed n (n.rework id act) := by
  unfold Network.rework
  split
  · exact ⟨⟨n.exchange.mailboxes, rfl⟩, rfl⟩
  · exact .refl n

theorem onParticipant (n : Network) (key : ParticipantId)
    {act : Participant → Option Entry × Network}
    (acts : ∀ p : Participant, n.participants[key]? = some p → Stayed n (act p).2) :
    Stayed n (n.onParticipant key act).2 :=
  onParticipant_cases (P := fun outcome => Stayed n outcome.2) (.refl n) acts

end Stayed

/-- The exchange hands out ids by counting, and who is attached is a session. -/
structure Housed (n : Network) (past : Journal) : Prop where
  ids : Consecutive (ids past)
  counter : n.exchange.counter.issued = UInt64.ofNat (Network.ids past).length
  owned : ∀ id ∈ n.exchange.attached, ∃ key, n.linked key = some id

namespace Housed

theorem key_unique (h : Housed n past) (few : (Network.ids past).length < 2 ^ 64)
    (connected : .connected key id ∈ past) (connected' : .connected key' id ∈ past) : key = key' :=
  session_unique (h.ids.nodup few) (mem_arrivals_iff.mpr connected)
    (mem_arrivals_iff.mpr connected')

theorem stayed (h : Housed n past) (s : Stayed n n') : Housed n' past := by
  obtain ⟨mailboxes, exchange⟩ := s.exchange
  constructor
  · exact h.ids
  · rw [exchange]
    exact h.counter
  · rw [exchange, s.linked]
    exact h.owned

theorem connect (h : Housed n past) {config : Config} (new : n.linked n.issued = none)
    (ok : n.connectSession config = .ok (key, n')) :
    ∃ p, n'.participants[key]? = some p ∧ Housed n' (.connected key p.mailbox :: past) := by
  unfold connectSession at ok
  split at ok
  · cases tried : n.exchange.attachSession config.noticeQueueCapacity.toNat with
    | error e => simp [tried] at ok
    | ok result =>
      obtain ⟨id, exchange⟩ := result
      simp only [tried, fresh, Except.ok.injEq, Prod.mk.injEq] at ok
      obtain ⟨rfl, rfl⟩ := ok
      obtain ⟨-, rfl, rfl⟩ := Exchange.attachSession_eq_ok_iff.mp tried
      have next := ofNat_succ_length h.counter
      have links := linked_setParticipant { n with issued := n.issued + 1 }
      refine ⟨_, ExtTreeMap.getElem?_insert_self, ⟨next, h.ids⟩, next, ?_⟩
      intro id among
      -- The new session owns the new id; who owned an old one has kept its place.
      rcases ExtTreeSet.mem_insert.mp among with here | old
      · refine ⟨n.issued, (links _ _ _ _).trans ?_⟩
        rw [if_pos rfl, Std.compare_eq_iff_eq.mp here]
      · obtain ⟨key, owner⟩ := h.owned id old
        have other : n.issued ≠ key := by
          rintro rfl
          cases new.symm.trans owner
        refine ⟨key, (links _ _ _ _).trans ?_⟩
        rw [if_neg other]
        exact owner
  · cases ok

theorem leave (h : Housed n past) (there : n.participants[key]? = some p) :
    Housed (n.disconnectSession key p) past := by
  have here := linked_of_there there
  unfold disconnectSession disconnectLink
  cases linked : p.link.session with
  | none => exact h.stayed (.setParticipant there _ rfl)
  | some id =>
    refine ⟨h.ids, h.counter, ?_⟩
    intro id' among
    -- The one id that the session owned is no longer in the table.
    obtain ⟨other, attached⟩ := ExtTreeSet.mem_erase.mp among
    obtain ⟨key', owner⟩ := h.owned id' attached
    refine ⟨key', (linked_setParticipant _ _ _ _ _).trans ?_⟩
    split
    · subst key'
      rw [here, linked] at owner
      cases owner
      exact absurd Std.compare_self other
    · exact owner

theorem drop (h : Housed n past) (there : n.participants[key]? = some p) :
    Housed (n.dropSession key p) past := by
  have gone := h.leave there
  have links : (n.dropSession key p).linked = (n.disconnectSession key p).linked :=
    congrArg Roster.sessions (dropSession_roster n key p)
  refine ⟨gone.ids, gone.counter, ?_⟩
  rw [links]
  exact gone.owned

theorem onParticipant (h : Housed n past) (key : ParticipantId)
    {act : Participant → Option Entry × Network}
    (acts : ∀ p : Participant, n.participants[key]? = some p →
      Housed (act p).2 ((act p).1.toList ++ past)) :
    Housed (n.onParticipant key act).2 ((n.onParticipant key act).1.toList ++ past) :=
  onParticipant_cases (P := fun outcome => Housed outcome.2 (outcome.1.toList ++ past)) h acts

theorem call (h : Housed n past) (agrees : Agrees a n past r) (c : Call) :
    Housed (n.call c).2 ((n.call c).1.toList ++ past) := by
  cases c with
  | connect config =>
    have new : n.linked n.issued = none := by
      cases there : n.participants[n.issued]? with
      | none => simp only [linked, there, Option.bind_none]
      | some p =>
        exact absurd (agrees.keyed _ _ (agrees.connected _ p there).1) (Nat.lt_irrefl _)
    simp only [Network.call]
    split
    · obtain ⟨p, there, housed⟩ := h.connect new ‹_›
      rw [there]
      exact housed
    · exact h
  | request key op =>
    apply h.onParticipant
    intro p there
    obtain ⟨reply, r', membership, mailboxes, performed, -⟩ :=
      perform_effect agrees.served agrees.counted.coherent key p op
    have revised : Stayed n (n.revised a r' mailboxes) := ⟨⟨mailboxes, rfl⟩, rfl⟩
    have kept : (n.revised a r' mailboxes).participants[key]? = some p := there
    have seated : Stayed (n.revised a r' mailboxes) (n.perform key p op).2 := by
      rw [performed]
      exact .setParticipant kept _ rfl
    obtain ⟨ids, counter, owned⟩ := h.stayed (revised.trans seated)
    simp only [performed] at counter owned ⊢
    exact ⟨by rwa [Network.ids, arrivals_entryOf], by rwa [Network.ids, arrivals_entryOf], owned⟩
  | broadcast key payload =>
    apply h.onParticipant
    intro p there
    split
    · rename_i n' ok
      obtain ⟨mailboxes, rfl⟩ := sendBroadcast_eq agrees.served ok
      exact h.stayed ⟨⟨mailboxes, rfl⟩, rfl⟩
    · exact h
  | disconnect key => exact h.onParticipant key fun p there => h.leave there
  | drop key => exact h.onParticipant key fun p there => h.drop there

theorem turn (h : Housed n past) (agrees : Agrees a n past r) (t : Turn) :
    Housed (turn a n t).2 ((turn a n t).1.toList ++ past) := by
  cases t with
  | call c => exact h.call agrees c
  | poll key => exact h.stayed (.onParticipant n key fun p _ => .poll n p)
  | listen key l => exact h.stayed (.onParticipant n key fun p there => .setParticipant there _ rfl)
  | unlisten key => exact h.stayed (.onParticipant n key fun p there => .setParticipant there _ rfl)
  | settle => exact h.stayed (.settle n)
  | restore federation s => exact h.stayed (.rework n a.registry _)
  | finishRestore federation => exact h.stayed (.rework n a.registry _)

end Housed

theorem played_housed {config : Config} (empty : n.participants = ∅) (unused : n.exchange = {})
    (started : n.startAuthority config = .ok (a, n')) (run : List Turn)
    (few_creates : creates (n'.turnJournal a run) < 2 ^ 32)
    (few_joins : joins (n'.turnJournal a run) < 2 ^ 32) :
    Housed (n'.played a run) (n'.turnJournal a run) := by
  induction run with
  | nil =>
    have exchange := startAuthority_exchange started
    rw [unused] at exchange
    constructor
    · trivial
    · rw [played, exchange]
      rfl
    · rw [played, exchange]
      simp
  | cons t earlier ih =>
    have few_creates := Nat.lt_of_le_of_lt (creates_tail _ _) few_creates
    have few_joins := Nat.lt_of_le_of_lt (joins_tail _ _) few_joins
    obtain ⟨r, agrees⟩ := played_agrees empty started earlier few_creates few_joins
    exact (ih few_creates few_joins).turn agrees t

section Present

variable {f : Federation} {e : Federate} {F : FederationHandle} (agrees : Agrees a n past r)
include agrees

theorem seats_of_found (found : r.lookupHandle F = .ok f) (listed : e ∈ f.federates.values) :
    r.Seats ⟨f.name, F, e.name, e.handle⟩ e.session := by
  obtain ⟨name, hf, same⟩ := agrees.counted.coherent.lookupHandle_eq_ok_iff.mp found
  obtain ⟨h, he⟩ := mem_values_iff.mp listed
  obtain rfl := (agrees.counted.coherent.federates name f hf h e he).1
  refine ⟨f, ?_, same, he⟩
  rw [agrees.counted.coherent.named name f hf]
  exact hf

variable (housed : Housed n past) (few : (ids past).length < 2 ^ 64)
include housed few

theorem mailbox_unique {p' : Participant} (there : n.participants[key]? = some p)
    (there' : n.participants[key']? = some p') (same : p.mailbox = p'.mailbox) : key = key' := by
  have connected := (agrees.connected key p there).1
  rw [same] at connected
  exact housed.key_unique few connected (agrees.connected key' p' there').1

theorem holds_of_found (found : r.lookupHandle F = .ok f) (listed : e ∈ f.federates.values)
    (theirs : e.session = some p.mailbox) (there : n.participants[key]? = some p) :
    p.membership = some ⟨f.name, F, e.name, e.handle⟩ := by
  obtain ⟨key', id, same, connected, -, holds⟩ :=
    agrees.seated _ _ (seats_of_found agrees found listed)
  cases theirs.symm.trans same
  obtain rfl := housed.key_unique few (agrees.connected key p there).1 connected
  exact holds p there

theorem held_of_attached (found : r.lookupHandle F = .ok f) (listed : e ∈ f.federates.values)
    (theirs : e.session = some id) (attached : id ∈ n.exchange.attached) :
    ∃ (key : ParticipantId) (p : Participant), n.participants[key]? = some p ∧ p.mailbox = id ∧
      p.link.session = some id ∧ p.membership = some ⟨f.name, F, e.name, e.handle⟩ := by
  obtain ⟨key, owner⟩ := housed.owned id attached
  obtain ⟨p, there, linked⟩ := Option.bind_eq_some_iff.mp owner
  have reads := (agrees.connected key p there).2 id linked
  subst reads
  exact ⟨key, p, there, rfl, linked, holds_of_found agrees housed few found listed theirs there⟩

theorem count_sessionsExcept_le_one (found : r.lookupHandle F = .ok f) (h : FederateHandle)
    (attached : id ∈ n.exchange.attached) : (f.sessionsExcept (some h)).count id ≤ 1 := by
  obtain ⟨name, hf, -⟩ := agrees.counted.coherent.lookupHandle_eq_ok_iff.mp found
  have distinct := (agrees.counted.coherent.federates name f hf).values_nodup
  apply count_filterMap_le_one (distinct.filter _)
  intro e₁ listed₁ e₂ listed₂ theirs₁ theirs₂
  have listed₁ := (List.mem_filter.mp listed₁).1
  have listed₂ := (List.mem_filter.mp listed₂).1
  obtain ⟨key, p, there, rfl, -, holds₁⟩ :=
    held_of_attached agrees housed few found listed₁ theirs₁ attached
  have holds₂ := holds_of_found agrees housed few found listed₂ theirs₂ there
  have same := Option.some.inj (holds₁.symm.trans holds₂)
  obtain ⟨name₁, handle₁, session₁⟩ := e₁
  obtain ⟨name₂, handle₂, session₂⟩ := e₂
  obtain ⟨-, -, rfl, rfl⟩ := Membership.mk.inj same
  cases theirs₁.trans theirs₂.symm
  rfl

end Present

/-- What a broadcast does that the session `id` has sent as the federate `m` of the federation
`f`. -/
structure FansOut (n : Network) (f : Federation) (id : SessionId) (m : Membership)
    (payload : Octets) (n' : Network) : Prop where
  reflected : ∀ e ∈ f.federates.values, e.handle ≠ m.federate → ∀ id' ∈ e.session,
    n.exchange.Accepts id' →
      n'.exchange.mailbox id' =
        { n.exchange.mailbox id' with
          notices := (n.exchange.mailbox id').notices ++
            [.reflected m.federation m.federate payload] } ∧
      ∃ (key : ParticipantId) (p : Participant), n.participants[key]? = some p ∧
        p.mailbox = id' ∧ p.link.session = some id' ∧
        p.membership = some ⟨f.name, f.handle, e.name, e.handle⟩
  unheard : ∀ id', (∀ e ∈ f.federates.values, e.handle ≠ m.federate → e.session = some id' →
    ¬ n.exchange.Accepts id') → n'.exchange.mailbox id' = n.exchange.mailbox id'
  sender : n'.exchange.mailbox id = n.exchange.mailbox id
  /-- A session that is joined to another federation or to none gets nothing. -/
  elsewhere : ∀ (key : ParticipantId) (p : Participant), n.participants[key]? = some p →
    (∀ m' ∈ p.membership, m'.federation ≠ m.federation) →
      n'.exchange.mailbox p.mailbox = n.exchange.mailbox p.mailbox
  apart : ∀ (key₁ key₂ : ParticipantId) (p₁ p₂ : Participant), n.participants[key₁]? = some p₁ →
    n.participants[key₂]? = some p₂ → p₁.mailbox = p₂.mailbox → key₁ = key₂
  kept : ∃ mailboxes, n' = { n with exchange := { n.exchange with mailboxes } }

theorem Agrees.fansOut {f : Federation} {m : Membership} (agrees : Agrees a n past r)
    (housed : Housed n past) (few : (ids past).length < 2 ^ 64)
    (found : r.lookupHandle m.federation = .ok f)
    (seat : f.federates[m.federate]? = some ⟨m.federateName, m.federate, some id⟩)
    (payload : Octets) :
    FansOut n f id m payload (n.delivered (.reflected m.federation m.federate payload)
      (f.sessionsExcept (some m.federate))) := by
  have gains (id' : SessionId) := n.exchange.mailbox_deliver_single
    (.reflected m.federation m.federate payload) fun accepts : n.exchange.Accepts id' =>
      count_sessionsExcept_le_one agrees housed few found m.federate accepts.1
  obtain ⟨-, -, same⟩ := agrees.counted.coherent.lookupHandle_eq_ok_iff.mp found
  constructor
  · intro e listed other id' theirs accepts
    constructor
    · apply (gains id').trans (if_pos ⟨?_, accepts⟩)
      exact Federation.mem_sessionsExcept_iff.mpr ⟨e, listed, other, theirs⟩
    · rw [same]
      exact held_of_attached agrees housed few found listed theirs accepts.1
  · intro id' closed
    apply (gains id').trans (if_neg ?_)
    rintro ⟨among, accepts⟩
    obtain ⟨e, listed, other, theirs⟩ := Federation.mem_sessionsExcept_iff.mp among
    exact closed e listed other theirs accepts
  · apply (gains id).trans (if_neg ?_)
    rintro ⟨among, attached, -⟩
    obtain ⟨e, listed, other, theirs⟩ := Federation.mem_sessionsExcept_iff.mp among
    -- The session that is named would hold two federates, its own and another.
    obtain ⟨key, p, there, rfl, -, holds⟩ :=
      held_of_attached agrees housed few found listed theirs attached
    have own := holds_of_found agrees housed few found (mem_values_iff.mpr ⟨_, seat⟩) rfl there
    have same := Option.some.inj (holds.symm.trans own)
    exact other (congrArg Membership.federate same)
  · intro key p there stranger
    apply (gains p.mailbox).trans (if_neg ?_)
    rintro ⟨among, -⟩
    obtain ⟨e, listed, -, theirs⟩ := Federation.mem_sessionsExcept_iff.mp among
    exact stranger _ (holds_of_found agrees housed few found listed theirs there) rfl
  · intro key₁ key₂ p₁ p₂ there₁ there₂
    exact mailbox_unique agrees housed few there₁ there₂
  · obtain ⟨mailboxes, sent⟩ := n.exchange.deliver_eq
      (.reflected m.federation m.federate payload) (f.sessionsExcept (some m.federate))
    rw [delivered, sent]
    exact ⟨mailboxes, rfl⟩

end Network

end HlaCoordination
