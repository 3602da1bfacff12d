import HlaCoordination.Proofs.Network.Roster
import HlaCoordination.Proofs.Network.Succession

/-! How an authority is raised, step by step, and what is left behind if it does not come up. No
number is used before it has been given away, and without an authority nobody is attached, whatever
has happened on an exchange. -/
namespace HlaCoordination

open Std

namespace Network

variable {n n' : Network} {a : RunningAuthority} {r : Registry} {config : Config}
  {inbox : Except String Unit} {e : RtiError}

/-- What holds of the networks that there can be: without an authority nobody is attached, and no
number that is still to be given away is in use. -/
structure Established (n : Network) : Prop where
  convened : n.exchange.authority = none → n.exchange.attached = ∅
  endpoints : FreshEndpoints n
  registries : ∀ id, n.issued ≤ id → n.registries[id]? = none

def readied (n : Network) (config : Config) (bound : Option Inbox) : Network :=
  { n with
    issued := n.issued + 2
    endpoints := n.endpoints.insert n.issued
      { name := authorityName, capacity := config.noticeQueueCapacity.toNat, inbox := bound }
    registries := n.registries.insert (n.issued + 1) { policy := config.resignPolicy } }

def newcomer (n : Network) (config : Config) : RunningAuthority :=
  ⟨config, n.issued, n.issued + 1⟩

inductive Setback (n : Network) (config : Config) (inbox : Except String Unit) :
    RtiError → Prop where
  | unsupported (unsupported : config.connection.isSupported = false) :
      Setback n config inbox (.unsupportedConnection config.connection)
  | occupied (present : Attachment) (supported : config.connection.isSupported = true)
      (there : n.exchange.authority = some present) :
      Setback n config inbox (.internal (.authorityPresent present.name authorityName))
  | unstarted (cause : String) (supported : config.connection.isSupported = true)
      (vacant : n.exchange.authority = none) (failed : inbox = .error cause) :
      Setback n config inbox (.internal (.inboxNotStarted cause))

inductive Abandoned (n : Network) (config : Config) (inbox : Except String Unit) :
    Network → Prop where
  | unopened : Abandoned n config inbox n
  | unbound : Abandoned n config inbox (n.readied config none)
  | evicted (cause : String) (vacant : n.exchange.authority = none)
      (failed : inbox = .error cause) :
      Abandoned n config inbox
        { n.readied config none with
          exchange := { n.exchange with
            authority := some ⟨authorityName, n.issued⟩ }.detachAuthority
              "inbox thread failed to start" }

theorem raiseAuthority_of_unsupported (unsupported : config.connection.isSupported = false)
    (inbox : Except String Unit) :
    n.raiseAuthority config inbox = (.error (.unsupportedConnection config.connection), n) := by
  simp [raiseAuthority, openEndpoint, unsupported]

theorem raiseAuthority_of_supported (supported : config.connection.isSupported = true)
    (inbox : Except String Unit) :
    n.raiseAuthority config inbox =
      match (n.readied config (some (.registry (n.issued + 1)))).raiseEndpoint n.issued inbox with
      | (.error e, n') => (.error e, n'.disconnectEndpoint n.issued)
      | (.ok (), n') => (.ok (n.newcomer config), n') := by
  have bound (endpoint : Endpoint) (opened : Inbox) :
      (n.endpoints.insert n.issued endpoint).modify n.issued ({ · with inbox := some opened }) =
        n.endpoints.insert n.issued { endpoint with inbox := some opened } := by
    apply ExtTreeMap.ext_getElem?
    intro e
    simp only [ExtTreeMap.getElem?_modify, getElem?_insert_eq_ite, Std.compare_eq_iff_eq]
    split <;> simp_all
  simp only [raiseAuthority, openEndpoint, supported, if_true, fresh, openRegistry, bindInbox,
    bound]
  rfl

theorem connectEndpoint_readied (vacant : n.exchange.authority = none) (opened : Inbox) :
    (n.readied config (some opened)).connectEndpoint n.issued =
      .ok { n.readied config none with
        exchange := { n.exchange with authority := some ⟨authorityName, n.issued⟩ }
        endpoints := n.endpoints.insert n.issued
          { name := authorityName, capacity := config.noticeQueueCapacity.toNat,
            inbox := some opened, listening := some { inbox := opened } } } := by
  simp only [connectEndpoint, readied, ExtTreeMap.getElem?_insert_self, Exchange.attachAuthority,
    vacant, insert_insert]

theorem connectEndpoint_occupied {present : Attachment}
    (there : n.exchange.authority = some present) (opened : Inbox) :
    (n.readied config (some opened)).connectEndpoint n.issued =
      .error (.internal (.authorityPresent present.name authorityName)) := by
  simp only [connectEndpoint, readied, ExtTreeMap.getElem?_insert_self, Exchange.attachAuthority,
    there]

theorem disconnectEndpoint_readied (exchange : Exchange) (opened : Inbox) :
    ({ n.readied config (some opened) with exchange } : Network).disconnectEndpoint n.issued =
      { n.readied config none with exchange } := by
  simp only [disconnectEndpoint, readied, ExtTreeMap.getElem?_insert_self, insert_insert]
  rfl

theorem raiseAuthority_of_setback (setback : Setback n config inbox e) :
    ∃ n', n.raiseAuthority config inbox = (.error e, n') ∧ Abandoned n config inbox n' := by
  cases setback with
  | unsupported unsupported => exact ⟨n, raiseAuthority_of_unsupported unsupported inbox, .unopened⟩
  | occupied present supported there =>
    refine ⟨n.readied config none, ?_, .unbound⟩
    have kept : (n.readied config (some (.registry (n.issued + 1)))).disconnectEndpoint n.issued =
        n.readied config none := disconnectEndpoint_readied n.exchange (.registry (n.issued + 1))
    rw [raiseAuthority_of_supported supported]
    cases inbox with
    | ok =>
      simp only [raiseEndpoint, connectEndpoint_occupied there]
      exact congrArg (Prod.mk _) kept
    | error cause =>
      simp only [raiseEndpoint, connectInVain, connectEndpoint_occupied there]
      exact congrArg (Prod.mk _) kept
  | unstarted cause supported vacant failed =>
    subst failed
    refine ⟨_, ?_, .evicted cause vacant rfl⟩
    rw [raiseAuthority_of_supported supported]
    simp only [raiseEndpoint, connectInVain, connectEndpoint_readied vacant]
    exact congrArg (Prod.mk _) (disconnectEndpoint_readied _ _)

/-- An inbox that starts makes no difference, but that the network is kept after a failure, too. -/
theorem startAuthority_eq_raise (n : Network) (config : Config) :
    n.startAuthority config =
      match n.raiseAuthority config (.ok ()) with
      | (.ok a, n') => .ok (a, n')
      | (.error e, _) => .error e := by
  unfold startAuthority raiseAuthority
  cases n.openEndpoint authorityName config with
  | error e => rfl
  | ok opened =>
    obtain ⟨endpoint, n'⟩ := opened
    simp only [raiseEndpoint]
    cases ((n'.openRegistry config.resignPolicy).2.bindInbox endpoint
      (.registry (n'.openRegistry config.resignPolicy).1)).connectEndpoint endpoint <;> rfl

theorem setback_or_clear (n : Network) (config : Config) (inbox : Except String Unit) :
    (∃ e, Setback n config inbox e) ∨
      config.connection.isSupported = true ∧ n.exchange.authority = none ∧ inbox = .ok () := by
  cases supported : config.connection.isSupported with
  | false => exact Or.inl ⟨_, .unsupported supported⟩
  | true =>
    cases there : n.exchange.authority with
    | some present => exact Or.inl ⟨_, .occupied present supported there⟩
    | none =>
      cases inbox with
      | error cause => exact Or.inl ⟨_, .unstarted cause supported there rfl⟩
      | ok => exact Or.inr ⟨rfl, rfl, rfl⟩

theorem raiseAuthority_of_clear (supported : config.connection.isSupported = true)
    (vacant : n.exchange.authority = none) :
    ∃ endpoints, n.raiseAuthority config (.ok ()) = (.ok (n.newcomer config),
        { n.readied config none with
          exchange := { n.exchange with authority := some ⟨authorityName, n.issued⟩ }
          endpoints }) ∧
      Served (n.newcomer config)
        { n.readied config none with
          exchange := { n.exchange with authority := some ⟨authorityName, n.issued⟩ }
          endpoints } { policy := config.resignPolicy } := by
  rw [raiseAuthority_of_supported supported]
  simp only [raiseEndpoint, connectEndpoint_readied vacant]
  refine ⟨_, rfl, rfl, ?_, ?_⟩
  · simp [newcomer]
  · exact ExtTreeMap.getElem?_insert_self

theorem startAuthority_eq (started : n.startAuthority config = .ok (a, n')) :
    ∃ exchange endpoints, n' = { n.readied config none with exchange, endpoints } := by
  rw [startAuthority_eq_raise] at started
  rcases setback_or_clear n config (.ok ()) with ⟨e, setback⟩ | ⟨supported, vacant, -⟩
  · obtain ⟨n'', failed, -⟩ := raiseAuthority_of_setback setback
    rw [failed] at started
    cases started
  · obtain ⟨endpoints, done, -⟩ := raiseAuthority_of_clear supported vacant
    rw [done] at started
    cases started
    exact ⟨_, endpoints, rfl⟩

/-- What an authority left behind that did not come up is no part of the exchange. -/
theorem Abandoned.exchange (h : Abandoned n config inbox n')
    (spared : inbox = .ok () ∨ n.Established) : n'.exchange = n.exchange := by
  cases h with
  | unopened => rfl
  | unbound => rfl
  | evicted cause vacant failed =>
    rcases spared with starts | established
    · cases starts.symm.trans failed
    · have empty := established.convened vacant
      obtain ⟨⟨authority, attached, mailboxes, counter⟩, _⟩ := n
      cases vacant
      cases empty
      rfl

theorem Served.issued (hs : Served a n r) (h : n.Established) :
    a.endpoint < n.issued ∧ a.registry < n.issued := by
  constructor
  · by_contra above
    have free := h.endpoints a.endpoint (Nat.le_of_not_lt above)
    have listening := hs.listening
    rw [free] at listening
    cases listening
  · by_contra above
    cases (h.registries a.registry (Nat.le_of_not_lt above)).symm.trans hs.kept

open Roster

theorem convened_of_change {s s' : Roster} {mark : Option Mark} (change : Change s mark s')
    (convened : s.exchange.authority = none → s.exchange.attached = ∅) :
    s'.exchange.authority = none → s'.exchange.attached = ∅ := by
  cases change with
  | none => exact convened
  | attached name e vacant => exact nofun
  | detached e reason connected =>
    intro vacant
    cases present : s.exchange.authority with
    | none =>
      simp only [seat, Exchange.detachAuthority, Exchange.hasAuthority, present, Option.isSome_none,
        Bool.false_eq_true, if_false]
      exact convened present
    | some attachment =>
      simp only [seat, Exchange.detachAuthority, Exchange.hasAuthority, present, Option.isSome_some,
        if_true]
  | connected key id capacity exchange ok =>
    obtain ⟨present, -, rfl⟩ := Exchange.attachSession_eq_ok_iff.mp ok
    intro vacant
    simp only [link] at vacant
    rw [vacant] at present
    cases present
  | disconnected key id linked =>
    intro vacant
    simp only [link, Exchange.detachSession] at vacant ⊢
    rw [convened vacant]
    exact ExtTreeSet.erase_empty

namespace Established

variable {n n' : Network} {a : RunningAuthority} {r : Registry}

theorem quiet (h : Established n) (same : Undisturbed n n') (issued : n'.issued = n.issued)
    (attached : n'.exchange.attached = n.exchange.attached) : Established n' where
  convened vacant := by
    rw [same.authority] at vacant
    rw [attached, h.convened vacant]
  endpoints e above := by
    rw [issued] at above
    rw [same.endpoints, h.endpoints e above]
  registries id above := by
    rw [issued] at above
    rw [same.registries, h.registries id above]

theorem moved (h : Established n) {mark : Option Mark} (change : Change n.roster mark n'.roster)
    (numbered : FreshEndpoints n') (later : n.issued ≤ n'.issued)
    (same : n'.registries = n.registries) : Established n' where
  convened := convened_of_change change h.convened
  endpoints := numbered
  registries id above := by
    rw [same]
    exact h.registries id (Nat.le_trans later above)

theorem revised (h : Established n) (hs : Served a n r) (r' : Registry)
    (mailboxes : ExtTreeMap SessionId Mailbox) : Established (n.revised a r' mailboxes) where
  convened := h.convened
  endpoints := h.endpoints
  registries id above := by
    have other := Nat.ne_of_lt (Nat.lt_of_lt_of_le (hs.issued h).2 above)
    simp only [Network.revised, getElem?_insert_eq_ite, other, if_false]
    exact h.registries id above

theorem transport (h : Established n) (staffed : Staffed n) (link : SessionLink)
    (c : MessageContext) : Established (transport link c n).2 := by
  unfold Network.transport transportWith
  cases link.session with
  | none => exact h
  | some id =>
    simp only [submitWith]
    split
    · rcases staffed with vacant | ⟨a, r, hs⟩
      · simp only [vacant]
        exact h
      · obtain ⟨mailboxes, served⟩ :=
          serveControl_of_served hs { c with message := c.message.submittedBy id }
        simp only [hs.attached, served]
        exact h.revised hs _ _
    · exact h

theorem perform (h : Established n) (staffed : Staffed n) (key : ParticipantId) (p : Participant)
    (op : Operation) : Established (n.perform key p op).2 := by
  have seated :
      Established (Session.perform (Network.transport p.link) op ⟨p.membership, n⟩).2.link := by
    rcases Session.perform_link (Network.transport p.link) op ⟨p.membership, n⟩ with
      idle | ⟨c, sent⟩
    · rw [idle]
      exact h
    · rw [sent]
      exact h.transport staffed p.link c
  exact seated.quiet ⟨rfl, rfl, rfl⟩ rfl rfl

theorem onParticipant (h : Established n) (key : ParticipantId)
    {act : Participant → Option Entry × Network}
    (acts : ∀ p, n.participants[key]? = some p → Established (act p).2) :
    Established (n.onParticipant key act).2 :=
  onParticipant_cases (P := fun outcome => Established outcome.2) h acts

theorem sendBroadcast (h : Established n) (staffed : Staffed n) {p : Participant}
    {payload : Octets} (ok : n.sendBroadcast p payload = .ok n') : Established n' := by
  rcases staffed with vacant | ⟨a, r, hs⟩
  · exact absurd ok (sendBroadcast_of_vacant vacant)
  · obtain ⟨mailboxes, rfl⟩ := sendBroadcast_eq hs ok
    exact h.quiet ⟨rfl, rfl, rfl⟩ rfl rfl

theorem disconnectSession (h : Established n) {key : ParticipantId} {p : Participant}
    (there : n.participants[key]? = some p) : Established (n.disconnectSession key p) := by
  obtain ⟨change, numbered⟩ := disconnectSession_change h.endpoints there
  obtain ⟨attached, link, callbacks, -, done⟩ := disconnectSession_eq n key p
  exact h.moved change numbered (Nat.le_of_eq (by rw [done])) (by rw [done])

theorem call (h : Established n) (staffed : Staffed n) (c : Call) : Established (n.call c).2 := by
  cases c with
  | connect config =>
    simp only [Network.call]
    split
    · rename_i key n' ok
      obtain ⟨change, numbered⟩ := connectSession_change h.endpoints ok
      obtain ⟨id, exchange, link, -, -, -, rfl⟩ := connectSession_eq ok
      exact h.moved change numbered (Nat.le_succ _) rfl
    · exact h
  | request key op => exact h.onParticipant key fun p _ => h.perform staffed key p op
  | broadcast key payload =>
    apply h.onParticipant key
    intro p _
    split
    · exact h.sendBroadcast staffed ‹_›
    · exact h
  | disconnect key => exact h.onParticipant key fun p there => h.disconnectSession there
  | drop key =>
    apply h.onParticipant key
    intro p there
    exact (h.disconnectSession there).quiet ⟨rfl, rfl, rfl⟩ rfl rfl

theorem poll (h : Established n) (p : Participant) : Established (n.poll p).2 := by
  unfold Network.poll
  split
  · exact h
  · simp only [Exchange.take]
    split <;> exact h.quiet ⟨rfl, rfl, rfl⟩ rfl rfl

theorem disconnectEndpoint (h : Established n) (e : EndpointId) :
    Established (n.disconnectEndpoint e) := by
  obtain ⟨change, numbered⟩ := disconnectEndpoint_change h.endpoints e
  have issued : (n.disconnectEndpoint e).issued = n.issued := by
    unfold Network.disconnectEndpoint
    split <;> rfl
  have registries : (n.disconnectEndpoint e).registries = n.registries := by
    unfold Network.disconnectEndpoint
    split <;> rfl
  exact h.moved change numbered (Nat.le_of_eq issued.symm) registries

theorem started (h : Established n) {config : Config} {a : RunningAuthority}
    (started : n.startAuthority config = .ok (a, n')) : Established n' := by
  obtain ⟨change, numbered⟩ := startAuthority_change h.endpoints started
  obtain ⟨exchange, endpoints, rfl⟩ := startAuthority_eq started
  refine ⟨convened_of_change change h.convened, numbered, ?_⟩
  intro id above
  have other : n.issued + 1 ≠ id := Nat.ne_of_lt above
  simp only [readied, getElem?_insert_eq_ite, other, if_false]
  exact h.registries id (Nat.le_trans (Nat.le_add_right _ _) above)

theorem happen (h : Established n) (staffed : Staffed n) (e : Event) :
    Established (n.happen e) := by
  cases e with
  | start config =>
    simp only [Network.happen]
    split
    · exact h.started ‹_›
    · exact h
  | stop a =>
    simp only [Network.happen, shutdownAuthority]
    split
    · exact h.disconnectEndpoint a.endpoint
    · exact h
  | release a => exact h.disconnectEndpoint a.endpoint
  | call c => exact h.call staffed c
  | poll key => exact h.onParticipant key fun p _ => h.poll p
  | listen key l => exact h.onParticipant key fun p _ => h.quiet ⟨rfl, rfl, rfl⟩ rfl rfl
  | unlisten key => exact h.onParticipant key fun p _ => h.quiet ⟨rfl, rfl, rfl⟩ rfl rfl
  | settle => exact settle_of_steps h fun m key p _ before => before.quiet ⟨rfl, rfl, rfl⟩ rfl rfl

end Established

theorem established_course (events : List Event) : Established (({} : Network).course events) := by
  induction events with
  | nil => exact ⟨fun _ => rfl, fun _ _ => rfl, fun _ _ => rfl⟩
  | cons e earlier ih => exact ih.happen (staffed_course earlier) e

end Network

end HlaCoordination
