import HlaCoordination.Proofs.Network.Reflection
import Mathlib.Logic.Function.Iterate

/-! Broadcasts while the inbox of the authority may fall behind. Nobody waits for the answer to a
broadcast, so others may follow before the inbox has come to look for the first. What the inbox
takes is served in its turn. What finds no room is lost, and the sender is not told. Runs are listed
newest first. -/
namespace HlaCoordination

def RunningAuthority.endpointWith (a : RunningAuthority) (l : Listening) : Endpoint where
  name := authorityName
  capacity := a.config.noticeQueueCapacity.toNat
  inbox := some (.registry a.registry)
  listening := some l

def RunningAuthority.inboxWith (a : RunningAuthority) (held : Bool) (backlog : List Inbound) :
    Listening where
  inbox := .registry a.registry
  held := held
  backlog := backlog

namespace Network

open Std Session Registry

variable {a : RunningAuthority} {n n' : Network} {r : Registry} {past : Journal} {held : Bool}
  {backlog rest : List Inbound} {item : Inbound} {key : ParticipantId} {p : Participant}
  {id : SessionId} {m : Membership} {payload : Octets}

def withListening (n : Network) (a : RunningAuthority) (l : Listening) : Network :=
  { n with endpoints := n.endpoints.insert a.endpoint (a.endpointWith l) }

def withInbox (n : Network) (a : RunningAuthority) (held : Bool) (backlog : List Inbound) :
    Network :=
  n.withListening a (a.inboxWith held backlog)

def InboxIs (a : RunningAuthority) (n : Network) (held : Bool) (backlog : List Inbound) : Prop :=
  n.endpoints[a.endpoint]? = some (a.endpointWith (a.inboxWith held backlog))

theorem inboxIs_withInbox (n : Network) (held : Bool) (backlog : List Inbound) :
    InboxIs a (n.withInbox a held backlog) held backlog :=
  ExtTreeMap.getElem?_insert_self

theorem withInbox_withInbox (n : Network) (held held' : Bool) (backlog backlog' : List Inbound) :
    (n.withInbox a held backlog).withInbox a held' backlog' = n.withInbox a held' backlog' := by
  simp only [withInbox, withListening, insert_insert]

def spoken (m : Membership) (payload : Octets) : Inbound :=
  .broadcast (.toFederation m.federation m.federate payload)

namespace InboxIs

theorem withInbox_self (is : InboxIs a n held backlog) : n.withInbox a held backlog = n := by
  rw [withInbox, withListening, insert_eq_self is]

theorem hold_eq (is : InboxIs a n held backlog) :
    n.hold a.endpoint = n.withInbox a true backlog := by
  rw [hold, modify_eq_insert is]
  rfl

theorem dequeue_nil (is : InboxIs a n held []) :
    n.dequeue a.endpoint = n.withInbox a false [] := by
  rw [dequeue, modify_eq_insert is]
  rfl

theorem dequeue_cons (is : InboxIs a n held (item :: rest)) :
    n.dequeue a.endpoint = n.withInbox a held rest := by
  rw [dequeue, modify_eq_insert is]
  rfl

theorem enqueue_room (is : InboxIs a n held backlog)
    (room : backlog.length < a.config.noticeQueueCapacity.toNat) (item : Inbound) :
    n.enqueue a.endpoint item = n.withInbox a held (backlog ++ [item]) := by
  rw [enqueue, modify_eq_insert is]
  exact congrArg (n.withListening a) (if_pos room)

theorem enqueue_full (is : InboxIs a n held backlog)
    (full : a.config.noticeQueueCapacity.toNat ≤ backlog.length) (item : Inbound) :
    n.enqueue a.endpoint item = n := by
  rw [enqueue, modify_eq_insert is]
  refine Eq.trans ?_ is.withInbox_self
  exact congrArg (n.withListening a) (if_neg (Nat.not_lt_of_le full))

theorem listening (is : InboxIs a n held backlog) :
    n.endpoints[a.endpoint]?.bind Endpoint.listening =
      some { inbox := .registry a.registry, held, backlog } := by
  rw [is]
  rfl

theorem sendBroadcast (is : InboxIs a n true backlog)
    (attached : n.exchange.authority = some ⟨authorityName, a.endpoint⟩)
    (linked : p.link.session = some id) (member : p.membership = some m) (payload : Octets) :
    n.sendBroadcast p payload = .ok (n.enqueue a.endpoint (spoken m payload)) := by
  simp only [Network.sendBroadcast, member, broadcastOf, Except.bind, forwardBroadcast, linked,
    attached, serveBroadcast, is.listening, if_true]
  rfl

end InboxIs

theorem startAuthority_inbox {config : Config}
    (started : n.startAuthority config = .ok (a, n')) :
    a.config = config ∧ InboxIs a n' false [] := by
  unfold startAuthority openEndpoint at started
  by_cases supported : config.connection.isSupported = true
  · simp only [supported, if_true, fresh, openRegistry, bindInbox, connectEndpoint,
      ExtTreeMap.getElem?_modify, ExtTreeMap.getElem?_insert_self, Std.compare_self,
      Option.map_some, Exchange.attachAuthority] at started
    cases free : n.exchange.authority with
    | some present => simp [free] at started
    | none =>
      simp only [free, Except.ok.injEq, Prod.mk.injEq] at started
      obtain ⟨rfl, rfl⟩ := started
      exact ⟨rfl, ExtTreeMap.getElem?_insert_self⟩
  · simp [supported] at started

/-- What happens under an authority. Its inbox may be held up at any time, and goes on in steps. -/
inductive InboxStep where
  | turn (t : Turn)
  | lag
  | advance
  deriving DecidableEq

def catchUp (a : RunningAuthority) (n : Network) : Network :=
  let waiting := ((n.endpoints[a.endpoint]?.bind Endpoint.listening).map Listening.backlog).getD []
  (fun n => n.advance a.endpoint)^[waiting.length + 1] n

/-- A request waits for its answer. It gets one when the inbox has caught up. -/
def inboxStep (a : RunningAuthority) (n : Network) : InboxStep → Option Entry × Network
  | .turn (.call (.request key op)) => turn a (catchUp a n) (.call (.request key op))
  | .turn t => turn a n t
  | .lag => (none, n.hold a.endpoint)
  | .advance => (none, n.advance a.endpoint)

def inboxRun (a : RunningAuthority) (n : Network) : List InboxStep → Network
  | [] => n
  | s :: earlier => (inboxStep a (n.inboxRun a earlier) s).2

def inboxJournal (a : RunningAuthority) (n : Network) : List InboxStep → Journal
  | [] => []
  | s :: earlier => (inboxStep a (n.inboxRun a earlier) s).1.toList ++ n.inboxJournal a earlier

/-- The authority knows the federate `m` as one of this session, and a broadcast of its fans out. -/
def AuthorityFansOut (a : RunningAuthority) (n : Network) (id : SessionId) (m : Membership)
    (payload : Octets) (n' : Network) : Prop :=
  ∃ r f, n.registries[a.registry]? = some r ∧ r.lookupHandle m.federation = .ok f ∧
    f.federates[m.federate]? = some ⟨m.federateName, m.federate, some id⟩ ∧
    FansOut n f id m payload n'

/-- What becomes of a broadcast of the federate `m`. An inbox at rest serves it at once. One that is
held takes it if it has room, and otherwise the broadcast is lost. -/
inductive BroadcastSent (a : RunningAuthority) (n : Network) (held : Bool) (backlog : List Inbound)
    (id : SessionId) (m : Membership) (payload : Octets) : Network → Prop where
  | served (n' : Network) (rests : held = false) (fansOut : AuthorityFansOut a n id m payload n') :
      BroadcastSent a n held backlog id m payload n'
  | waits (busy : held = true) (room : backlog.length < a.config.noticeQueueCapacity.toNat) :
      BroadcastSent a n held backlog id m payload
        (n.withInbox a held (backlog ++ [spoken m payload]))
  | lost (busy : held = true) (full : a.config.noticeQueueCapacity.toNat ≤ backlog.length) :
      BroadcastSent a n held backlog id m payload n

/-- How the line of those that wait changes with a step. It gets shorter at its head alone, as the
inbox goes on, and longer at its end. A request is looked at when all have been served. -/
def LineAfter (backlog : List Inbound) : InboxStep → List Inbound → Prop
  | .advance, backlog' => backlog' = backlog.tail
  | .turn (.call (.request ..)), backlog' => backlog' = []
  | _, backlog' => ∃ new, backlog' = backlog ++ new

structure Broadcasts (a : RunningAuthority) (n : Network) (held : Bool) (backlog : List Inbound) :
    Prop where
  inbox : InboxIs a n held backlog
  sent : ∀ (key : ParticipantId) (p : Participant) (id : SessionId) (m : Membership)
    (payload : Octets), n.participants[key]? = some p → p.link.session = some id →
      p.membership = some m → ∃ n', n.sendBroadcast p payload = .ok n' ∧
        BroadcastSent a n held backlog p.mailbox m payload n'
  /-- All that waits are broadcasts. When the inbox comes to the first, it fans out among those who
  are there by then. -/
  waiting : ∀ item rest, backlog = item :: rest → ∃ id m payload, item = spoken m payload ∧
    n.dequeue a.endpoint = n.withInbox a held rest ∧
    AuthorityFansOut a (n.dequeue a.endpoint) id m payload (n.advance a.endpoint)
  line : ∀ s, ∃ held' backlog', InboxIs a (inboxStep a n s).2 held' backlog' ∧
    LineAfter backlog s backlog'

/-- Whether a turn is a session's own business, in which no authority takes part. -/
def Turn.isPrivate : Turn → Bool
  | .call (.connect _) | .call (.disconnect _) | .call (.drop _) | .poll _ | .listen ..
  | .unlisten _ | .settle => true
  | .call (.request ..) | .call (.broadcast ..) | .restore .. | .finishRestore _ => false

def furnished (n : Network) (endpoints : ExtTreeMap EndpointId Endpoint)
    (registries : ExtTreeMap RegistryId Registry) : Network :=
  { n with endpoints, registries }

theorem settle_furnished (n : Network) (endpoints : ExtTreeMap EndpointId Endpoint)
    (registries : ExtTreeMap RegistryId Registry) :
    (n.furnished endpoints registries).settle = n.settle.furnished endpoints registries := by
  unfold settle
  rw [ExtTreeMap.foldl_eq_foldl_toList, ExtTreeMap.foldl_eq_foldl_toList]
  refine List.foldl_hom (fun n => furnished n endpoints registries) ?_
  intro n entry
  split <;> rfl

theorem onParticipant_furnished {endpoints : ExtTreeMap EndpointId Endpoint}
    {registries : ExtTreeMap RegistryId Registry} (key : ParticipantId)
    {act act' : Participant → Option Entry × Network}
    (alike : ∀ p, act' p = ((act p).1, (act p).2.furnished endpoints registries)) :
    (n.furnished endpoints registries).onParticipant key act' =
      ((n.onParticipant key act).1,
        (n.onParticipant key act).2.furnished endpoints registries) := by
  have seen : (n.furnished endpoints registries).participants[key]? = n.participants[key]? := rfl
  unfold onParticipant
  rw [seen]
  cases n.participants[key]? with
  | none => rfl
  | some p => exact alike p

theorem disconnectSession_furnished (n : Network) (endpoints : ExtTreeMap EndpointId Endpoint)
    (registries : ExtTreeMap RegistryId Registry) (key : ParticipantId) (p : Participant) :
    (n.furnished endpoints registries).disconnectSession key p =
      (n.disconnectSession key p).furnished endpoints registries := by
  unfold disconnectSession disconnectLink
  cases p.link.session <;> rfl

theorem turn_furnished {t : Turn} (own : t.isPrivate = true) (n : Network)
    (endpoints : ExtTreeMap EndpointId Endpoint) (registries : ExtTreeMap RegistryId Registry) :
    turn a (n.furnished endpoints registries) t =
      ((turn a n t).1, (turn a n t).2.furnished endpoints registries) := by
  cases t with
  | call c =>
    cases c with
    | request | broadcast => cases own
    | connect config =>
      cases supported : config.connection.isSupported with
      | false =>
        simp only [turn, call, connectSession, supported, Bool.false_eq_true, if_false]
      | true =>
        simp only [turn, call, connectSession, furnished, supported, if_true]
        cases n.exchange.attachSession config.noticeQueueCapacity.toNat <;> rfl
    | disconnect key =>
      refine onParticipant_furnished key fun p => congrArg (Prod.mk none) ?_
      exact disconnectSession_furnished n endpoints registries key p
    | drop key =>
      refine onParticipant_furnished key fun p => congrArg (Prod.mk none) ?_
      rw [dropSession, dropSession, disconnectSession_furnished]
      rfl
  | poll key =>
    refine congrArg (Prod.mk none) (congrArg Prod.snd (onParticipant_furnished key fun p => ?_))
    unfold poll
    split <;> rfl
  | listen key l =>
    refine congrArg (Prod.mk none) (congrArg Prod.snd (onParticipant_furnished key fun p => ?_))
    rfl
  | unlisten key =>
    refine congrArg (Prod.mk none) (congrArg Prod.snd (onParticipant_furnished key fun p => ?_))
    rfl
  | settle => exact congrArg (Prod.mk none) (settle_furnished n endpoints registries)
  | restore | finishRestore => cases own

theorem turn_kept {t : Turn} (own : t.isPrivate = true) (n : Network) :
    (turn a n t).2.endpoints = n.endpoints ∧ (turn a n t).2.registries = n.registries := by
  have same : turn a n t = ((turn a n t).1, (turn a n t).2.furnished n.endpoints n.registries) :=
    turn_furnished own n n.endpoints n.registries
  exact ⟨congrArg (fun done => done.2.endpoints) same,
    congrArg (fun done => done.2.registries) same⟩

/-- The inbox of the authority may have fallen behind. But for that, sessions and registry agree,
and what waits was sent by federates that are still there. -/
structure Lagging (a : RunningAuthority) (n : Network) (past : Journal) (r : Registry)
    (held : Bool) (backlog : List Inbound) : Prop where
  inbox : InboxIs a n held backlog
  rests : held = false → backlog = []
  agrees : Agrees a (n.withInbox a false []) past r
  housed : Housed (n.withInbox a false []) past
  waiting : ∀ item ∈ backlog, ∃ id m payload, item = spoken m payload ∧ r.Seats m (some id)

theorem Agrees.lagging (agrees : Agrees a n past r) (housed : Housed n past)
    (inbox : InboxIs a n false []) : Lagging a n past r false [] := by
  have same : n.withInbox a false [] = n := inbox.withInbox_self
  exact ⟨inbox, fun _ => rfl, same.symm ▸ agrees, same.symm ▸ housed, List.forall_mem_nil _⟩

theorem Agrees.request_endpoints (agrees : Agrees a n past r) (key : ParticipantId)
    (op : Operation) : (Network.turn a n (.call (.request key op))).2.endpoints = n.endpoints := by
  refine onParticipant_cases (P := fun done => done.2.endpoints = n.endpoints) rfl fun p _ => ?_
  obtain ⟨reply, r', membership, mailboxes, performed, -⟩ :=
    perform_effect agrees.served agrees.counted.coherent key p op
  rw [performed]
  rfl

namespace Lagging

theorem at_rest (h : Lagging a n past r false backlog) :
    backlog = [] ∧ Agrees a n past r ∧ Housed n past := by
  obtain rfl := h.rests rfl
  have same : n.withInbox a false [] = n := h.inbox.withInbox_self
  exact ⟨rfl, same ▸ h.agrees, same ▸ h.housed⟩

theorem reline (h : Lagging a n past r held backlog) {held' : Bool} {backlog' : List Inbound}
    (rests : held' = false → backlog' = [])
    (waiting : ∀ item ∈ backlog', ∃ id m payload,
      item = spoken m payload ∧ r.Seats m (some id)) :
    Lagging a (n.withInbox a held' backlog') past r held' backlog' where
  inbox := inboxIs_withInbox n held' backlog'
  rests := rests
  agrees := by
    rw [withInbox_withInbox]
    exact h.agrees
  housed := by
    rw [withInbox_withInbox]
    exact h.housed
  waiting := waiting

theorem kept (h : Lagging a n past r held backlog) : n.registries[a.registry]? = some r :=
  h.agrees.served.kept

theorem attached (h : Lagging a n past r held backlog) :
    n.exchange.authority = some ⟨authorityName, a.endpoint⟩ :=
  h.agrees.served.attached

theorem fansOut (h : Lagging a n past r held backlog) (few : (ids past).length < 2 ^ 64)
    (sits : r.Seats m (some id)) (payload : Octets) :
    AuthorityFansOut a n id m payload
      (n.reflectFrom a.registry (.toFederation m.federation m.federate payload)) := by
  obtain ⟨f, hf, same, seat⟩ := sits
  have found : r.lookupHandle m.federation = .ok f :=
    h.agrees.counted.coherent.lookupHandle_eq_ok_iff.mpr ⟨_, hf, same⟩
  refine ⟨r, f, h.kept, found, seat, ?_⟩
  have fans := h.agrees.fansOut h.housed few found seat payload
  rw [reflectFrom_of_kept h.kept]
  simp only [Authority.recipients, Broadcast.toFederation, found]
  refine ⟨fans.reflected, fans.unheard, fans.sender, fans.elsewhere, fans.apart, ?_⟩
  obtain ⟨mailboxes, sent⟩ := n.exchange.deliver_eq
    (.reflected m.federation m.federate payload) (f.sessionsExcept (some m.federate))
  rw [delivered, sent]
  exact ⟨mailboxes, rfl⟩

theorem remail (h : Lagging a n past r held backlog)
    (mailboxes : ExtTreeMap SessionId Mailbox) :
    Lagging a { n with exchange := { n.exchange with mailboxes } } past r held backlog where
  inbox := h.inbox
  rests := h.rests
  agrees := by
    refine h.agrees.narrow ⟨h.agrees.served.attached, h.agrees.served.listening, h.kept⟩ rfl ?_
    exact fun key p there => ⟨p, there, rfl, rfl, fun _ linked => linked⟩
  housed := h.housed.stayed ⟨⟨mailboxes, rfl⟩, rfl⟩
  waiting := h.waiting

theorem advance_nil (h : Lagging a n past r held []) :
    n.advance a.endpoint = n.withInbox a false [] := by
  rw [Network.advance, h.inbox.listening]
  exact h.inbox.dequeue_nil

theorem advance_cons (h : Lagging a n past r held (spoken m payload :: rest)) :
    n.advance a.endpoint =
      (n.dequeue a.endpoint).reflectFrom a.registry
        (.toFederation m.federation m.federate payload) := by
  rw [Network.advance, h.inbox.listening]
  rfl

theorem dequeued (h : Lagging a n past r held (item :: rest)) :
    Lagging a (n.dequeue a.endpoint) past r held rest := by
  rw [h.inbox.dequeue_cons]
  refine h.reline (fun rests => ?_) fun item waits => h.waiting item (List.mem_cons_of_mem _ waits)
  cases h.rests rests

theorem advance (h : Lagging a n past r held backlog) :
    ∃ held', Lagging a (n.advance a.endpoint) past r held' backlog.tail ∧
      (backlog = [] → held' = false) := by
  cases backlog with
  | nil =>
    rw [h.advance_nil]
    exact ⟨false, h.reline (fun _ => rfl) (List.forall_mem_nil _), fun _ => rfl⟩
  | cons item rest =>
    obtain ⟨id, m, payload, rfl, -⟩ := h.waiting item List.mem_cons_self
    obtain ⟨mailboxes, sent⟩ := reflectFrom_eq (n.dequeue a.endpoint) a.registry
      (.toFederation m.federation m.federate payload)
    rw [h.advance_cons, sent]
    exact ⟨held, h.dequeued.remail mailboxes, nofun⟩

theorem catchUp (h : Lagging a n past r held backlog) :
    Lagging a (catchUp a n) past r false [] := by
  rw [Network.catchUp, h.inbox.listening]
  simp only [Option.map_some, Option.getD_some]
  generalize length : backlog.length = k
  induction k generalizing n held backlog with
  | zero =>
    obtain rfl := List.length_eq_zero_iff.mp length
    obtain ⟨held', lagging, rests⟩ := h.advance
    obtain rfl := rests rfl
    exact lagging
  | succ k ih =>
    obtain ⟨held', lagging, -⟩ := h.advance
    rw [Function.iterate_succ_apply]
    refine ih lagging ?_
    rw [List.length_tail, length, Nat.add_sub_cancel]

theorem sits (h : Lagging a n past r held backlog) (there : n.participants[key]? = some p)
    (member : p.membership = some m) : r.Seats m (some p.mailbox) :=
  (h.agrees.held key p there m member).2

theorem sendBroadcast (h : Lagging a n past r held backlog) (few : (ids past).length < 2 ^ 64)
    (there : n.participants[key]? = some p) (linked : p.link.session = some id)
    (member : p.membership = some m) (payload : Octets) :
    ∃ n', n.sendBroadcast p payload = .ok n' ∧
      BroadcastSent a n held backlog p.mailbox m payload n' := by
  cases held with
  | false =>
    obtain ⟨-, agrees, -⟩ := h.at_rest
    have fansOut := h.fansOut few (h.sits there member) payload
    rw [reflectFrom_of_kept h.kept] at fansOut
    exact ⟨_, sendBroadcast_of_served agrees.served linked member payload, .served _ rfl fansOut⟩
  | true =>
    refine ⟨_, h.inbox.sendBroadcast h.attached linked member payload, ?_⟩
    rcases Nat.lt_or_ge backlog.length a.config.noticeQueueCapacity.toNat with room | full
    · rw [h.inbox.enqueue_room room]
      exact .waits rfl room
    · rw [h.inbox.enqueue_full full]
      exact .lost rfl full

theorem enqueued (h : Lagging a n past r true backlog) (sits : r.Seats m (some id))
    (payload : Octets) :
    ∃ new, Lagging a (n.enqueue a.endpoint (spoken m payload)) past r true (backlog ++ new) := by
  rcases Nat.lt_or_ge backlog.length a.config.noticeQueueCapacity.toNat with room | full
  · rw [h.inbox.enqueue_room room]
    refine ⟨[spoken m payload], h.reline nofun fun item waits => ?_⟩
    rcases List.mem_append.mp waits with before | new
    · exact h.waiting item before
    · exact ⟨id, m, payload, List.mem_singleton.mp new, sits⟩
  · rw [h.inbox.enqueue_full full]
    refine ⟨[], ?_⟩
    rwa [List.append_nil]

theorem speaks_of_sendBroadcast (ok : n.sendBroadcast p payload = .ok n') :
    ∃ id m, p.link.session = some id ∧ p.membership = some m := by
  cases member : p.membership with
  | none => simp [Network.sendBroadcast, broadcastOf, member, Except.bind] at ok
  | some m =>
    cases linked : p.link.session with
    | none =>
      simp [Network.sendBroadcast, broadcastOf, member, Except.bind, forwardBroadcast, linked] at ok
    | some id => exact ⟨id, m, rfl, rfl⟩

theorem broadcast (h : Lagging a n past r held backlog) (key : ParticipantId) (payload : Octets) :
    (n.call (.broadcast key payload)).1 = none ∧
      ∃ new, Lagging a (n.call (.broadcast key payload)).2 past r held (backlog ++ new) := by
  have idle : Lagging a n past r held (backlog ++ []) := by
    rw [List.append_nil]
    exact h
  refine onParticipant_cases
    (P := fun done => done.1 = none ∧ ∃ new, Lagging a done.2 past r held (backlog ++ new))
    ⟨rfl, [], idle⟩ fun p there => ?_
  split
  · rename_i n' ok
    refine ⟨rfl, ?_⟩
    cases held with
    | false =>
      obtain ⟨-, agrees, -⟩ := h.at_rest
      obtain ⟨mailboxes, rfl⟩ := sendBroadcast_eq agrees.served ok
      exact ⟨[], idle.remail mailboxes⟩
    | true =>
      obtain ⟨id, m, linked, member⟩ := speaks_of_sendBroadcast ok
      rw [h.inbox.sendBroadcast h.attached linked member, Except.ok.injEq] at ok
      subst ok
      exact h.enqueued (h.sits there member) payload
  · exact ⟨rfl, [], idle⟩

theorem own_business (h : Lagging a n past r held backlog) {t : Turn} (own : t.isPrivate = true) :
    ∃ held' backlog', InboxIs a (turn a n t).2 held' backlog' ∧
      (∃ new, backlog' = backlog ++ new) ∧
      (creates ((turn a n t).1.toList ++ past) < 2 ^ 32 →
        joins ((turn a n t).1.toList ++ past) < 2 ^ 32 →
          ∃ r', Lagging a (turn a n t).2 ((turn a n t).1.toList ++ past) r' held' backlog') := by
  obtain ⟨endpoints, registries⟩ := turn_kept (a := a) own n
  have inbox : InboxIs a (turn a n t).2 held backlog := by
    rw [InboxIs, endpoints]
    exact h.inbox
  have same : turn a (n.withInbox a false []) t =
      ((turn a n t).1, (turn a n t).2.withInbox a false []) := by
    have apart := turn_furnished (a := a) own n
      (n.endpoints.insert a.endpoint (a.endpointWith (a.inboxWith false []))) n.registries
    refine apart.trans ?_
    rw [withInbox, withListening, furnished, endpoints, ← registries]
  refine ⟨held, backlog, inbox, ⟨[], (List.append_nil backlog).symm⟩, ?_⟩
  intro few_creates few_joins
  obtain ⟨r', agrees⟩ := h.agrees.turn t (by rwa [same]) (by rwa [same])
  have housed := h.housed.turn h.agrees t
  rw [same] at agrees housed
  have kept : (turn a n t).2.registries[a.registry]? = some r' := agrees.served.kept
  rw [registries, h.kept, Option.some.injEq] at kept
  subst kept
  exact ⟨r, inbox, h.rests, agrees, housed, h.waiting⟩

theorem rework (h : Lagging a n past r held backlog) (act : Registry → Registry) {name : String}
    (acts : act r = r ∨ ∃ (f : Federation) (sync : SyncTable),
      r.federations[name]? = some f ∧ act r = r.put { f with sync }) :
    ∃ r', Lagging a (n.rework a.registry act) past r' held backlog := by
  obtain ⟨r', agrees, seats⟩ := h.agrees.rework act acts
  have housed := h.housed.stayed (.rework _ a.registry act)
  have same : (n.withInbox a false []).rework a.registry act =
      (n.rework a.registry act).withInbox a false [] := by
    have seen : (n.withInbox a false []).registries[a.registry]? = n.registries[a.registry]? := rfl
    unfold Network.rework
    rw [seen]
    cases n.registries[a.registry]? <;> rfl
  rw [same] at agrees housed
  have endpoints : (n.rework a.registry act).endpoints = n.endpoints := by
    unfold Network.rework
    split <;> rfl
  refine ⟨r', ?_, h.rests, agrees, housed, fun item waits => ?_⟩
  · rw [InboxIs, endpoints]
    exact h.inbox
  · obtain ⟨id, m, payload, same, sits⟩ := h.waiting item waits
    exact ⟨id, m, payload, same, seats m _ sits⟩

theorem request (h : Lagging a n past r held backlog) (key : ParticipantId) (op : Operation) :
    let done := inboxStep a n (.turn (.call (.request key op)))
    InboxIs a done.2 false [] ∧
      (creates (done.1.toList ++ past) < 2 ^ 32 → joins (done.1.toList ++ past) < 2 ^ 32 →
        ∃ r', Lagging a done.2 (done.1.toList ++ past) r' false []) := by
  obtain ⟨-, agrees, housed⟩ := h.catchUp.at_rest
  have inbox : InboxIs a (turn a (Network.catchUp a n) (.call (.request key op))).2 false [] := by
    rw [InboxIs, agrees.request_endpoints]
    exact h.catchUp.inbox
  refine ⟨inbox, fun few_creates few_joins => ?_⟩
  obtain ⟨r', agrees'⟩ := agrees.turn (.call (.request key op)) few_creates few_joins
  exact ⟨r', agrees'.lagging (housed.turn agrees (.call (.request key op))) inbox⟩

theorem step (h : Lagging a n past r held backlog) (s : InboxStep) :
    ∃ held' backlog', InboxIs a (inboxStep a n s).2 held' backlog' ∧
      LineAfter backlog s backlog' ∧
      (creates ((inboxStep a n s).1.toList ++ past) < 2 ^ 32 →
        joins ((inboxStep a n s).1.toList ++ past) < 2 ^ 32 →
          ∃ r', Lagging a (inboxStep a n s).2 ((inboxStep a n s).1.toList ++ past) r' held'
            backlog') := by
  have stays : ∃ new, backlog = backlog ++ new := ⟨[], (List.append_nil backlog).symm⟩
  cases s with
  | lag =>
    have lagging : Lagging a (n.withInbox a true backlog) past r true backlog :=
      h.reline nofun h.waiting
    rw [← h.inbox.hold_eq] at lagging
    exact ⟨true, backlog, lagging.inbox, stays, fun _ _ => ⟨r, lagging⟩⟩
  | advance =>
    obtain ⟨held', lagging, -⟩ := h.advance
    exact ⟨held', _, lagging.inbox, rfl, fun _ _ => ⟨r, lagging⟩⟩
  | turn t =>
    cases t with
    | call c =>
      cases c with
      | request key op =>
        obtain ⟨inbox, lagging⟩ := h.request key op
        exact ⟨false, [], inbox, rfl, lagging⟩
      | broadcast key payload =>
        obtain ⟨silent, new, lagging⟩ := h.broadcast key payload
        simp only [inboxStep, Network.turn, silent]
        exact ⟨held, backlog ++ new, lagging.inbox, ⟨new, rfl⟩, fun _ _ => ⟨r, lagging⟩⟩
      | connect | disconnect | drop => exact h.own_business rfl
    | poll | listen | unlisten | settle => exact h.own_business rfl
    | restore federation s =>
      obtain ⟨r', lagging⟩ := h.rework (fun r => (r.restore federation s).2)
        (restore_resyncs r federation s)
      exact ⟨held, backlog, lagging.inbox, stays, fun _ _ => ⟨r', lagging⟩⟩
    | finishRestore federation =>
      obtain ⟨r', lagging⟩ := h.rework (fun r => (r.finishRestore federation).2)
        (finishRestore_resyncs r federation)
      exact ⟨held, backlog, lagging.inbox, stays, fun _ _ => ⟨r', lagging⟩⟩

theorem broadcasts (h : Lagging a n past r held backlog) (few : (ids past).length < 2 ^ 64) :
    Broadcasts a n held backlog where
  inbox := h.inbox
  sent key p id m payload there linked member := h.sendBroadcast few there linked member payload
  waiting item rest line := by
    subst line
    obtain ⟨id, m, payload, rfl, sits⟩ := h.waiting item List.mem_cons_self
    refine ⟨id, m, payload, rfl, h.inbox.dequeue_cons, ?_⟩
    rw [h.advance_cons]
    exact h.dequeued.fansOut few sits payload
  line s := by
    obtain ⟨held', backlog', inbox, line, -⟩ := h.step s
    exact ⟨held', backlog', inbox, line⟩

end Lagging

/-- Whatever has been done under the authority before, a broadcast that its inbox takes fans out
among the other federates of its federation when the inbox comes to it. Ids are words of 64 bits,
handles are words of 32. -/
theorem broadcast_fans_out {config : Config} (empty : n.participants = ∅)
    (unused : n.exchange = {}) (started : n.startAuthority config = .ok (a, n'))
    (run : List InboxStep) (few_creates : creates (n'.inboxJournal a run) < 2 ^ 32)
    (few_joins : joins (n'.inboxJournal a run) < 2 ^ 32)
    (few_ids : (ids (n'.inboxJournal a run)).length < 2 ^ 64) :
    ∃ held backlog, Broadcasts a (n'.inboxRun a run) held backlog := by
  have along : ∃ r held backlog,
      Lagging a (n'.inboxRun a run) (n'.inboxJournal a run) r held backlog := by
    clear few_ids
    induction run with
    | nil =>
      have housed := played_housed empty unused started [] (Nat.two_pow_pos 32) (Nat.two_pow_pos 32)
      exact ⟨_, _, _, (Agrees.start empty started).lagging housed (startAuthority_inbox started).2⟩
    | cons s earlier ih =>
      obtain ⟨r, held, backlog, lagging⟩ :=
        ih (Nat.lt_of_le_of_lt (creates_tail _ _) few_creates)
          (Nat.lt_of_le_of_lt (joins_tail _ _) few_joins)
      obtain ⟨held', backlog', -, -, lagging'⟩ := lagging.step s
      obtain ⟨r', lagging'⟩ := lagging' few_creates few_joins
      exact ⟨r', held', backlog', lagging'⟩
  obtain ⟨r, held, backlog, lagging⟩ := along
  exact ⟨held, backlog, lagging.broadcasts few_ids⟩

def cramped : Config := { noticeQueueCapacity := 1 }

def narrow : Network :=
  match ({} : Network).startAuthority cramped with
  | .ok (_, n) => n
  | .error _ => {}

/-- Three sessions of one federation, one of another, and one of none. The second resigns and joins
again, and the third disconnects; both are still federates. The inbox falls behind, and the first
session broadcasts. -/
def burst : List InboxStep :=
  .turn (.call (.broadcast 2 [1])) :: .lag ::
  ([.call (.disconnect 4), .call (.request 3 (.join "alpha" "blue")), .call (.request 3 .resign),
    .settle, .call (.request 5 (.join "beta" "red")), .call (.request 4 (.join "alpha" "green")),
    .call (.request 3 (.join "alpha" "blue")), .call (.request 2 (.join "alpha" "red")),
    .call (.request 3 (.create "beta" ⟨[]⟩ .ieee1516e)),
    .call (.request 2 (.create "alpha" ⟨[]⟩ .ieee1516e)), .call (.connect {}), .call (.connect {}),
    .call (.connect {}), .call (.connect {}), .call (.connect {})] : List Turn).map .turn

def speaker : Participant where
  link := ⟨5000, 1024, some ⟨1⟩⟩
  mailbox := ⟨1⟩
  membership := some ⟨"alpha", ⟨1⟩, "red", ⟨1⟩⟩

theorem burst_fans_out :
    ({} : Network).participants = ∅ ∧ ({} : Network).exchange = {} ∧
      ({} : Network).startAuthority cramped = .ok (⟨cramped, 0, 1⟩, narrow) ∧
      creates (narrow.inboxJournal ⟨cramped, 0, 1⟩ burst) < 2 ^ 32 ∧
      joins (narrow.inboxJournal ⟨cramped, 0, 1⟩ burst) < 2 ^ 32 ∧
      (ids (narrow.inboxJournal ⟨cramped, 0, 1⟩ burst)).length < 2 ^ 64 ∧
      (narrow.inboxRun ⟨cramped, 0, 1⟩ burst).participants[2]? = some speaker ∧
      Broadcasts ⟨cramped, 0, 1⟩ (narrow.inboxRun ⟨cramped, 0, 1⟩ burst) true
        [spoken ⟨"alpha", ⟨1⟩, "red", ⟨1⟩⟩ [1]] := by
  have started : ({} : Network).startAuthority cramped = .ok (⟨cramped, 0, 1⟩, narrow) := rfl
  have few_creates : creates (narrow.inboxJournal ⟨cramped, 0, 1⟩ burst) < 2 ^ 32 := by
    decide +kernel
  have few_joins : joins (narrow.inboxJournal ⟨cramped, 0, 1⟩ burst) < 2 ^ 32 := by
    decide +kernel
  have few_ids : (ids (narrow.inboxJournal ⟨cramped, 0, 1⟩ burst)).length < 2 ^ 64 := by
    decide +kernel
  have there : (narrow.inboxRun ⟨cramped, 0, 1⟩ burst).participants[2]? = some speaker := by
    decide +kernel
  obtain ⟨held, backlog, broadcasts⟩ :=
    broadcast_fans_out rfl rfl started burst few_creates few_joins few_ids
  have inbox : (narrow.inboxRun ⟨cramped, 0, 1⟩ burst).endpoints[0]? =
      some (RunningAuthority.endpointWith ⟨cramped, 0, 1⟩
        (RunningAuthority.inboxWith ⟨cramped, 0, 1⟩ true
          [spoken ⟨"alpha", ⟨1⟩, "red", ⟨1⟩⟩ [1]])) := by decide +kernel
  cases broadcasts.inbox.symm.trans inbox
  exact ⟨rfl, rfl, started, few_creates, few_joins, few_ids, there, broadcasts⟩

/-- When the inbox goes on, only the second session of the five gets the notice. -/
example :
    (narrow.inboxRun ⟨cramped, 0, 1⟩ (.advance :: burst)).exchange.mailboxes.toList.map
        (fun entry => (entry.1, entry.2.notices)) =
      [(⟨1⟩, []), (⟨2⟩, [.reflected ⟨1⟩ ⟨1⟩ [1]]), (⟨3⟩, []), (⟨4⟩, []), (⟨5⟩, [])] := by
  decide +kernel

/-- A second broadcast right after the first finds no room in the inbox. The session is told that
all is well, nothing changes, and the other federate, whose session is attached and whose mailbox
is empty, hears of the first alone. -/
theorem burst_lost :
    ({} : Network).startAuthority cramped = .ok (⟨cramped, 0, 1⟩, narrow) ∧
      (narrow.inboxRun ⟨cramped, 0, 1⟩ burst).participants[2]? = some speaker ∧
      (narrow.inboxRun ⟨cramped, 0, 1⟩ burst).participants[3]? =
        some ⟨⟨5000, 1024, some ⟨2⟩⟩, ⟨2⟩, some ⟨"alpha", ⟨1⟩, "blue", ⟨4⟩⟩, {}⟩ ∧
      (narrow.inboxRun ⟨cramped, 0, 1⟩ burst).exchange.Accepts ⟨2⟩ ∧
      (narrow.inboxRun ⟨cramped, 0, 1⟩ burst).sendBroadcast speaker [2] =
        .ok (narrow.inboxRun ⟨cramped, 0, 1⟩ burst) ∧
      ((catchUp ⟨cramped, 0, 1⟩ (narrow.inboxRun ⟨cramped, 0, 1⟩ burst)).exchange.mailbox
        ⟨2⟩).notices = [.reflected ⟨1⟩ ⟨1⟩ [1]] := by
  have inbox : InboxIs ⟨cramped, 0, 1⟩ (narrow.inboxRun ⟨cramped, 0, 1⟩ burst) true
      [spoken ⟨"alpha", ⟨1⟩, "red", ⟨1⟩⟩ [1]] := by
    unfold InboxIs
    decide +kernel
  have full := inbox.enqueue_full (by decide) (spoken ⟨"alpha", ⟨1⟩, "red", ⟨1⟩⟩ [2])
  refine ⟨rfl, by decide +kernel, by decide +kernel, by decide +kernel, ?_, by decide +kernel⟩
  exact (inbox.sendBroadcast (by decide +kernel) rfl rfl [2]).trans (congrArg Except.ok full)

end Network

end HlaCoordination
