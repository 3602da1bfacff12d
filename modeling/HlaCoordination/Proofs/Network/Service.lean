import HlaCoordination.Daemon
import HlaCoordination.Proofs.Authority
import HlaCoordination.Proofs.Exchange
import HlaCoordination.Proofs.Session

/-! What becomes of a session's request while an authority answers from its registry. Everything
but that registry, the session's membership and the mailboxes stays as it is. -/
namespace HlaCoordination

open Std Session

namespace Network

variable {n : Network} {a : RunningAuthority} {r r' : Registry}

theorem sendAll_eq (n : Network) (outbox : List Broadcast) :
    ∃ mailboxes, n.sendAll outbox = { n with exchange := { n.exchange with mailboxes } } := by
  induction outbox generalizing n with
  | nil => exact ⟨n.exchange.mailboxes, rfl⟩
  | cons b rest ih =>
    cases hb : b.audience with
    | federation =>
      obtain ⟨mailboxes, h⟩ := ih n
      refine ⟨mailboxes, ?_⟩
      rw [← h]
      simp only [sendAll, List.foldl_cons, authorityBroadcast, hb]
    | sessions ids =>
      obtain ⟨boxes, delivered⟩ := n.exchange.deliver_eq b.notice ids
      obtain ⟨mailboxes, h⟩ := ih { n with exchange := { n.exchange with mailboxes := boxes } }
      refine ⟨mailboxes, ?_⟩
      rw [sendAll, List.foldl_cons]
      simp only [authorityBroadcast, hb, delivered]
      exact h

theorem reflectFrom_eq (n : Network) (id : RegistryId) (b : Broadcast) :
    ∃ mailboxes, n.reflectFrom id b = { n with exchange := { n.exchange with mailboxes } } := by
  unfold reflectFrom
  split
  · exact sendAll_eq n _
  · exact ⟨n.exchange.mailboxes, rfl⟩

/-- The authority is attached, and its inbox is at rest and answers from its registry. -/
structure Served (a : RunningAuthority) (n : Network) (r : Registry) : Prop where
  attached : n.exchange.authority = some ⟨authorityName, a.endpoint⟩
  listening : n.endpoints[a.endpoint]?.bind Endpoint.listening =
    some { inbox := .registry a.registry }
  kept : n.registries[a.registry]? = some r

/-- An authority that starts is served by a new registry. It finds the sessions as they are. -/
theorem startAuthority_served {config : Config} {n' : Network}
    (started : n.startAuthority config = .ok (a, n')) :
    Served a n' { policy := config.resignPolicy } ∧ n'.participants = n.participants ∧
      n'.exchange.attached = n.exchange.attached := by
  unfold startAuthority openEndpoint at started
  by_cases supported : config.connection.isSupported = true
  · simp only [supported, if_true, fresh, openRegistry, bindInbox, connectEndpoint,
      ExtTreeMap.getElem?_modify, ExtTreeMap.getElem?_insert_self, Std.compare_self,
      Option.map_some, Exchange.attachAuthority] at started
    cases free : n.exchange.authority with
    | some present => simp [free] at started
    | none =>
      simp only [free, Except.ok.injEq, Prod.mk.injEq] at started
      obtain ⟨rfl, rfl⟩ := started
      exact ⟨⟨rfl, by simp, by simp⟩, rfl, rfl⟩
  · simp [supported] at started

def revised (n : Network) (a : RunningAuthority) (r : Registry)
    (mailboxes : ExtTreeMap SessionId Mailbox) : Network :=
  { n with
    registries := n.registries.insert a.registry r
    exchange := { n.exchange with mailboxes } }

theorem Served.revised_self (hs : Served a n r) : n.revised a r n.exchange.mailboxes = n := by
  simp only [revised, insert_eq_self hs.kept]

theorem conveys_answer {c : MessageContext} (resolved : c.response ≠ .pending) :
    Conveys (conductOf .pending (.ok c)) c.response := by
  obtain ⟨m, response⟩ := c
  cases response with
  | pending => exact absurd rfl resolved
  | success p => exact .answered p
  | failure e => exact .refused e

theorem serveControl_eq (hs : Served a n r) (c : MessageContext) :
    n.serveControl a.endpoint c =
      (.answered (Authority.receiveControl n.clock r c).context,
        (n.setRegistry a.registry (Authority.receiveControl n.clock r c).registry).sendAll
          (Authority.receiveControl n.clock r c).outbox) := by
  simp only [serveControl, hs.listening, answerFrom, hs.kept, Bool.false_eq_true, if_false]

theorem serveBroadcast_eq (hs : Served a n r) (b : Broadcast) :
    n.serveBroadcast a.endpoint b = .ok (n.reflectFrom a.registry b) := by
  simp only [serveBroadcast, hs.listening, Bool.false_eq_true, if_false]

theorem serveControl_of_served (hs : Served a n r) (c : MessageContext) :
    ∃ mailboxes, n.serveControl a.endpoint c =
      (.answered (Authority.receiveControl n.clock r c).context,
        n.revised a (Authority.receiveControl n.clock r c).registry mailboxes) := by
  obtain ⟨mailboxes, sent⟩ := sendAll_eq
    (n.setRegistry a.registry (Authority.receiveControl n.clock r c).registry)
    (Authority.receiveControl n.clock r c).outbox
  refine ⟨mailboxes, ?_⟩
  rw [serveControl_eq hs, sent]
  rfl

theorem submit_of_served (hs : Served a n r) {id : SessionId} (attached : id ∈ n.exchange.attached)
    (late : EndpointId → Network → RtiError × Network) (m : ControlMessage) :
    ∃ mailboxes, submitWith late id ⟨m, .pending⟩ n =
      (.ok (Authority.receiveControl n.clock r ⟨m.submittedBy id, .pending⟩).context,
        n.revised a (Authority.receiveControl n.clock r ⟨m.submittedBy id, .pending⟩).registry
          mailboxes) := by
  obtain ⟨mailboxes, served⟩ := serveControl_of_served hs ⟨m.submittedBy id, .pending⟩
  refine ⟨mailboxes, ?_⟩
  have there : n.exchange.attached.contains id = true := ExtTreeSet.contains_iff_mem.mpr attached
  simp only [submitWith, there, if_true, hs.attached, served]

theorem transport_of_attached (hs : Served a n r) {link : SessionLink} {id : SessionId}
    (linked : link.session = some id) (attached : id ∈ n.exchange.attached) (m : ControlMessage) :
    ∃ mailboxes, transport link ⟨m, .pending⟩ n =
      (conductOf .pending
          (.ok (Authority.receiveControl n.clock r ⟨m.submittedBy id, .pending⟩).context),
        n.revised a (Authority.receiveControl n.clock r ⟨m.submittedBy id, .pending⟩).registry
          mailboxes) := by
  obtain ⟨mailboxes, submitted⟩ :=
    submit_of_served hs attached (fun _ n => (.timeout link.timeoutMs, n)) m
  refine ⟨mailboxes, ?_⟩
  simp only [transport, transportWith, linked, submitted]

theorem transport_of_detached {link : SessionLink}
    (detached : ∀ id ∈ link.session, id ∉ n.exchange.attached) (c : MessageContext) :
    ∃ e, transport link c n = (.fail e, n) := by
  unfold transport transportWith
  cases session : link.session with
  | none => exact ⟨_, rfl⟩
  | some id =>
    have gone : ¬ n.exchange.attached.contains id = true :=
      mt ExtTreeSet.contains_iff_mem.mp (detached id session)
    simp only [submitWith, gone, Bool.false_eq_true, if_false]
    exact ⟨_, rfl⟩

theorem transport_answered (hs : Served a n r) (hr : r.Coherent) (link : SessionLink)
    (m : ControlMessage) :
    (∃ e, transport link ⟨m, .pending⟩ n = (.fail e, n)) ∨
      ∃ id conduct response r' mailboxes, link.session = some id ∧
        transport link ⟨m, .pending⟩ n = (conduct, n.revised a r' mailboxes) ∧
        Conveys conduct response ∧ Authority.Answered r (m.submittedBy id) response r' := by
  by_cases there : ∃ id ∈ link.session, id ∈ n.exchange.attached
  · obtain ⟨id, linked, attached⟩ := there
    obtain ⟨mailboxes, carried⟩ := transport_of_attached hs linked attached m
    have answered := Authority.receiveControl_answered hr n.clock
      (c := ⟨m.submittedBy id, .pending⟩) rfl
    exact Or.inr ⟨id, _, _, _, mailboxes, linked, carried, conveys_answer answered.resolved,
      answered⟩
  · refine Or.inl (transport_of_detached ?_ ⟨m, .pending⟩)
    intro id linked attached
    exact there ⟨id, linked, attached⟩

/-- What an operation of a session does to the authority's registry and to its membership. -/
inductive OperationEffect (r : Registry) (link : SessionLink) (membership : Option Membership) :
    Operation → Except RtiError Reply → Registry → Option Membership → Prop where
  | failed (op : Operation) (e : RtiError) :
      OperationEffect r link membership op (.error e) r membership
  | asked (op : Operation) (reply : Except RtiError Reply) (question : op = .list ∨ op = .ping) :
      OperationEffect r link membership op reply r membership
  | created (name : String) (schema : SchemaRef) (version : HlaVersion) (f : Federation)
      (r' : Registry) (ok : r.create name schema version = (.ok f, r')) :
      OperationEffect r link membership (.create name schema version) (.ok (.created f.handle)) r'
        membership
  | destroyed (name : String) (r' : Registry) (ok : r.destroy name = (.ok (), r')) :
      OperationEffect r link membership (.destroy name) (.ok .done) r' membership
  | joined (federation federate : String) (id : SessionId) (f g : Federation) (h : FederateHandle)
      (owed : List Delivery) (free : membership = none) (connected : link.session = some id)
      (found : r.lookup federation = .ok f) (ok : f.join federate (some id) = (.ok (h, owed), g)) :
      OperationEffect r link membership (.join federation federate) (.ok (.joined h g.handle))
        (r.put g) (some ⟨federation, g.handle, federate, h⟩)
  | resigned (m : Membership) (f : Federation) (held : membership = some m)
      (found : r.lookup m.federationName = .ok f) :
      OperationEffect r link membership .resign (.ok .done) (r.put (f.resign m.federate).2) none
  | synced (op : Operation) (m : Membership) (f : Federation) (sync : SyncTable)
      (held : membership = some m) (found : r.lookupHandle m.federation = .ok f)
      (member : m.federate ∈ f.federates) :
      OperationEffect r link membership op (.ok .done) (r.put { f with sync }) membership

theorem effect_of_answered {link : SessionLink} {id : SessionId} {membership : Option Membership}
    {op : Operation} {m : ControlMessage} {response : Response} (connected : link.session = some id)
    (sent : m ∈ posted membership op)
    (answered : Authority.Answered r (m.submittedBy id) response r') :
    OperationEffect r link membership op
      ((MessageContext.result ⟨m, response⟩).bind (replyOf op)) r'
      (memberAfter membership op response) := by
  cases op with
  | create name schema version =>
    cases sent
    cases answered with
    | refused e => exact .failed _ e
    | created _ _ _ f _ asked ok =>
      cases asked
      exact .created name schema version f r' ok
    | listed asked | pong _ asked | destroyed _ _ asked | joined _ _ _ _ _ _ asked
    | resigned _ _ _ asked | synced _ _ _ _ asked => cases asked
  | destroy name =>
    cases sent
    cases answered with
    | refused e => exact .failed _ e
    | destroyed _ _ asked ok =>
      cases asked
      exact .destroyed name r' ok
    | listed asked | pong _ asked | created _ _ _ _ _ asked | joined _ _ _ _ _ _ asked
    | resigned _ _ _ asked | synced _ _ _ _ asked => cases asked
  | join federation federate =>
    cases membership with
    | some m => cases sent
    | none =>
      cases sent
      cases answered with
      | refused e => exact .failed _ e
      | joined _ _ f g h owed asked found ok =>
        cases asked
        exact .joined federation federate id f g h owed rfl connected found ok
      | listed asked | pong _ asked | created _ _ _ _ _ asked | destroyed _ _ asked
      | resigned _ _ _ asked | synced _ _ _ _ asked => cases asked
  | resign =>
    obtain ⟨held, rfl, rfl⟩ := Option.map_eq_some_iff.mp sent
    cases answered with
    | refused e => exact .failed _ e
    | resigned _ _ f asked found =>
      cases asked
      exact .resigned held f rfl found
    | listed asked | pong _ asked | created _ _ _ _ _ asked | destroyed _ _ asked
    | joined _ _ _ _ _ _ asked | synced _ _ _ _ asked => cases asked
  | list =>
    cases sent
    cases answered with
    | refused e => exact .failed _ e
    | listed => exact .asked _ _ (Or.inl rfl)
    | pong _ asked | created _ _ _ _ _ asked | destroyed _ _ asked | joined _ _ _ _ _ _ asked
    | resigned _ _ _ asked | synced _ _ _ _ asked => cases asked
  | ping =>
    cases sent
    cases answered with
    | refused e => exact .failed _ e
    | pong => exact .asked _ _ (Or.inr rfl)
    | listed asked | created _ _ _ _ _ asked | destroyed _ _ asked | joined _ _ _ _ _ _ asked
    | resigned _ _ _ asked | synced _ _ _ _ asked => cases asked
  | register label tag targets =>
    obtain ⟨held, rfl, rfl⟩ := Option.map_eq_some_iff.mp sent
    cases answered with
    | refused e => exact .failed _ e
    | synced _ _ f sync asked speaker address found member =>
      cases speaker
      cases address
      exact .synced _ held f sync rfl found member
    | listed asked | pong _ asked | created _ _ _ _ _ asked | destroyed _ _ asked
    | joined _ _ _ _ _ _ asked | resigned _ _ _ asked => cases asked
  | achieve label =>
    obtain ⟨held, rfl, rfl⟩ := Option.map_eq_some_iff.mp sent
    cases answered with
    | refused e => exact .failed _ e
    | synced _ _ f sync asked speaker address found member =>
      cases speaker
      cases address
      exact .synced _ held f sync rfl found member
    | listed asked | pong _ asked | created _ _ _ _ _ asked | destroyed _ _ asked
    | joined _ _ _ _ _ _ asked | resigned _ _ _ asked => cases asked

/-- An operation of a session has one of these effects, and no other on the network but on the
mailboxes. -/
theorem perform_effect (hs : Served a n r) (hr : r.Coherent) (key : ParticipantId) (p : Participant)
    (op : Operation) :
    ∃ reply r' membership mailboxes,
      n.perform key p op =
        (reply, (n.revised a r' mailboxes).setParticipant key { p with membership }) ∧
      OperationEffect r p.link p.membership op reply r' membership := by
  have failed {e : RtiError} {membership : Option Membership}
      (hp : Session.perform (transport p.link) op ⟨p.membership, n⟩ = (.error e, ⟨membership, n⟩))
      (kept : membership = p.membership) :
      ∃ reply r' membership mailboxes,
        n.perform key p op =
          (reply, (n.revised a r' mailboxes).setParticipant key { p with membership }) ∧
        OperationEffect r p.link p.membership op reply r' membership := by
    subst kept
    refine ⟨.error e, r, p.membership, n.exchange.mailboxes, ?_, .failed op e⟩
    simp only [perform, performWith, hp, hs.revised_self]
  rcases Session.perform_cases (transport p.link) op ⟨p.membership, n⟩ with
    ⟨e, idle⟩ | ⟨m, sent, ends⟩
  · exact failed idle rfl
  · rcases transport_answered hs hr p.link m with
      ⟨e, stopped⟩ | ⟨id, conduct, response, r', mailboxes, connected, carried, conveys, answered⟩
    · refine failed (ends _ n _ stopped (.failed e)) ?_
      cases op <;> rfl
    · refine ⟨_, r', _, mailboxes, ?_, effect_of_answered connected sent answered⟩
      simp only [perform, performWith, ends conduct _ response carried conveys]

end Network

end HlaCoordination
