import HlaCoordination.Proofs.Network.Verdict

/-! What passes between the caller of an operation and whoever listens at the authority's endpoint.
A session that is attached checks an operation by itself. If a check fails, its error is the reply
and nothing is sent; otherwise one message arrives, which carries what the caller gave, and the
reply is the answer. -/
namespace HlaCoordination

open Std Session

def Question.value? : Question → Payload → Option Reply
  | .create, .federationCreated federation => some (.created federation)
  | .join, .joined federate federation => some (.joined federate federation)
  | .list, .federations summaries => some (.federations summaries)
  | .ping, .pong serverTimeMs => some (.pong serverTimeMs)
  | _, _ => none

namespace Session

variable {σ : Type} {membership : Option Membership} {op : Operation} {e : RtiError}

/-- The checks that a session makes before it sends anything. -/
def Permitted (membership : Option Membership) : Operation → Prop
  | .create name _ _ => name ≠ ""
  | .join federation federate => membership = none ∧ federation ≠ "" ∧ federate ≠ ""
  | .resign => membership ≠ none
  | .register label _ _ | .achieve label => membership ≠ none ∧ label ≠ ""
  | .destroy _ | .list | .ping => True

def labelOf : Operation → Option String
  | .register label _ _ | .achieve label => some label
  | .create .. | .destroy _ | .join .. | .resign | .list | .ping => none

/-- The error of the first check that fails. -/
inductive Objection (membership : Option Membership) : Operation → RtiError → Prop where
  | untitled (schema : SchemaRef) (version : HlaVersion) :
      Objection membership (.create "" schema version) (.internal .emptyFederationName)
  | member (federation federate : String) (m : Membership) (held : membership = some m) :
      Objection membership (.join federation federate)
        (.alreadyMember m.federationName m.federateName)
  | nowhere (federate : String) (free : membership = none) :
      Objection membership (.join "" federate) (.federationDoesNotExist "")
  | nameless (federation : String) (free : membership = none) (named : federation ≠ "") :
      Objection membership (.join federation "") (.internal .emptyFederateName)
  | outside (op : Operation) (free : membership = none)
      (speaks : op = .resign ∨ (labelOf op).isSome = true) : Objection membership op .notJoined
  | unlabelled (op : Operation) (m : Membership) (held : membership = some m)
      (empty : labelOf op = some "") : Objection membership op (.internal .emptyLabel)

theorem refusal?_of_permitted (permitted : Permitted membership op) :
    refusal? membership op = none := by
  cases op with
  | create name schema version => exact if_neg permitted
  | destroy | list | ping => rfl
  | join federation federate =>
    obtain ⟨rfl, named, titled⟩ := permitted
    simp only [refusal?, joinRefusal?, named, titled, if_false]
  | resign =>
    obtain ⟨m, rfl⟩ := Option.ne_none_iff_exists'.mp permitted
    rfl
  | register | achieve =>
    obtain ⟨held, labelled⟩ := permitted
    obtain ⟨m, rfl⟩ := Option.ne_none_iff_exists'.mp held
    exact if_neg labelled

theorem refusal?_of_objection (objection : Objection membership op e) :
    refusal? membership op = some e := by
  cases objection with
  | untitled schema version => rfl
  | member federation federate m held =>
    subst held
    rfl
  | nowhere federate free =>
    subst free
    rfl
  | nameless federation free named =>
    subst free
    simp only [refusal?, joinRefusal?, named, if_true, if_false]
  | outside op free speaks =>
    subst free
    cases op with
    | resign | register | achieve => rfl
    | create | destroy | join | list | ping => simp [labelOf] at speaks
  | unlabelled op m held empty =>
    subst held
    cases op with
    | register | achieve =>
      cases empty
      rfl
    | create | destroy | join | resign | list | ping => cases empty

theorem labelled_or_objection (membership : Option Membership) {label : String}
    (labels : labelOf op = some label) :
    membership ≠ none ∧ label ≠ "" ∨ ∃ e, Objection membership op e := by
  cases membership with
  | none => exact Or.inr ⟨_, .outside op rfl (Or.inr (by rw [labels]; rfl))⟩
  | some m =>
    by_cases empty : label = ""
    · subst empty
      exact Or.inr ⟨_, .unlabelled op m rfl labels⟩
    · exact Or.inl ⟨nofun, empty⟩

theorem permitted_or_objection (membership : Option Membership) (op : Operation) :
    Permitted membership op ∨ ∃ e, Objection membership op e := by
  cases op with
  | create name schema version =>
    by_cases empty : name = ""
    · subst empty
      exact Or.inr ⟨_, .untitled schema version⟩
    · exact Or.inl empty
  | destroy | list | ping => exact Or.inl trivial
  | join federation federate =>
    cases membership with
    | some m => exact Or.inr ⟨_, .member federation federate m rfl⟩
    | none =>
      by_cases nowhere : federation = ""
      · subst nowhere
        exact Or.inr ⟨_, .nowhere federate rfl⟩
      · by_cases nameless : federate = ""
        · subst nameless
          exact Or.inr ⟨_, .nameless federation rfl nowhere⟩
        · exact Or.inl ⟨rfl, nowhere, nameless⟩
  | resign =>
    cases membership with
    | none => exact Or.inr ⟨_, .outside .resign rfl (Or.inl rfl)⟩
    | some m => exact Or.inl nofun
  | register label tag targets => exact labelled_or_objection membership rfl
  | achieve label => exact labelled_or_objection membership rfl

theorem objection_iff : (∃ e, Objection membership op e) ↔ ¬ Permitted membership op := by
  constructor
  · rintro ⟨e, objection⟩ permitted
    cases (refusal?_of_permitted permitted).symm.trans (refusal?_of_objection objection)
  · exact fun barred => (permitted_or_objection membership op).resolve_left barred

def questionOf : Operation → Option Question
  | .create .. => some .create
  | .join .. => some .join
  | .list => some .list
  | .ping => some .ping
  | .destroy _ | .resign | .register .. | .achieve _ => none

def silence : Operation → Fault
  | .create .. => .leftUnresolved "create-federation" .createFederation
  | .destroy _ => .leftUnresolved "forward" .destroyFederation
  | .join .. => .joinUnanswered
  | .resign => .leftUnresolved "resign-federation" .resignFederation
  | .list => .leftUnresolved "forward" .listFederations
  | .ping => .leftUnresolved "forward" .ping
  | .register .. => .leftUnresolved "sync-point" .registerSyncPoint
  | .achieve _ => .leftUnresolved "sync-point" .achieveSyncPoint

/-- The reply that the caller of an operation gets for an answer. -/
inductive Relayed (op : Operation) : Response → Except RtiError Reply → Prop where
  | failed (e : RtiError) : Relayed op (.failure e) (.error e)
  | done (payload : Payload) (plain : questionOf op = none) :
      Relayed op (.success payload) (.ok .done)
  | valued (question : Question) (payload : Payload) (value : Reply)
      (asks : questionOf op = some question) (fits : question.value? payload = some value) :
      Relayed op (.success payload) (.ok value)
  | unfit (question : Question) (payload : Payload) (asks : questionOf op = some question)
      (unfit : question.value? payload = none) :
      Relayed op (.success payload) (.error (.internal (.answeredWith question payload)))
  | unanswered : Relayed op .pending (.error (.internal (silence op)))

def heldAfter (membership : Option Membership) (op : Operation) : Response → Option Membership
  | .pending => memberUnanswered membership op
  | .success payload => memberAfter membership op (.success payload)
  | .failure _ => membership

theorem relayed_success (op : Operation) (payload : Payload) :
    Relayed op (.success payload) (replyOf op payload) := by
  cases op with
  | destroy | resign | register | achieve => exact .done payload rfl
  | create | join | list | ping =>
    cases payload <;> first | exact .valued _ _ _ rfl rfl | exact .unfit _ _ rfl rfl

theorem settle_silent {t : Transport σ} {s : Seat σ} {m : ControlMessage}
    {handler : Handler (Seat σ)} (sent : posted membership op = some m)
    (handled : (outgoing t).handler? m.messageType = some handler) :
    Sink.settle handler m.messageType .pending (conclude op ({}, s)).1 =
        .failure (.internal (silence op)) ∧
      (conclude op ({}, s)).2 = { s with membership := memberUnanswered s.membership op } := by
  cases op with
  | create | destroy | list | ping =>
    cases sent
    cases handled
    exact ⟨rfl, rfl⟩
  | join federation federate =>
    cases membership with
    | some m => cases sent
    | none =>
      cases sent
      cases handled
      exact ⟨rfl, rfl⟩
  | resign | register | achieve =>
    obtain ⟨held, rfl, rfl⟩ := Option.map_eq_some_iff.mp sent
    cases handled
    exact ⟨rfl, rfl⟩

/-- The message that an operation of a session arrives as: the arguments of the caller, the id of
the session, and the handles of the membership where the operation speaks for a federate. -/
inductive Bears (membership : Option Membership) (id : SessionId) :
    Operation → ControlMessage → Prop where
  | create (name : String) (schema : SchemaRef) (version : HlaVersion) :
      Bears membership id (.create name schema version)
        ⟨.createFederation name schema version, none, none, some id⟩
  | destroy (name : String) :
      Bears membership id (.destroy name) ⟨.destroyFederation name, none, none, some id⟩
  | join (federation federate : String) :
      Bears membership id (.join federation federate)
        ⟨.joinFederation federation federate, none, none, some id⟩
  | resign (m : Membership) (held : membership = some m) :
      Bears membership id .resign
        ⟨.resignFederation m.federationName m.federate, some m.federate, some m.federation, some id⟩
  | list : Bears membership id .list ⟨.listFederations, none, none, some id⟩
  | ping : Bears membership id .ping ⟨.ping, none, none, some id⟩
  | register (label : String) (tag : Octets) (targets : HandleSet) (m : Membership)
      (held : membership = some m) :
      Bears membership id (.register label tag targets)
        ⟨.registerSyncPoint label tag targets, some m.federate, some m.federation, some id⟩
  | achieve (label : String) (m : Membership) (held : membership = some m) :
      Bears membership id (.achieve label)
        ⟨.achieveSyncPoint label, some m.federate, some m.federation, some id⟩

theorem bears_of_posted {m : ControlMessage} (sent : posted membership op = some m)
    (id : SessionId) : Bears membership id op (m.submittedBy id) := by
  cases op with
  | create name schema version =>
    cases sent
    exact .create name schema version
  | destroy name =>
    cases sent
    exact .destroy name
  | join federation federate =>
    cases membership with
    | some m => cases sent
    | none =>
      cases sent
      exact .join federation federate
  | list =>
    cases sent
    exact .list
  | ping =>
    cases sent
    exact .ping
  | resign =>
    obtain ⟨held, rfl, rfl⟩ := Option.map_eq_some_iff.mp sent
    exact .resign held rfl
  | register label tag targets =>
    obtain ⟨held, rfl, rfl⟩ := Option.map_eq_some_iff.mp sent
    exact .register label tag targets held rfl
  | achieve label =>
    obtain ⟨held, rfl, rfl⟩ := Option.map_eq_some_iff.mp sent
    exact .achieve label held rfl

theorem posted_of_permitted (permitted : Permitted membership op) :
    ∃ m, posted membership op = some m := by
  cases op with
  | create | destroy | list | ping => exact ⟨_, rfl⟩
  | join federation federate =>
    obtain ⟨rfl, -⟩ := permitted
    exact ⟨_, rfl⟩
  | resign =>
    obtain ⟨m, rfl⟩ := Option.ne_none_iff_exists'.mp permitted
    exact ⟨_, rfl⟩
  | register | achieve =>
    obtain ⟨m, rfl⟩ := Option.ne_none_iff_exists'.mp permitted.1
    exact ⟨_, rfl⟩

theorem conclude_link (op : Operation) (sent : Conduct × Seat σ) :
    (conclude op sent).2.link = sent.2.link := by
  cases op with
  | join federation federate =>
    simp only [conclude, enter]
    split <;> rfl
  | resign =>
    simp only [conclude, leave]
    split <;> rfl
  | create | destroy | list | ping | register | achieve => rfl

theorem perform_of_answer {t : Transport σ} {s : Seat σ} {link : σ} {c : MessageContext}
    (permitted : Permitted s.membership op) {m : ControlMessage}
    (sent : posted s.membership op = some m)
    (carried : t ⟨m, .pending⟩ s.link = (Network.conductOf .pending (.ok c), link)) :
    Relayed op c.response (perform t op s).1 ∧
      (perform t op s).2 = ⟨heldAfter s.membership op c.response, link⟩ := by
  obtain ⟨m', handler, sent', handled, performed⟩ :=
    perform_of_sent t (refusal?_of_permitted permitted)
  cases sent.symm.trans sent'
  rw [performed, send_of_sent carried]
  obtain ⟨message, response⟩ := c
  rcases Network.conductOf_cases (.ok ⟨message, response⟩) with conveys | ⟨m', silent, nothing⟩
  · obtain ⟨settled, seated⟩ :=
      conclude_conveys (s := { s with link }) conveys op handler m.messageType
    rw [settled, seated]
    cases response with
    | pending => exact absurd rfl conveys.resolved
    | success payload => exact ⟨relayed_success op payload, rfl⟩
    | failure e =>
      refine ⟨.failed e, ?_⟩
      cases op <;> rfl
  · cases silent
    obtain ⟨settled, seated⟩ := settle_silent (s := { s with link }) sent handled
    rw [nothing, settled, seated]
    exact ⟨.unanswered, rfl⟩

end Session

namespace Network

variable {n : Network} {key : ParticipantId} {p : Participant} {op : Operation} {id : SessionId}
  {present : Attachment}

structure Attended (n : Network) (key : ParticipantId) (p : Participant) (id : SessionId)
    (present : Attachment) : Prop where
  seated : n.participants[key]? = some p
  linked : p.link.session = some id
  attached : id ∈ n.exchange.attached
  opposite : n.exchange.authority = some present

structure Forwarded (n : Network) (key : ParticipantId) (p : Participant) (id : SessionId)
    (present : Attachment) (op : Operation) : Prop where
  refused : ∀ e, Objection p.membership op e → n.perform key p op = (.error e, n)
  checked : (∃ e, Objection p.membership op e) ↔ ¬ Permitted p.membership op
  /-- If the checks pass, the inbox gets the message, and from an answer in time everything else
  follows. -/
  conveyed : Permitted p.membership op → ∃ m, Bears p.membership id op m ∧
    ∀ c n', n.serveControl present.endpoint ⟨m, .pending⟩ = (.answered c, n') →
      Relayed op c.response (n.perform key p op).1 ∧
        (n.perform key p op).2 =
          n'.setParticipant key { p with membership := heldAfter p.membership op c.response }
  /-- The log of a script has one more entry if the checks pass, and else no more. Whatever the
  script is made to answer is the answer. -/
  logged : ∀ script inbox backlog,
    n.endpoints[present.endpoint]?.bind Endpoint.listening = some ⟨.script script, false, backlog⟩ →
      n.scripts[script]? = some inbox →
        (Permitted p.membership op → ∃ m, Bears p.membership id op m ∧
          (n.perform key p op).2.scripts[script]? = some (inbox.record (.control m)) ∧
          ∀ answer, inbox.answer m.messageType = .respond answer →
            Relayed op (answer.elim .pending Response.ofResolution) (n.perform key p op).1) ∧
        (¬ Permitted p.membership op → (n.perform key p op).2.scripts[script]? = some inbox)

theorem Attended.perform_of_objection (attended : Attended n key p id present) {e : RtiError}
    (objection : Objection p.membership op e) : n.perform key p op = (.error e, n) := by
  simp only [perform, performWith,
    perform_of_refusal (s := ⟨p.membership, n⟩) (refusal?_of_objection objection), setParticipant,
    insert_eq_self attended.seated]

theorem Attended.transport_eq (attended : Attended n key p id present) (m : ControlMessage) :
    transport p.link ⟨m, .pending⟩ n =
      ((match (n.serveControl present.endpoint ⟨m.submittedBy id, .pending⟩).1 with
        | .answered c => conductOf .pending (.ok c)
        | .waiting => .fail (.timeout p.link.timeoutMs)
        | .closed => .fail (.internal .inboxClosed)),
        (n.serveControl present.endpoint ⟨m.submittedBy id, .pending⟩).2) := by
  have there : n.exchange.attached.contains id = true :=
    ExtTreeSet.contains_iff_mem.mpr attended.attached
  obtain ⟨service, n', served⟩ : ∃ service n',
      n.serveControl present.endpoint ⟨m.submittedBy id, .pending⟩ = (service, n') := ⟨_, _, rfl⟩
  simp only [transport, transportWith, attended.linked, submitWith, there, if_true,
    attended.opposite, served]
  cases service <;> rfl

/-- If the checks pass, the network afterwards is the one in which the message has arrived, but for
the membership of the session. -/
theorem Attended.perform_arrives (attended : Attended n key p id present)
    (permitted : Permitted p.membership op) {m : ControlMessage}
    (sent : posted p.membership op = some m) :
    ∃ membership, (n.perform key p op).2 =
      (n.serveControl present.endpoint ⟨m.submittedBy id, .pending⟩).2.setParticipant key
        { p with membership } := by
  obtain ⟨m', handler, sent', -, performed⟩ := perform_of_sent (s := ⟨p.membership, n⟩)
    (transport p.link) (refusal?_of_permitted permitted)
  cases sent.symm.trans sent'
  refine ⟨(Session.perform (transport p.link) op ⟨p.membership, n⟩).2.membership, ?_⟩
  have arrived : (Session.perform (transport p.link) op ⟨p.membership, n⟩).2.link =
      (n.serveControl present.endpoint ⟨m.submittedBy id, .pending⟩).2 := by
    rw [performed, conclude_link, send, attended.transport_eq]
  rw [← arrived]
  rfl

theorem Attended.perform_of_answer (attended : Attended n key p id present)
    (permitted : Permitted p.membership op) {m : ControlMessage}
    (sent : posted p.membership op = some m) {c : MessageContext} {n' : Network}
    (answered : n.serveControl present.endpoint ⟨m.submittedBy id, .pending⟩ = (.answered c, n')) :
    Relayed op c.response (n.perform key p op).1 ∧
      (n.perform key p op).2 =
        n'.setParticipant key { p with membership := heldAfter p.membership op c.response } := by
  have carried : transport p.link ⟨m, .pending⟩ n = (conductOf .pending (.ok c), n') := by
    rw [attended.transport_eq, answered]
  obtain ⟨told, held⟩ :=
    Session.perform_of_answer (s := ⟨p.membership, n⟩) permitted sent carried
  refine ⟨told, ?_⟩
  simp only [perform, performWith, held]

section Scripts

variable {e : EndpointId} {script : ScriptId} {backlog : List Inbound} {inbox : ScriptedInbox}
  (listening : n.endpoints[e]?.bind Endpoint.listening = some ⟨.script script, false, backlog⟩)
  (kept : n.scripts[script]? = some inbox)

theorem recordArrival_script (kept : n.scripts[script]? = some inbox) (item : Inbound) :
    (n.recordArrival script item).scripts[script]? = some (inbox.record item) := by
  simp [recordArrival, kept]

include listening kept

theorem serveControl_recorded (c : MessageContext) :
    (n.serveControl e c).2.scripts[script]? = some (inbox.record (.control c.message)) := by
  simp only [serveControl, listening, Bool.false_eq_true, if_false]
  split <;> exact recordArrival_script kept _

theorem serveControl_responds {m : ControlMessage} {answer : Option Resolution}
    (responds : inbox.answer m.messageType = .respond answer) :
    n.serveControl e ⟨m, .pending⟩ =
      (.answered ⟨m, answer.elim .pending Response.ofResolution⟩,
        n.recordArrival script (.control m)) := by
  have replies : (inbox.record (.control m)).reply? ⟨m, .pending⟩ =
      some ⟨m, answer.elim .pending Response.ofResolution⟩ := by
    have asked : (inbox.record (.control m)).answer (MessageContext.messageType ⟨m, .pending⟩) =
        .respond answer := responds
    simp only [ScriptedInbox.reply?, asked]
    cases answer <;> rfl
  simp only [serveControl, listening, Bool.false_eq_true, if_false, recordArrival_script kept,
    Option.bind_some, replies]

end Scripts

/-- A session that is attached sends what passes its checks on to the inbox, once and as it was
given, and passes on what the inbox answers. What fails a check goes no further. -/
theorem perform_forwards (attended : Attended n key p id present) (op : Operation) :
    Forwarded n key p id present op where
  refused _ objection := attended.perform_of_objection objection
  checked := objection_iff
  conveyed permitted := by
    obtain ⟨m, sent⟩ := posted_of_permitted permitted
    refine ⟨m.submittedBy id, bears_of_posted sent id, ?_⟩
    intro c n' answered
    exact attended.perform_of_answer permitted sent answered
  logged script inbox backlog listening kept := by
    constructor
    · intro permitted
      obtain ⟨m, sent⟩ := posted_of_permitted permitted
      obtain ⟨membership, arrived⟩ := attended.perform_arrives permitted sent
      refine ⟨m.submittedBy id, bears_of_posted sent id, ?_⟩
      refine ⟨?_, ?_⟩
      · rw [arrived]
        exact serveControl_recorded listening kept _
      · intro answer responds
        have answered := serveControl_responds listening kept responds
        exact (attended.perform_of_answer permitted sent answered).1
    · intro barred
      obtain ⟨e, objection⟩ := objection_iff.mpr barred
      rw [attended.perform_of_objection objection]
      exact kept

theorem castaway_forwards :
    Attended deserted 2 castaway ⟨1⟩ ⟨"hub", 0⟩ ∧
      Forwarded deserted 2 castaway ⟨1⟩ ⟨"hub", 0⟩ .resign ∧
      Permitted castaway.membership .resign ∧
      (deserted.perform 2 castaway .resign).1 =
        .error (.internal (.leftUnresolved "resign-federation" .resignFederation)) ∧
      (deserted.perform 2 castaway (.create "" {} .ieee1516e)).1 =
        .error (.internal .emptyFederationName) := by
  have attended : Attended deserted 2 castaway ⟨1⟩ ⟨"hub", 0⟩ :=
    ⟨by decide, rfl, by decide, by decide⟩
  exact ⟨attended, perform_forwards attended .resign, nofun, by decide, by decide⟩

end Network

end HlaCoordination
