import HlaCoordination.Session

/-! What a session's operations do through a transport: they fail before anything is sent, or they
send one message and conclude from its answer. -/
namespace HlaCoordination.Session

variable {σ : Type}

/-- The conduct of a transport that comes back with this response to a pending message. -/
inductive Conveys : Conduct → Response → Prop where
  | failed (e : RtiError) : Conveys (.fail e) (.failure e)
  | refused (e : RtiError) : Conveys ⟨[.error e], .error e⟩ (.failure e)
  | answered (p : Payload) : Conveys (.succeed p) (.success p)

variable {t : Transport σ} {c : MessageContext} {s : Seat σ} {conduct : Conduct} {link : σ}
  {response : Response}

theorem Conveys.resolved (h : Conveys conduct response) : response ≠ .pending := by
  cases h <;> exact nofun

@[simp] theorem Conveys.settle (h : Conveys conduct response) (handler : Handler σ)
    (t : MessageType) : Sink.settle handler t .pending conduct = response := by
  cases h <;> rfl

def posted (membership : Option Membership) : Operation → Option ControlMessage
  | .create name schema version => some { request := .createFederation name schema version }
  | .destroy name => some { request := .destroyFederation name }
  | .join federation federate =>
    match membership with
    | none => some { request := .joinFederation federation federate }
    | some _ => none
  | .list => some { request := .listFederations }
  | .ping => some { request := .ping }
  | .resign => membership.map fun m =>
    ControlMessage.fromFederate { request := .resignFederation m.federationName m.federate }
      m.federate m.federation
  | .register label tag targets => membership.map fun m =>
    ControlMessage.fromFederate { request := .registerSyncPoint label tag targets }
      m.federate m.federation
  | .achieve label => membership.map fun m =>
    ControlMessage.fromFederate { request := .achieveSyncPoint label } m.federate m.federation

def memberAfter (membership : Option Membership) : Operation → Response → Option Membership
  | .join federation federate, .success (.joined h f) => some ⟨federation, f, federate, h⟩
  | .resign, .success _ => none
  | _, _ => membership

/-- The membership after a message that came back without an answer. -/
def memberUnanswered (membership : Option Membership) : Operation → Option Membership
  | .resign => none
  | .create .. | .destroy _ | .join .. | .list | .ping | .register .. | .achieve _ => membership

def refusal? (membership : Option Membership) : Operation → Option RtiError
  | .create name _ _ => if name = "" then some (.internal .emptyFederationName) else none
  | .join federation federate => joinRefusal? membership federation federate
  | .resign =>
    match membership with
    | none => some .notJoined
    | some _ => none
  | .register label _ _ | .achieve label =>
    match membership with
    | none => some .notJoined
    | some _ => if label = "" then some (.internal .emptyLabel) else none
  | .destroy _ | .list | .ping => none

theorem send_of_sent (sent : t c s.link = (conduct, link)) :
    send t c s = (conduct, { s with link }) := by
  simp only [send, sent]

/-- What is made of the conduct that comes back, before the sink settles it. -/
def conclude (op : Operation) (sent : Conduct × Seat σ) : Conduct × Seat σ :=
  match op with
  | .join federation federate => enter federation federate .pending sent
  | .resign => leave sent
  | .create .. | .destroy _ | .list | .ping | .register .. | .achieve _ => sent

section Requests

variable {op : Operation} {r : Request} {handler : Handler (Seat σ)}
  (handled : (outgoing t).handler? r.messageType = some handler)
include handled

theorem request_of_handler :
    request t r s =
      (MessageContext.result ⟨{ request := r }, Sink.settle handler r.messageType .pending
          (handler.process ⟨{ request := r }, .pending⟩ s).1⟩,
        (handler.process ⟨{ request := r }, .pending⟩ s).2) := by
  have handled' : (outgoing t).handler? (MessageContext.messageType ⟨{ request := r }, .pending⟩) =
      some handler := handled
  simp only [request, Sink.process, handled']
  rfl

variable (asked : requestOf s.membership op = .ok r)
include asked

theorem perform_of_handler :
    perform t op s =
      ((MessageContext.result ⟨{ request := r }, Sink.settle handler r.messageType .pending
          (handler.process ⟨{ request := r }, .pending⟩ s).1⟩).bind (replyOf op),
        (handler.process ⟨{ request := r }, .pending⟩ s).2) := by
  simp only [perform, asked, request_of_handler handled]

theorem perform_of_fail {e : RtiError}
    (failed : handler.process ⟨{ request := r }, .pending⟩ s = (.fail e, s)) :
    perform t op s = (.error e, s) := by
  rw [perform_of_handler handled asked, failed]
  rfl

end Requests

theorem leave_conveys (conveys : Conveys conduct response) :
    leave (conduct, s) =
      (conduct, { s with membership := memberAfter s.membership .resign response }) := by
  cases conveys <;> rfl

theorem enter_conveys (conveys : Conveys conduct response) (federation federate : String)
    (handler : Handler (Seat σ)) (t : MessageType) :
    Sink.settle handler t .pending (enter federation federate .pending (conduct, s)).1 = response ∧
      (enter federation federate .pending (conduct, s)).2 =
        { s with membership := memberAfter s.membership (.join federation federate) response } := by
  cases conveys with
  | failed e => exact ⟨rfl, rfl⟩
  | refused e => exact ⟨rfl, rfl⟩
  | answered p => cases p <;> exact ⟨rfl, rfl⟩

/-- A response that was conveyed stays, and the membership follows from it. -/
theorem conclude_conveys (conveys : Conveys conduct response) (op : Operation)
    (handler : Handler (Seat σ)) (t : MessageType) :
    Sink.settle handler t .pending (conclude op (conduct, s)).1 = response ∧
      (conclude op (conduct, s)).2 =
        { s with membership := memberAfter s.membership op response } := by
  cases op with
  | join federation federate => exact enter_conveys conveys federation federate handler t
  | resign =>
    rw [conclude, leave_conveys conveys]
    exact ⟨conveys.settle handler t, rfl⟩
  | create | destroy | list | ping | register | achieve => exact ⟨conveys.settle handler t, rfl⟩

theorem conclude_silent (op : Operation) (handler : Handler (Seat σ)) (t : MessageType) :
    ∃ fault, Sink.settle handler t .pending (conclude op ({}, s)).1 = .failure (.internal fault) ∧
      (conclude op ({}, s)).2 = { s with membership := memberUnanswered s.membership op } := by
  cases op with
  | join => exact ⟨.joinUnanswered, rfl, rfl⟩
  | create | destroy | resign | list | ping | register | achieve =>
    exact ⟨.leftUnresolved handler.name t, rfl, rfl⟩

/-- A resignation's request speaks for whatever membership is held when it is sent, not for the one
it names. -/
theorem request_resign {held : Membership} {name : String} {h : FederateHandle} {link' : σ}
    (carried : t ⟨ControlMessage.fromFederate { request := .resignFederation name h }
      held.federate held.federation, .pending⟩ link = (conduct, link'))
    (conveys : Conveys conduct response) :
    (request t (.resignFederation name h) ⟨some held, link⟩).2 =
      ⟨memberAfter (some held) .resign response, link'⟩ := by
  have sent : (resignFederation t).process
      ⟨{ request := .resignFederation name h }, .pending⟩ ⟨some held, link⟩ =
        leave (conduct, ⟨some held, link'⟩) :=
    congrArg leave (send_of_sent carried)
  rw [request_of_handler rfl, sent, leave_conveys conveys]

theorem request_resign_of_free (t : Transport σ) (name : String) (h : FederateHandle) (link : σ) :
    (request t (.resignFederation name h) ⟨none, link⟩).2 = ⟨none, link⟩ := rfl

theorem process_link {type : MessageType} {handler : Handler (Seat σ)}
    (handled : (outgoing t).handler? type = some handler) :
    (handler.process c s).2.link = s.link ∨
      ∃ c', (handler.process c s).2.link = (t c' s.link).2 := by
  have entered (federation federate : String) (arrived : Response) (sent : Conduct × Seat σ) :
      (enter federation federate arrived sent).2.link = sent.2.link := by
    unfold enter
    split <;> rfl
  have left (sent : Conduct × Seat σ) : (leave sent).2.link = sent.2.link := by
    unfold leave
    split <;> rfl
  cases type with
  | createFederation =>
    cases handled
    simp only [createFederation]
    split
    · exact Or.inl rfl
    · exact Or.inr ⟨_, rfl⟩
  | destroyFederation | listFederations | ping =>
    cases handled
    exact Or.inr ⟨c, rfl⟩
  | joinFederation =>
    cases handled
    simp only [joinFederation]
    split
    · split
      · exact Or.inl rfl
      · exact Or.inr ⟨c, entered _ _ _ _⟩
    · exact Or.inl rfl
  | resignFederation =>
    cases handled
    simp only [resignFederation]
    split
    · exact Or.inl rfl
    · exact Or.inr ⟨_, left _⟩
  | registerSyncPoint | achieveSyncPoint =>
    cases handled
    simp only [syncPoint]
    split
    · exact Or.inl rfl
    · split
      · split
        · exact Or.inl rfl
        · exact Or.inr ⟨_, rfl⟩
      · split
        · exact Or.inl rfl
        · exact Or.inr ⟨_, rfl⟩
      · exact Or.inl rfl

theorem perform_link (t : Transport σ) (op : Operation) (s : Seat σ) :
    (perform t op s).2.link = s.link ∨ ∃ c, (perform t op s).2.link = (t c s.link).2 := by
  unfold perform
  cases asked : requestOf s.membership op with
  | error e => exact Or.inl rfl
  | ok r =>
    simp only [request, Sink.process]
    cases handled :
      (outgoing t).handler? (MessageContext.messageType ⟨{ request := r }, .pending⟩) with
    | none => exact Or.inl rfl
    | some handler => exact process_link handled

theorem perform_of_refusal {op : Operation} {e : RtiError}
    (refused : refusal? s.membership op = some e) : perform t op s = (.error e, s) := by
  obtain ⟨membership, link⟩ := s
  cases op with
  | create name schema version =>
    obtain ⟨rfl, rfl⟩ : name = "" ∧ .internal .emptyFederationName = e := by
      simpa [refusal?] using refused
    exact perform_of_fail rfl rfl rfl
  | destroy | list | ping => cases refused
  | join federation federate =>
    refine perform_of_fail rfl rfl ?_
    simp only [refusal?] at refused
    simp only [joinFederation, refused]
  | resign =>
    cases membership with
    | some m => cases refused
    | none =>
      cases refused
      rfl
  | register label tag targets =>
    cases membership with
    | none =>
      cases refused
      exact perform_of_fail rfl rfl rfl
    | some m =>
      obtain ⟨rfl, rfl⟩ : label = "" ∧ .internal .emptyLabel = e := by
        simpa [refusal?] using refused
      exact perform_of_fail rfl rfl rfl
  | achieve label =>
    cases membership with
    | none =>
      cases refused
      exact perform_of_fail rfl rfl rfl
    | some m =>
      obtain ⟨rfl, rfl⟩ : label = "" ∧ .internal .emptyLabel = e := by
        simpa [refusal?] using refused
      exact perform_of_fail rfl rfl rfl

theorem perform_of_sent {op : Operation} (t : Transport σ)
    (free : refusal? s.membership op = none) :
    ∃ (m : ControlMessage) (handler : Handler (Seat σ)), posted s.membership op = some m ∧
      (outgoing t).handler? m.messageType = some handler ∧
      perform t op s =
        ((MessageContext.result ⟨m, Sink.settle handler m.messageType .pending
            (conclude op (send t ⟨m, .pending⟩ s)).1⟩).bind (replyOf op),
          (conclude op (send t ⟨m, .pending⟩ s)).2) := by
  obtain ⟨membership, link⟩ := s
  cases op with
  | create name schema version =>
    have named : name ≠ "" := by simpa [refusal?] using free
    refine ⟨_, createFederation t, rfl, rfl, ?_⟩
    have sends : (createFederation t).process
        ⟨{ request := .createFederation name schema version }, .pending⟩ ⟨membership, link⟩ =
        send t ⟨{ request := .createFederation name schema version }, .pending⟩
          ⟨membership, link⟩ := by
      simp only [createFederation]
      split
      · rename_i he
        exact absurd (Request.createFederation.inj he).1 named
      · rfl
    rw [perform_of_handler rfl rfl, sends]
    rfl
  | destroy | list | ping => exact ⟨_, forward t, rfl, rfl, perform_of_handler rfl rfl⟩
  | join federation federate =>
    cases membership with
    | some m => simp [refusal?, joinRefusal?] at free
    | none =>
      refine ⟨_, joinFederation t, rfl, rfl, ?_⟩
      rw [perform_of_handler rfl rfl]
      simp only [refusal?] at free
      simp only [joinFederation, free]
      rfl
  | resign =>
    cases membership with
    | none => cases free
    | some m => exact ⟨_, resignFederation t, rfl, rfl, perform_of_handler rfl rfl⟩
  | register label tag targets =>
    cases membership with
    | none => cases free
    | some m =>
      have labelled : label ≠ "" := by simpa [refusal?] using free
      refine ⟨_, syncPoint t, rfl, rfl, ?_⟩
      rw [perform_of_handler rfl rfl]
      simp only [syncPoint, labelled, if_false]
      rfl
  | achieve label =>
    cases membership with
    | none => cases free
    | some m =>
      have labelled : label ≠ "" := by simpa [refusal?] using free
      refine ⟨_, syncPoint t, rfl, rfl, ?_⟩
      rw [perform_of_handler rfl rfl]
      simp only [syncPoint, labelled, if_false]
      rfl

/-- An operation fails before anything is sent, or it ends as the answer to its message has it. -/
theorem perform_cases (t : Transport σ) (op : Operation) (s : Seat σ) :
    (∃ e, perform t op s = (.error e, s)) ∨
      ∃ m ∈ posted s.membership op, ∀ conduct link response,
        t ⟨m, .pending⟩ s.link = (conduct, link) → Conveys conduct response →
          perform t op s = ((MessageContext.result ⟨m, response⟩).bind (replyOf op),
            ⟨memberAfter s.membership op response, link⟩) := by
  cases free : refusal? s.membership op with
  | some e => exact Or.inl ⟨e, perform_of_refusal free⟩
  | none =>
    obtain ⟨m, handler, sent, -, performed⟩ := perform_of_sent t free
    refine Or.inr ⟨m, sent, ?_⟩
    intro conduct link response carried conveys
    obtain ⟨settled, seated⟩ := conclude_conveys (s := { s with link }) conveys op handler
      m.messageType
    rw [performed, send_of_sent carried, settled, seated]

end HlaCoordination.Session
