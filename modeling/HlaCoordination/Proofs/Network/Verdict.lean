import HlaCoordination.Proofs.Network.Calls

/-! What a session holds after an operation, whoever sits behind the inbox and whatever comes back
for its message. An error leaves the membership as it was, with one exception: a resignation whose
message comes back without an answer fails and gives the membership up. -/
namespace HlaCoordination

open Std Session

namespace Network

variable {n : Network} {key : ParticipantId} {p : Participant} {op : Operation}

def membershipOf (n : Network) (key : ParticipantId) : Option Membership :=
  n.participants[key]?.bind Participant.membership

@[simp] theorem membershipOf_setParticipant (n : Network) (key : ParticipantId) (p : Participant) :
    (n.setParticipant key p).membershipOf key = p.membership := by
  simp [membershipOf, setParticipant]

/-- What a message comes back with. A link that does not get it through answers with its error. -/
def answerTo (n : Network) (link : SessionLink) (m : ControlMessage) : Response :=
  match link.session with
  | none => .failure (.internal .sessionNotConnected)
  | some id =>
    match (submitWith (fun _ n => (.timeout link.timeoutMs, n)) id ⟨m, .pending⟩ n).1 with
    | .error e => .failure e
    | .ok c => c.response

theorem conductOf_cases (answer : Except RtiError MessageContext) :
    Conveys (conductOf .pending answer)
        (match answer with
          | .error e => .failure e
          | .ok c => c.response) ∨
      ∃ m, answer = .ok ⟨m, .pending⟩ ∧ conductOf .pending answer = {} := by
  rcases answer with e | ⟨m, response⟩
  · exact Or.inl (.failed e)
  · cases response with
    | pending => exact Or.inr ⟨m, rfl, rfl⟩
    | success payload => exact Or.inl (.answered payload)
    | failure e => exact Or.inl (.refused e)

theorem transport_answerTo (n : Network) (link : SessionLink) (m : ControlMessage) :
    Conveys (transport link ⟨m, .pending⟩ n).1 (n.answerTo link m) ∨
      n.answerTo link m = .pending ∧ (transport link ⟨m, .pending⟩ n).1 = {} := by
  unfold transport transportWith answerTo
  cases link.session with
  | none => exact Or.inl (.failed _)
  | some id =>
    rcases conductOf_cases
      (submitWith (fun _ n => (.timeout link.timeoutMs, n)) id ⟨m, .pending⟩ n).1 with
      conveys | ⟨m', silent, nothing⟩
    · exact Or.inl conveys
    · refine Or.inr ⟨?_, nothing⟩
      simp only [silent]

/-- The three ways in which an operation ends: nothing was sent, nothing was answered, or the reply
follows from the answer. -/
inductive Ending (n : Network) (p : Participant) (op : Operation) :
    Except RtiError Reply → Option Membership → Prop where
  | refused (e : RtiError) (invalid : refusal? p.membership op = some e) :
      Ending n p op (.error e) p.membership
  | unanswered (m : ControlMessage) (fault : Fault) (sent : posted p.membership op = some m)
      (silent : n.answerTo p.link m = .pending) :
      Ending n p op (.error (.internal fault)) (memberUnanswered p.membership op)
  | answered (m : ControlMessage) (response : Response) (sent : posted p.membership op = some m)
      (came : n.answerTo p.link m = response) (resolved : response ≠ .pending) :
      Ending n p op ((MessageContext.result ⟨m, response⟩).bind (replyOf op))
        (memberAfter p.membership op response)

theorem perform_ending (n : Network) (key : ParticipantId) (p : Participant) (op : Operation) :
    Ending n p op (n.perform key p op).1 ((n.perform key p op).2.membershipOf key) := by
  have seated : (n.perform key p op).2.membershipOf key =
      (Session.perform (transport p.link) op ⟨p.membership, n⟩).2.membership :=
    membershipOf_setParticipant ..
  rw [seated]
  change Ending n p op (Session.perform (transport p.link) op ⟨p.membership, n⟩).1 _
  cases free : refusal? p.membership op with
  | some e =>
    rw [perform_of_refusal free]
    exact .refused e free
  | none =>
    obtain ⟨m, handler, sent, -, performed⟩ := perform_of_sent (s := ⟨p.membership, n⟩)
      (transport p.link) free
    obtain ⟨conduct, n', carried⟩ :
        ∃ conduct n', transport p.link ⟨m, .pending⟩ n = (conduct, n') := ⟨_, _, rfl⟩
    rw [performed, send_of_sent carried]
    have answer := transport_answerTo n p.link m
    rw [carried] at answer
    rcases answer with conveys | ⟨silent, rfl⟩
    · obtain ⟨settled, held⟩ := conclude_conveys (s := ⟨p.membership, n'⟩) conveys op handler
        m.messageType
      rw [settled, held]
      exact .answered m _ sent rfl conveys.resolved
    · obtain ⟨fault, settled, held⟩ := conclude_silent (s := ⟨p.membership, n'⟩) op handler
        m.messageType
      rw [settled, held]
      exact .unanswered m fault sent silent

/-- A resignation whose message comes back without an answer. -/
def Forsaken (n : Network) (p : Participant) (op : Operation) : Prop :=
  op = .resign ∧ ∃ m, posted p.membership .resign = some m ∧ n.answerTo p.link m = .pending

structure Verdict (n : Network) (p : Participant) (op : Operation)
    (reply : Except RtiError Reply) (membership : Option Membership) : Prop where
  failed : ∀ e, reply = .error e → (membership = p.membership ↔ ¬ n.Forsaken p op)
  /-- A resignation that is not answered fails and gives the membership up. -/
  forsaken : n.Forsaken p op → membership = none ∧ p.membership ≠ none ∧
    ∃ fault, reply = .error (.internal fault)
  joined : ∀ federation federate value, op = .join federation federate → reply = .ok value →
    ∃ h f m, posted p.membership op = some m ∧ n.answerTo p.link m = .success (.joined h f) ∧
      value = .joined h f ∧ membership = some ⟨federation, f, federate, h⟩
  resigned : ∀ value, op = .resign → reply = .ok value → membership = none
  kept : ∀ value, reply = .ok value → (∀ federation federate, op ≠ .join federation federate) →
    op ≠ .resign → membership = p.membership

theorem Forsaken.posted (h : n.Forsaken p op) {m : ControlMessage}
    (sent : posted p.membership op = some m) : n.answerTo p.link m = .pending := by
  obtain ⟨rfl, m', sent', silent⟩ := h
  cases sent.symm.trans sent'
  exact silent

theorem memberAfter_of_error {membership : Option Membership} {m : ControlMessage}
    {response : Response} {e : RtiError} (resolved : response ≠ .pending)
    (failed : (MessageContext.result ⟨m, response⟩).bind (replyOf op) = .error e) :
    memberAfter membership op response = membership := by
  cases response with
  | pending => exact absurd rfl resolved
  | failure e' => cases op <;> rfl
  | success payload =>
    cases op with
    | resign => cases failed
    | join federation federate =>
      cases payload with
      | joined h f => cases failed
      | empty | federationCreated | federations | pong => rfl
    | create | destroy | list | ping | register | achieve => rfl

theorem Ending.failed {reply : Except RtiError Reply} {membership : Option Membership}
    (ending : Ending n p op reply membership) (e : RtiError) (failed : reply = .error e) :
    membership = p.membership ↔ ¬ n.Forsaken p op := by
  cases ending with
  | refused e' invalid =>
    refine iff_of_true rfl ?_
    rintro ⟨rfl, m, sent, -⟩
    obtain ⟨held, member, -⟩ := Option.map_eq_some_iff.mp sent
    simp [refusal?, member] at invalid
  | unanswered m fault sent silent =>
    by_cases resigns : op = .resign
    · subst resigns
      obtain ⟨held, member, -⟩ := Option.map_eq_some_iff.mp sent
      refine iff_of_false ?_ (not_not_intro ⟨rfl, m, sent, silent⟩)
      simp [memberUnanswered, member]
    · refine iff_of_true ?_ fun forsaken => resigns forsaken.1
      cases op with
      | resign => exact absurd rfl resigns
      | create | destroy | join | list | ping | register | achieve => rfl
  | answered m response sent came resolved =>
    refine iff_of_true (memberAfter_of_error resolved failed) fun forsaken => ?_
    exact resolved (came.symm.trans (forsaken.posted sent))

theorem Ending.forsaken {reply : Except RtiError Reply} {membership : Option Membership}
    (ending : Ending n p op reply membership) (forsaken : n.Forsaken p op) :
    membership = none ∧ p.membership ≠ none ∧ ∃ fault, reply = .error (.internal fault) := by
  obtain ⟨rfl, m, sent, silent⟩ := forsaken
  obtain ⟨held, member, -⟩ := Option.map_eq_some_iff.mp sent
  cases ending with
  | refused e invalid => simp [refusal?, member] at invalid
  | unanswered m' fault => exact ⟨rfl, by simp [member], fault, rfl⟩
  | answered m' response sent' came resolved =>
    cases sent.symm.trans sent'
    exact absurd (came.symm.trans silent) resolved

theorem Ending.done {reply : Except RtiError Reply} {membership : Option Membership}
    (ending : Ending n p op reply membership) {value : Reply} (done : reply = .ok value) :
    ∃ m payload, posted p.membership op = some m ∧ n.answerTo p.link m = .success payload ∧
      replyOf op payload = .ok value ∧
      membership = memberAfter p.membership op (.success payload) := by
  cases ending with
  | refused => cases done
  | unanswered => cases done
  | answered m response sent came resolved =>
    cases response with
    | pending => exact absurd rfl resolved
    | failure e => cases done
    | success payload => exact ⟨m, payload, sent, came, done, rfl⟩

/-- Whatever comes back for an operation's message, and from whomever, the membership afterwards
fits the verdict. -/
theorem verdict_fits (n : Network) (key : ParticipantId) (p : Participant) (op : Operation) :
    Verdict n p op (n.perform key p op).1 ((n.perform key p op).2.membershipOf key) where
  failed := (n.perform_ending key p op).failed
  forsaken := (n.perform_ending key p op).forsaken
  joined := by
    rintro federation federate value rfl succeeded
    obtain ⟨m, payload, sent, came, replied, held⟩ :=
      (n.perform_ending key p (.join federation federate)).done succeeded
    cases payload with
    | joined h f =>
      cases replied
      exact ⟨h, f, m, sent, came, rfl, held⟩
    | empty | federationCreated | federations | pong => cases replied
  resigned := by
    rintro value rfl succeeded
    obtain ⟨m, payload, -, -, -, held⟩ := (n.perform_ending key p .resign).done succeeded
    exact held
  kept := by
    intro value succeeded joins resigns
    obtain ⟨m, payload, -, -, -, held⟩ := (n.perform_ending key p op).done succeeded
    cases op with
    | join federation federate => exact absurd rfl (joins federation federate)
    | resign => exact absurd rfl resigns
    | create | destroy | list | ping | register | achieve => exact held

/-- An inbox that admits whoever joins and gives a resignation back without an answer. -/
def forgetful : ScriptedInbox where
  answer
    | .joinFederation => .respond (some (.ok (.joined ⟨4⟩ ⟨2⟩)))
    | .resignFederation => .respond none
    | _ => .respond (some (.ok .empty))

def deserted : Network :=
  match ({} : Network).openEndpoint "hub" {} with
  | .error _ => {}
  | .ok (endpoint, n) =>
    let (script, n) := n.openScript forgetful
    match (n.bindInbox endpoint (.script script)).connectEndpoint endpoint with
    | .error _ => {}
    | .ok n => n.after [.request 2 (.join "alpha" "red"), .connect {}]

def castaway : Participant where
  link := ⟨5000, 1024, some ⟨1⟩⟩
  mailbox := ⟨1⟩
  membership := some ⟨"alpha", ⟨2⟩, "red", ⟨4⟩⟩

/-- The resignation fails, and the membership is gone. -/
theorem castaway_forsaken :
    deserted.participants[2]? = some castaway ∧
      castaway.membership = some ⟨"alpha", ⟨2⟩, "red", ⟨4⟩⟩ ∧
      (deserted.perform 2 castaway .resign).1 =
        .error (.internal (.leftUnresolved "resign-federation" .resignFederation)) ∧
      (deserted.perform 2 castaway .resign).2.membershipOf 2 = none := by
  decide

end Network

end HlaCoordination
