import HlaCoordination.Proofs.Network.Succession

/-! Sessions that are in no table of the exchange: they have disconnected, or the authority they
attached under has left. Their requests are turned away. A broadcast is not checked for its sender:
if another authority has attached, it is handed to the federation that has the sender's old handle
there. -/
namespace HlaCoordination

open Std Session

theorem Federation.mem_sessionsExcept_iff {f : Federation} {h : FederateHandle} {id : SessionId} :
    id ∈ f.sessionsExcept (some h) ↔
      ∃ e ∈ f.federates.values, e.handle ≠ h ∧ e.session = some id := by
  simp [sessionsExcept, List.mem_filterMap, and_assoc]

namespace Network

variable {n : Network} {a : RunningAuthority} {r : Registry} {key : ParticipantId} {p : Participant}

def hosted (n : Network) : Option Registry :=
  match n.exchange.authority.bind fun present =>
    n.endpoints[present.endpoint]?.bind Endpoint.listening with
  | some { inbox := .registry id, .. } => n.registries[id]?
  | _ => none

theorem Served.hosted (hs : Served a n r) : n.hosted = some r := by
  simp only [Network.hosted, hs.attached, Option.bind_some, hs.listening, hs.kept]

def Absent (n : Network) (p : Participant) : Prop :=
  ∀ id ∈ p.link.session, id ∉ n.exchange.attached

inductive Overhears (n : Network) (p : Participant) (id : SessionId) : Prop where
  | intro (sender : SessionId) (m : Membership) (r : Registry) (f : Federation) (e : Federate)
      (linked : p.link.session = some sender) (member : p.membership = some m)
      (hosted : n.hosted = some r) (found : r.lookupHandle m.federation = .ok f)
      (joined : e ∈ f.federates.values) (other : e.handle ≠ m.federate)
      (theirs : e.session = some id) (accepts : n.exchange.Accepts id)

theorem setParticipant_self (there : n.participants[key]? = some p) :
    n.setParticipant key p = n := by
  simp only [setParticipant, insert_eq_self there]

/-- The requests of a session that is not in the table fail and change nothing. -/
theorem perform_absent (there : n.participants[key]? = some p) (absent : n.Absent p)
    (op : Operation) : ∃ e, n.perform key p op = (.error e, n) := by
  have failed {e : RtiError}
      (hp : Session.perform (transport p.link) op ⟨p.membership, n⟩ =
        (.error e, ⟨p.membership, n⟩)) :
      ∃ e, n.perform key p op = (.error e, n) := by
    refine ⟨e, ?_⟩
    simp only [perform, performWith, hp]
    exact congrArg _ (setParticipant_self there)
  rcases Session.perform_cases (transport p.link) op ⟨p.membership, n⟩ with
    ⟨e, idle⟩ | ⟨m, -, ends⟩
  · exact failed idle
  · obtain ⟨e, stopped⟩ := transport_of_detached absent ⟨m, .pending⟩
    have kept : memberAfter p.membership op (.failure e) = p.membership := by cases op <;> rfl
    have refused := ends _ n _ stopped (.failed e)
    simp only [kept] at refused
    exact failed refused

def delivered (n : Network) (notice : Notice) (ids : List SessionId) : Network :=
  { n with exchange := (n.exchange.deliver notice ids).2 }

theorem reflectFrom_of_kept {id : RegistryId} (kept : n.registries[id]? = some r)
    (b : Broadcast) : n.reflectFrom id b = n.delivered b.notice (Authority.recipients r b) := by
  simp only [reflectFrom, kept, Option.bind_some, Authority.receiveBroadcast]
  cases recipients : Authority.recipients r b with
  | nil => rfl
  | cons first rest => rfl

theorem sendBroadcast_of_served (hs : Served a n r) {sender : SessionId} {m : Membership}
    (linked : p.link.session = some sender) (member : p.membership = some m) (payload : Octets) :
    n.sendBroadcast p payload =
      .ok (n.delivered (.reflected m.federation m.federate payload)
        (Authority.recipients r (.toFederation m.federation m.federate payload))) := by
  simp only [sendBroadcast, member, broadcastOf, Except.bind, forwardBroadcast, linked, hs.attached,
    serveBroadcast_eq hs, reflectFrom_of_kept hs.kept]
  rfl

theorem call_broadcast_of_served (hs : Served a n r) (there : n.participants[key]? = some p)
    {sender : SessionId} {m : Membership} (linked : p.link.session = some sender)
    (member : p.membership = some m) (payload : Octets) :
    (n.call (.broadcast key payload)).2 =
      n.delivered (.reflected m.federation m.federate payload)
        (Authority.recipients r (.toFederation m.federation m.federate payload)) := by
  simp only [call, onParticipant, there, sendBroadcast_of_served hs linked member]

def Mute (n : Network) (p : Participant) : Prop :=
  p.link.session = none ∨ p.membership = none ∨ n.exchange.authority = none

theorem call_broadcast_of_mute (there : n.participants[key]? = some p) (mute : n.Mute p)
    (payload : Octets) : (n.call (.broadcast key payload)).2 = n := by
  simp only [call, onParticipant, there, sendBroadcast]
  cases member : p.membership with
  | none => rfl
  | some m =>
    cases linked : p.link.session with
    | none => simp only [broadcastOf, Except.bind, forwardBroadcast, linked]
    | some sender =>
      have vacant : n.exchange.authority = none := by simpa [Mute, member, linked] using mute
      simp only [broadcastOf, Except.bind, forwardBroadcast, linked, vacant]

theorem mem_recipients_iff {m : Membership} {payload : Octets} {id : SessionId} :
    id ∈ Authority.recipients r (.toFederation m.federation m.federate payload) ↔
      ∃ f, r.lookupHandle m.federation = .ok f ∧
        ∃ e ∈ f.federates.values, e.handle ≠ m.federate ∧ e.session = some id := by
  simp only [Authority.recipients, Broadcast.toFederation]
  cases found : r.lookupHandle m.federation with
  | error e => simp
  | ok f => simp [Federation.mem_sessionsExcept_iff]

theorem overhears_iff (hs : Served a n r) {sender : SessionId} {m : Membership}
    (linked : p.link.session = some sender) (member : p.membership = some m) (payload : Octets)
    {id : SessionId} :
    n.Overhears p id ↔
      id ∈ Authority.recipients r (.toFederation m.federation m.federate payload) ∧
        n.exchange.Accepts id := by
  rw [mem_recipients_iff]
  constructor
  · rintro ⟨_, m', r', f, e, -, member', hosted, found, joined, other, theirs, accepts⟩
    cases member.symm.trans member'
    cases hs.hosted.symm.trans hosted
    exact ⟨⟨f, found, e, joined, other, theirs⟩, accepts⟩
  · rintro ⟨⟨f, found, e, joined, other, theirs⟩, accepts⟩
    exact ⟨sender, m, r, f, e, linked, member, hs.hosted, found, joined, other, theirs, accepts⟩

/-- What a session can do that is not in the table of the exchange. -/
structure Outsider (n : Network) (key : ParticipantId) (p : Participant) : Prop where
  requests : ∀ op, ∃ e, n.perform key p op = (.error e, n)
  kept : ∀ payload, ∃ mailboxes,
    (n.call (.broadcast key payload)).2 = { n with exchange := { n.exchange with mailboxes } }
  /-- A mailbox gains notices exactly if it overhears them, and they bear the session's old
  handles. -/
  gains : ∀ payload id, ∃ notices,
    (n.call (.broadcast key payload)).2.exchange.mailbox id =
        { n.exchange.mailbox id with notices := (n.exchange.mailbox id).notices ++ notices } ∧
      (notices ≠ [] ↔ n.Overhears p id) ∧
      ∀ notice ∈ notices, ∃ m ∈ p.membership, notice = .reflected m.federation m.federate payload
  harmless_iff : ∀ payload,
    (n.call (.broadcast key payload)).2 = n ↔ ∀ id, ¬ n.Overhears p id

theorem not_overhears_of_mute (mute : n.Mute p) (id : SessionId) : ¬ n.Overhears p id := by
  rintro ⟨sender, m, r, f, e, linked, member, hosted, -, -, -, -, -⟩
  rcases mute with cut | idle | vacant
  · cases linked.symm.trans cut
  · cases member.symm.trans idle
  · simp [Network.hosted, vacant] at hosted

theorem mute_or_served (h : Staffed n) (p : Participant) :
    n.Mute p ∨
      ∃ sender m a r, p.link.session = some sender ∧ p.membership = some m ∧ Served a n r := by
  cases linked : p.link.session with
  | none => exact Or.inl (Or.inl linked)
  | some sender =>
    cases member : p.membership with
    | none => exact Or.inl (Or.inr (Or.inl member))
    | some m =>
      rcases h with vacant | ⟨a, r, hs⟩
      · exact Or.inl (Or.inr (Or.inr vacant))
      · exact Or.inr ⟨sender, m, a, r, rfl, rfl, hs⟩

theorem broadcast_gains (h : Staffed n) (there : n.participants[key]? = some p) (payload : Octets)
    (id : SessionId) : ∃ notices,
      (n.call (.broadcast key payload)).2.exchange.mailbox id =
          { n.exchange.mailbox id with notices := (n.exchange.mailbox id).notices ++ notices } ∧
        (notices ≠ [] ↔ n.Overhears p id) ∧
        ∀ notice ∈ notices,
          ∃ m ∈ p.membership, notice = .reflected m.federation m.federate payload := by
  rcases mute_or_served h p with mute | ⟨sender, m, a, r, linked, member, hs⟩
  · rw [call_broadcast_of_mute there mute]
    refine ⟨[], by simp, ?_, nofun⟩
    simp [not_overhears_of_mute mute id]
  · rw [call_broadcast_of_served hs there linked member, overhears_iff hs linked member payload]
    obtain ⟨copies, gained, some_iff, -⟩ := n.exchange.mailbox_deliver
      (.reflected m.federation m.federate payload)
      (Authority.recipients r (.toFederation m.federation m.federate payload)) id
    refine ⟨List.replicate copies (.reflected m.federation m.federate payload), gained, ?_, ?_⟩
    · rw [← some_iff, Ne, List.replicate_eq_nil_iff]
      exact Nat.pos_iff_ne_zero.symm
    · intro notice among
      exact ⟨m, member, List.eq_of_mem_replicate among⟩

theorem broadcast_kept (h : Staffed n) (there : n.participants[key]? = some p)
    (payload : Octets) : ∃ mailboxes, (n.call (.broadcast key payload)).2 =
      { n with exchange := { n.exchange with mailboxes } } := by
  rcases mute_or_served h p with mute | ⟨sender, m, a, r, linked, member, hs⟩
  · rw [call_broadcast_of_mute there mute]
    exact ⟨n.exchange.mailboxes, rfl⟩
  · rw [call_broadcast_of_served hs there linked member, delivered]
    obtain ⟨mailboxes, sent⟩ := n.exchange.deliver_eq
      (.reflected m.federation m.federate payload)
      (Authority.recipients r (.toFederation m.federation m.federate payload))
    rw [sent]
    exact ⟨mailboxes, rfl⟩

theorem broadcast_harmless_iff (h : Staffed n) (there : n.participants[key]? = some p)
    (payload : Octets) :
    (n.call (.broadcast key payload)).2 = n ↔ ∀ id, ¬ n.Overhears p id := by
  constructor
  · intro unchanged id overhears
    obtain ⟨notices, gained, some_iff, -⟩ := broadcast_gains h there payload id
    rw [unchanged] at gained
    have none_gained : notices = [] := by simpa using (congrArg Mailbox.notices gained).symm
    exact some_iff.mpr overhears none_gained
  · intro unheard
    rcases mute_or_served h p with mute | ⟨sender, m, a, r, linked, member, hs⟩
    · exact call_broadcast_of_mute there mute payload
    · rw [call_broadcast_of_served hs there linked member, delivered, Exchange.deliver_eq_self]
      intro id among accepts
      exact unheard id ((overhears_iff hs linked member payload).mpr ⟨among, accepts⟩)

/-- After every run, however often the authority was replaced, a session that is not in the table
has no effect but by a broadcast that somebody overhears. -/
theorem absent_reach (events : List Event)
    (there : (({} : Network).course events).participants[key]? = some p)
    (absent : (({} : Network).course events).Absent p) :
    Outsider (({} : Network).course events) key p where
  requests := perform_absent there absent
  kept := broadcast_kept (staffed_course events) there
  gains := broadcast_gains (staffed_course events) there
  harmless_iff := broadcast_harmless_iff (staffed_course events) there

/-- One session is left over from the first authority; two others have joined a federation of the
second, which has the handle that the first one's federation had. -/
def succession : List Event :=
  [.call (.request 6 (.join "alpha" "green")), .call (.request 5 (.join "alpha" "blue")),
    .call (.request 5 (.create "alpha" ⟨[]⟩ .ieee1516e)), .call (.connect {}), .call (.connect {}),
    .start {}, .stop ⟨{}, 0, 1⟩, .call (.request 2 (.join "alpha" "red")),
    .call (.request 2 (.create "alpha" ⟨[]⟩ .ieee1516e)), .call (.connect {}), .start {}]

def relic : Participant where
  link := ⟨5000, 1024, some ⟨1⟩⟩
  mailbox := ⟨1⟩
  membership := some ⟨"alpha", ⟨1⟩, "red", ⟨1⟩⟩

theorem relic_there : (({} : Network).course succession).participants[2]? = some relic := by decide

theorem relic_absent : (({} : Network).course succession).Absent relic := by
  intro id linked
  cases linked
  decide

theorem relic_outsider :
    (({} : Network).course succession).participants[2]? = some relic ∧
      (({} : Network).course succession).Absent relic ∧
      Outsider (({} : Network).course succession) 2 relic :=
  ⟨relic_there, relic_absent, absent_reach succession relic_there relic_absent⟩

/-- The session that is left over is in no table, and its notice gets into the mailbox of a session
that never met it. -/
theorem relic_overheard :
    (({} : Network).course succession).participants[2]? = some relic ∧
      (({} : Network).course succession).Absent relic ∧
      ((({} : Network).course succession).exchange.mailbox ⟨3⟩).notices = [] ∧
      ((({} : Network).course
        (.call (.broadcast 2 [42]) :: succession)).exchange.mailbox ⟨3⟩).notices =
          [.reflected ⟨1⟩ ⟨1⟩ [42]] :=
  ⟨relic_there, relic_absent, by decide, by decide⟩

end Network

end HlaCoordination
