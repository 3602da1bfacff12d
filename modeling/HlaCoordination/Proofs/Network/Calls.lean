import HlaCoordination.Proofs.Network.Service

/-! Runs of calls, made one at a time by the users of any number of sessions, with a journal of
those that connected a session, created a federation or joined one. Runs and journals are listed
newest first. -/
namespace HlaCoordination

open Std Session

namespace Network

/-- A call, or the end of a session object. -/
inductive Call where
  | connect (config : Config)
  | request (session : ParticipantId) (op : Operation)
  | broadcast (session : ParticipantId) (payload : Octets)
  | disconnect (session : ParticipantId)
  | drop (session : ParticipantId)
  deriving DecidableEq

inductive Entry where
  | connected (session : ParticipantId) (id : SessionId)
  | created (session : ParticipantId) (federation : FederationHandle)
  | joined (session : ParticipantId) (membership : Membership)
  deriving DecidableEq

abbrev Journal := List Entry

def entryOf (key : ParticipantId) : Operation → Except RtiError Reply → Option Entry
  | .create .., .ok (.created federation) => some (.created key federation)
  | .join federation federate, .ok (.joined h f) => some (.joined key ⟨federation, f, federate, h⟩)
  | _, _ => none

def onParticipant (n : Network) (key : ParticipantId)
    (act : Participant → Option Entry × Network) : Option Entry × Network :=
  match n.participants[key]? with
  | some p => act p
  | none => (none, n)

def call (n : Network) : Call → Option Entry × Network
  | .connect config =>
    match n.connectSession config with
    | .ok (key, n') => (n'.participants[key]?.map fun p => .connected key p.mailbox, n')
    | .error _ => (none, n)
  | .request key op => n.onParticipant key fun p =>
    let (reply, n') := n.perform key p op
    (entryOf key op reply, n')
  | .broadcast key payload => n.onParticipant key fun p =>
    match n.sendBroadcast p payload with
    | .ok n' => (none, n')
    | .error _ => (none, n)
  | .disconnect key => n.onParticipant key fun p => (none, n.disconnectSession key p)
  | .drop key => n.onParticipant key fun p => (none, n.dropSession key p)

def after (n : Network) : List Call → Network
  | [] => n
  | c :: earlier => ((n.after earlier).call c).2

def journal (n : Network) : List Call → Journal
  | [] => []
  | c :: earlier => ((n.after earlier).call c).1.toList ++ n.journal earlier

def creates : Journal → Nat
  | [] => 0
  | .created .. :: past => creates past + 1
  | .connected .. :: past | .joined .. :: past => creates past

def joins : Journal → Nat
  | [] => 0
  | .joined .. :: past => joins past + 1
  | .connected .. :: past | .created .. :: past => joins past

theorem creates_tail (e : Option Entry) (past : Journal) :
    creates past ≤ creates (e.toList ++ past) := by
  rcases e with _ | e
  · exact Nat.le_refl _
  · cases e <;> simp [creates]

theorem joins_tail (e : Option Entry) (past : Journal) : joins past ≤ joins (e.toList ++ past) := by
  rcases e with _ | e
  · exact Nat.le_refl _
  · cases e <;> simp [joins]

variable {n : Network} {a : RunningAuthority} {r : Registry}

theorem onParticipant_cases {P : Option Entry × Network → Prop} {key : ParticipantId}
    {act : Participant → Option Entry × Network} (idle : P (none, n))
    (acts : ∀ p : Participant, n.participants[key]? = some p → P (act p)) :
    P (n.onParticipant key act) := by
  unfold onParticipant
  split
  · exact acts _ ‹_›
  · exact idle

theorem connectSession_eq {config : Config} {key : ParticipantId} {n' : Network}
    (ok : n.connectSession config = .ok (key, n')) :
    ∃ id exchange link, key = n.issued ∧ link.session = some id ∧
      exchange.authority = n.exchange.authority ∧
      n' = { n with
        issued := n.issued + 1, exchange
        participants := n.participants.insert key ⟨link, id, none, {}⟩ } := by
  unfold connectSession at ok
  split at ok
  · cases tried : n.exchange.attachSession config.noticeQueueCapacity.toNat with
    | error e => simp [tried] at ok
    | ok result =>
      obtain ⟨id, exchange⟩ := result
      obtain ⟨-, -, rfl⟩ := Exchange.attachSession_eq_ok_iff.mp tried
      simp only [tried, fresh, Except.ok.injEq, Prod.mk.injEq] at ok
      obtain ⟨rfl, rfl⟩ := ok
      refine ⟨id, _, _, rfl, rfl, ?_, rfl⟩
      rfl
  · cases ok

theorem sendBroadcast_eq (hs : Served a n r) {p : Participant} {payload : Octets} {n' : Network}
    (ok : n.sendBroadcast p payload = .ok n') :
    ∃ mailboxes, n' = { n with exchange := { n.exchange with mailboxes } } := by
  unfold sendBroadcast at ok
  cases hb : broadcastOf p.membership payload with
  | error e => simp [hb, Except.bind] at ok
  | ok b =>
    simp only [hb, Except.bind, forwardBroadcast, hs.attached] at ok
    cases session : p.link.session with
    | none => simp [session] at ok
    | some id =>
      simp only [session, serveBroadcast_eq hs, Except.ok.injEq] at ok
      subst ok
      exact reflectFrom_eq n a.registry b

theorem disconnectSession_eq (n : Network) (key : ParticipantId) (p : Participant) :
    ∃ attached link callbacks, (link.session = none) ∧
      n.disconnectSession key p =
        { n with
          exchange := { n.exchange with attached }
          participants := n.participants.insert key { p with link, callbacks } } := by
  unfold disconnectSession disconnectLink
  cases session : p.link.session with
  | none => exact ⟨n.exchange.attached, p.link, p.callbacks.disable, session, rfl⟩
  | some id => exact ⟨_, { p.link with session := none }, p.callbacks.disable, rfl, rfl⟩

end Network

end HlaCoordination
