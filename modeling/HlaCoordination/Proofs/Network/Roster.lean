import HlaCoordination.Proofs.Network.Calls

/-! The roster of an exchange. The exchange keeps its tables, and beside them every connection keeps
a record of its own. What is done to a connection changes one entry of each, or nothing. -/
namespace HlaCoordination

open Std

/-- An exchange, and what the connections that share it take themselves to be. -/
structure Roster where
  exchange : Exchange
  endpoints : EndpointId → Bool
  sessions : ParticipantId → Option SessionId

inductive Mark where
  | attached (e : EndpointId)
  | detached (e : EndpointId)
  | connected (session : ParticipantId) (id : SessionId)
  | disconnected (session : ParticipantId) (id : SessionId)
  deriving DecidableEq

namespace Roster

variable {s : Roster} {e : EndpointId} {key : ParticipantId}

def seat (s : Roster) (exchange : Exchange) (e : EndpointId) (connected : Bool) : Roster :=
  { s with exchange, endpoints := fun e' => if e = e' then connected else s.endpoints e' }

def link (s : Roster) (exchange : Exchange) (key : ParticipantId) (id : Option SessionId) :
    Roster :=
  { s with exchange, sessions := fun key' => if key = key' then id else s.sessions key' }

theorem seat_self {connected : Bool} (same : s.endpoints e = connected) :
    s.seat s.exchange e connected = s := by
  have unchanged : (fun e' => if e = e' then connected else s.endpoints e') = s.endpoints := by
    funext e'
    split
    · subst e'
      exact same.symm
    · rfl
  simp only [seat, unchanged]

theorem link_self {id : Option SessionId} (same : s.sessions key = id) :
    s.link s.exchange key id = s := by
  have unchanged : (fun key' => if key = key' then id else s.sessions key') = s.sessions := by
    funext key'
    split
    · subst key'
      exact same.symm
    · rfl
  simp only [link, unchanged]

/-- The change that a mark stands for. Without a mark there is none. -/
inductive Change (s : Roster) : Option Mark → Roster → Prop where
  | none : Change s none s
  | attached (name : String) (e : EndpointId) (vacant : s.exchange.authority = .none) :
      Change s (some (.attached e)) (s.seat { s.exchange with authority := some ⟨name, e⟩ } e true)
  | detached (e : EndpointId) (reason : String) (connected : s.endpoints e = true) :
      Change s (some (.detached e)) (s.seat (s.exchange.detachAuthority reason) e false)
  | connected (key : ParticipantId) (id : SessionId) (capacity : Nat) (exchange : Exchange)
      (ok : s.exchange.attachSession capacity = .ok (id, exchange)) :
      Change s (some (.connected key id)) (s.link exchange key (some id))
  | disconnected (key : ParticipantId) (id : SessionId) (linked : s.sessions key = some id) :
      Change s (some (.disconnected key id)) (s.link (s.exchange.detachSession id) key .none)

end Roster

namespace Network

open Roster

variable {n n' : Network} {e : EndpointId} {endpoint : Endpoint} {key : ParticipantId}
  {p : Participant} {config : Config}

def linked (n : Network) (key : ParticipantId) : Option SessionId :=
  n.participants[key]?.bind fun p => p.link.session

def roster (n : Network) : Roster := ⟨n.exchange, n.isConnected, n.linked⟩

def parting (n : Network) (e : EndpointId) : Option Mark :=
  if n.isConnected e then some (.detached e) else none

def arrival (n : Network) (key : ParticipantId) : Option Mark := (n.linked key).map (.connected key)

def departure (n : Network) (key : ParticipantId) : Option Mark :=
  (n.linked key).map (.disconnected key)

theorem linked_of_there (there : n.participants[key]? = some p) :
    n.linked key = p.link.session := by
  simp only [linked, there, Option.bind_some]

theorem roster_insert (n : Network) (exchange : Exchange) (e : EndpointId)
    (endpoint : Endpoint) :
    ({ n with exchange, endpoints := n.endpoints.insert e endpoint } : Network).roster =
      n.roster.seat exchange e endpoint.listening.isSome := by
  have endpoints : ({ n with exchange, endpoints := n.endpoints.insert e endpoint } :
      Network).isConnected = fun e' => if e = e' then endpoint.listening.isSome
        else n.isConnected e' := by
    funext e'
    simp only [isConnected, getElem?_insert_eq_ite]
    split <;> rfl
  rw [roster, endpoints]
  rfl

theorem roster_setParticipant (n : Network) (exchange : Exchange) (key : ParticipantId)
    (p : Participant) :
    ({ n with exchange }.setParticipant key p).roster =
      n.roster.link exchange key p.link.session := by
  have sessions : ({ n with exchange }.setParticipant key p).linked =
      fun key' => if key = key' then p.link.session else n.linked key' := by
    funext key'
    simp only [linked, setParticipant, getElem?_insert_eq_ite]
    split <;> rfl
  rw [roster, sessions]
  rfl

/-- No number that is still to be given away has been given to an endpoint. -/
def FreshEndpoints (n : Network) : Prop := ∀ e, n.issued ≤ e → n.endpoints[e]? = none

theorem FreshEndpoints.insert (fresh : FreshEndpoints n) (known : n.endpoints[e]? = some endpoint)
    (exchange : Exchange) (endpoint' : Endpoint) :
    FreshEndpoints { n with exchange, endpoints := n.endpoints.insert e endpoint' } := by
  intro e' above
  have other : e ≠ e' := by
    rintro rfl
    cases (fresh e above).symm.trans known
  simp only [getElem?_insert_eq_ite, other, if_false]
  exact fresh e' above

theorem openEndpoint_roster (fresh : FreshEndpoints n) {name : String}
    (ok : n.openEndpoint name config = .ok (e, n')) :
    n'.roster = n.roster ∧ FreshEndpoints n' := by
  unfold openEndpoint at ok
  split at ok
  · cases ok
    have silent : n.isConnected n.issued = false := by
      simp [isConnected, fresh n.issued (Nat.le_refl _)]
    constructor
    · refine (roster_insert { n with issued := n.issued + 1 } n.exchange n.issued _).trans ?_
      exact seat_self silent
    · intro e' above
      simp only at above
      rw [getElem?_insert_eq_ite, if_neg (by omega)]
      exact fresh e' (by omega)
  · cases ok

theorem bindInbox_roster (fresh : FreshEndpoints n) (e : EndpointId) (inbox : Inbox) :
    (n.bindInbox e inbox).roster = n.roster ∧ FreshEndpoints (n.bindInbox e inbox) := by
  have bound (e' : EndpointId) : (n.bindInbox e inbox).endpoints[e']? =
      if e = e' then n.endpoints[e']?.map ({ · with inbox := some inbox })
      else n.endpoints[e']? := by
    simp only [bindInbox, ExtTreeMap.getElem?_modify, Std.compare_eq_iff_eq]
    split
    · subst e'
      rfl
    · rfl
  have endpoints : (n.bindInbox e inbox).isConnected = n.isConnected := by
    funext e'
    rw [isConnected, bound]
    split
    · simp only [isConnected]
      cases n.endpoints[e']? <;> rfl
    · rfl
  constructor
  · rw [roster, endpoints]
    rfl
  · intro e' above
    rw [bound, fresh e' above]
    split <;> rfl

theorem connectEndpoint_eq (ok : n.connectEndpoint e = .ok n') :
    ∃ endpoint inbox, n.endpoints[e]? = some endpoint ∧ n.exchange.authority = none ∧
      n' = { n with
        exchange := { n.exchange with authority := some ⟨endpoint.name, e⟩ }
        endpoints := n.endpoints.insert e { endpoint with listening := some { inbox } } } := by
  unfold connectEndpoint at ok
  cases known : n.endpoints[e]? with
  | none => simp [known] at ok
  | some endpoint =>
    simp only [known] at ok
    cases bound : endpoint.inbox with
    | none => simp [bound] at ok
    | some inbox =>
      cases silent : endpoint.listening with
      | some l => simp [bound, silent] at ok
      | none =>
        cases vacant : n.exchange.authority with
        | some present => simp [bound, silent, Exchange.attachAuthority, vacant] at ok
        | none =>
          simp only [bound, silent, Exchange.attachAuthority, vacant] at ok
          rw [← bound] at ok
          exact ⟨endpoint, inbox, rfl, rfl, (Except.ok.inj ok).symm⟩

theorem connectEndpoint_change (fresh : FreshEndpoints n) (ok : n.connectEndpoint e = .ok n') :
    Change n.roster (some (.attached e)) n'.roster ∧ FreshEndpoints n' := by
  obtain ⟨endpoint, inbox, known, vacant, rfl⟩ := connectEndpoint_eq ok
  refine ⟨?_, fresh.insert known _ _⟩
  rw [roster_insert]
  exact .attached endpoint.name e vacant

/-- An endpoint whose inbox does not start has come and gone before any session could attach. -/
theorem connectInVain_roster (empty : n.exchange.authority = none → n.exchange.attached = ∅)
    (e : EndpointId) (cause : String) : (n.connectInVain e cause).2.roster = n.roster := by
  unfold connectInVain
  cases tried : n.connectEndpoint e with
  | error error => rfl
  | ok attached =>
    obtain ⟨endpoint, inbox, -, vacant, rfl⟩ := connectEndpoint_eq tried
    obtain ⟨⟨authority, sessions, mailboxes, counter⟩, _⟩ := n
    cases vacant
    cases empty rfl
    rfl

theorem disconnectEndpoint_change (fresh : FreshEndpoints n) (e : EndpointId) :
    Change n.roster (n.parting e) (n.disconnectEndpoint e).roster ∧
      FreshEndpoints (n.disconnectEndpoint e) := by
  unfold disconnectEndpoint parting
  cases known : n.endpoints[e]? with
  | none =>
    have silent : n.isConnected e = false := by simp [isConnected, known]
    rw [silent]
    exact ⟨.none, fresh⟩
  | some endpoint =>
    have status : n.isConnected e = endpoint.listening.isSome := by simp [isConnected, known]
    refine ⟨?_, fresh.insert known _ _⟩
    simp only [roster_insert, status]
    cases connected : endpoint.listening.isSome with
    | true => exact .detached e "authority disconnected" (status.trans connected)
    | false =>
      have same : n.roster.seat n.exchange e false = n.roster :=
        seat_self (status.trans connected)
      simp only [Bool.false_eq_true, if_false, Option.isSome_none, same]
      exact .none

theorem startAuthority_change (fresh : FreshEndpoints n) {a : RunningAuthority}
    (ok : n.startAuthority config = .ok (a, n')) :
    Change n.roster (some (.attached a.endpoint)) n'.roster ∧ FreshEndpoints n' := by
  unfold startAuthority at ok
  cases opened : n.openEndpoint authorityName config with
  | error e => simp [opened] at ok
  | ok result =>
    obtain ⟨e, n₁⟩ := result
    obtain ⟨same₁, fresh₁⟩ := openEndpoint_roster fresh opened
    simp only [opened] at ok
    have same₂ : (n₁.openRegistry config.resignPolicy).2.roster = n₁.roster := rfl
    have fresh₂ : FreshEndpoints (n₁.openRegistry config.resignPolicy).2 :=
      fun e above => fresh₁ e (Nat.le_of_succ_le above)
    obtain ⟨same₃, fresh₃⟩ := bindInbox_roster fresh₂ e
      (.registry (n₁.openRegistry config.resignPolicy).1)
    split at ok
    · cases ok
    · rename_i tried
      obtain ⟨change, fresh₄⟩ := connectEndpoint_change fresh₃ tried
      cases ok
      rw [same₃, same₂, same₁] at change
      exact ⟨change, fresh₄⟩

theorem startAuthority_exchange {a : RunningAuthority}
    (started : n.startAuthority config = .ok (a, n')) :
    n'.exchange = { n.exchange with authority := some ⟨authorityName, a.endpoint⟩ } := by
  have present := (startAuthority_served started).1.attached
  unfold startAuthority openEndpoint at started
  split at started
  · cases started
  · rename_i endpoint opened ok
    split at ok
    · cases ok
      simp only at started
      split at started
      · cases started
      · rename_i tried
        cases started
        obtain ⟨endpoint, inbox, -, -, rfl⟩ := connectEndpoint_eq tried
        have name := Option.some.inj present
        rw [← name]
        rfl
    · cases ok

theorem setParticipant_change {id : SessionId} {exchange : Exchange} {capacity : Nat}
    (ok : n.exchange.attachSession capacity = .ok (id, exchange))
    (linked : p.link.session = some id) :
    Change n.roster (({ n with exchange }.setParticipant key p).arrival key)
      ({ n with exchange }.setParticipant key p).roster := by
  have here : ({ n with exchange }.setParticipant key p).linked key = some id := by
    simp only [Network.linked, setParticipant, ExtTreeMap.getElem?_insert_self, Option.bind_some,
      linked]
  rw [arrival, here, roster_setParticipant, linked]
  exact .connected key id capacity exchange ok

theorem connectSession_change (fresh : FreshEndpoints n)
    (ok : n.connectSession config = .ok (key, n')) :
    Change n.roster (n'.arrival key) n'.roster ∧ FreshEndpoints n' := by
  unfold connectSession at ok
  split at ok
  · cases tried : n.exchange.attachSession config.noticeQueueCapacity.toNat with
    | error e => simp [tried] at ok
    | ok result =>
      obtain ⟨id, exchange⟩ := result
      simp only [tried, Network.fresh, Except.ok.injEq, Prod.mk.injEq] at ok
      obtain ⟨rfl, rfl⟩ := ok
      refine ⟨?_, fun e above => fresh e (Nat.le_of_succ_le above)⟩
      exact setParticipant_change (n := { n with issued := n.issued + 1 }) tried rfl
  · cases ok

theorem connectLink_change (fresh : FreshEndpoints n) (ok : n.connectLink key p = .ok n') :
    Change n.roster (n'.arrival key) n'.roster ∧ FreshEndpoints n' := by
  unfold connectLink at ok
  cases idle : p.link.session with
  | some id => simp [idle] at ok
  | none =>
    simp only [idle] at ok
    cases tried : n.exchange.attachSession p.link.capacity with
    | error e => simp [tried] at ok
    | ok result =>
      obtain ⟨id, exchange⟩ := result
      simp only [tried, Except.ok.injEq] at ok
      subst ok
      exact ⟨setParticipant_change tried rfl, fresh⟩

theorem disconnectLink_change (fresh : FreshEndpoints n) (there : n.linked key = p.link.session) :
    Change n.roster (n.departure key) (n.disconnectLink key p).roster ∧
      FreshEndpoints (n.disconnectLink key p) := by
  unfold disconnectLink departure
  rw [there]
  cases linked : p.link.session with
  | none =>
    refine ⟨?_, fresh⟩
    have same : (n.setParticipant key p).roster = n.roster := by
      rw [roster_setParticipant, linked]
      exact link_self (there.trans linked)
    rw [same]
    exact .none
  | some id =>
    refine ⟨?_, fresh⟩
    rw [roster_setParticipant]
    exact .disconnected key id (there.trans linked)

theorem disconnectSession_change (fresh : FreshEndpoints n)
    (there : n.participants[key]? = some p) :
    Change n.roster (n.departure key) (n.disconnectSession key p).roster ∧
      FreshEndpoints (n.disconnectSession key p) := by
  have linked := linked_of_there there
  exact disconnectLink_change fresh linked

theorem dropSession_roster (n : Network) (key : ParticipantId) (p : Participant) :
    (n.dropSession key p).roster = (n.disconnectSession key p).roster := by
  obtain ⟨attached, link, callbacks, cut, left⟩ := disconnectSession_eq n key p
  have sessions : (n.dropSession key p).linked = (n.disconnectSession key p).linked := by
    funext key'
    simp only [linked, dropSession, left, getElem?_erase_eq_ite, getElem?_insert_eq_ite]
    split
    · exact cut.symm
    · rfl
  rw [roster, sessions]
  rfl

end Network

end HlaCoordination
