import HlaCoordination.Proofs.Network.Succession

/-! What sessions learn when the authority leaves. The notice that it has left is put into the
mailboxes of the attached sessions like any other, so a mailbox that is full does not take it, and
its session polls what was queued before and nothing after. -/
namespace HlaCoordination

open Std

namespace Network

variable {n n' : Network} {p : Participant}

/-- The notices that a session obtains when it polls until there is none. -/
inductive Polled (p : Participant) : Network → List Notice → Prop where
  | done (n n' : Network) (nothing : n.poll p = (none, n')) : Polled p n []
  | more (n n' : Network) (notice : Notice) (rest : List Notice)
      (obtained : n.poll p = (some notice, n')) (later : Polled p n' rest) :
      Polled p n (notice :: rest)

theorem poll_of_empty (polling : p.callbacks.isImmediate = false)
    (empty : (n.exchange.mailbox p.mailbox).notices = []) : n.poll p = (none, n) := by
  simp [poll, polling, Exchange.take, Mailbox.next, empty]

theorem poll_of_queued (polling : p.callbacks.isImmediate = false) {notice : Notice}
    {rest : List Notice} (queued : (n.exchange.mailbox p.mailbox).notices = notice :: rest) :
    ∃ n', n.poll p = (some notice, n') ∧ (n'.exchange.mailbox p.mailbox).notices = rest := by
  simp [poll, polling, Exchange.take, Mailbox.next, queued, Exchange.mailbox_insert]

theorem polled_iff (polling : p.callbacks.isImmediate = false) {notices : List Notice} :
    Polled p n notices ↔ notices = (n.exchange.mailbox p.mailbox).notices := by
  constructor
  · intro polled
    induction polled with
    | done n n' nothing =>
      cases queued : (n.exchange.mailbox p.mailbox).notices with
      | nil => rfl
      | cons notice rest =>
        obtain ⟨_, obtained, -⟩ := poll_of_queued polling queued
        cases nothing.symm.trans obtained
    | more n n' notice rest obtained _ ih =>
      cases queued : (n.exchange.mailbox p.mailbox).notices with
      | nil => cases obtained.symm.trans (poll_of_empty polling queued)
      | cons notice' rest' =>
        obtain ⟨_, obtained', left⟩ := poll_of_queued polling queued
        cases obtained.symm.trans obtained'
        rw [ih, left]
  · intro same
    induction notices generalizing n with
    | nil => exact .done n n (poll_of_empty polling same.symm)
    | cons notice rest ih =>
      obtain ⟨n', obtained, left⟩ := poll_of_queued polling same.symm
      exact .more n n' notice rest obtained (ih left.symm)

/-- The attached authority leaves: it is shut down or dropped, or its connection disconnects. -/
inductive Departs (n : Network) : Network → Prop where
  | shutdown (a : RunningAuthority) (connected : n.isConnected a.endpoint = true) :
      Departs n (n.shutdownAuthority a)
  | drop (a : RunningAuthority) (connected : n.isConnected a.endpoint = true) :
      Departs n (n.dropAuthority a)
  | disconnect (e : EndpointId) (connected : n.isConnected e = true) :
      Departs n (n.disconnectEndpoint e)

def farewell (n : Network) (id : SessionId) : List Notice :=
  if n.exchange.Accepts id then [.disconnected "authority disconnected"] else []

structure DepartureTold (n n' : Network) : Prop where
  /-- A session obtains what was queued, and then the news if its mailbox was attached and had
  room. -/
  polled : ∀ (key : ParticipantId) (p : Participant), n.participants[key]? = some p →
    p.callbacks.isImmediate = false → ∀ notices, Polled p n' notices ↔
      notices = (n.exchange.mailbox p.mailbox).notices ++ n.farewell p.mailbox
  others : ∀ id, id ∉ n.exchange.attached → n'.exchange.mailbox id = n.exchange.mailbox id
  sessions : n'.participants = n.participants
  detached : n'.exchange.sessionCount = 0

theorem disconnectEndpoint_detaches {e : EndpointId} (connected : n.isConnected e = true) :
    (n.disconnectEndpoint e).exchange = n.exchange.detachAuthority "authority disconnected" ∧
      (n.disconnectEndpoint e).participants = n.participants := by
  unfold disconnectEndpoint
  cases known : n.endpoints[e]? with
  | none => simp [isConnected, known] at connected
  | some endpoint =>
    have listening : endpoint.listening.isSome = true := by
      simpa [isConnected, known] using connected
    simp only [listening, if_true, and_self]

theorem Departs.detaches (h : Departs n n') :
    n'.exchange = n.exchange.detachAuthority "authority disconnected" ∧
      n'.participants = n.participants := by
  cases h with
  | shutdown a connected =>
    rw [shutdownAuthority, if_pos connected]
    exact disconnectEndpoint_detaches connected
  | drop a connected => exact disconnectEndpoint_detaches connected
  | disconnect e connected => exact disconnectEndpoint_detaches connected

/-- After every run, and in every other state, when the attached authority leaves. -/
theorem departure_told (present : n.exchange.hasAuthority = true) (departs : Departs n n') :
    DepartureTold n n' := by
  obtain ⟨gone, same⟩ := departs.detaches
  have mailbox (id : SessionId) := gone ▸
    n.exchange.mailbox_detachAuthority present "authority disconnected" id
  refine ⟨?_, ?_, same, ?_⟩
  · intro key p _ polling notices
    rw [polled_iff polling, mailbox, farewell]
    by_cases accepts : n.exchange.Accepts p.mailbox
    · simp only [accepts, if_true]
    · simp only [accepts, if_false, List.append_nil]
  · intro id away
    rw [mailbox, if_neg fun accepts => away accepts.1]
  · rw [gone]
    simp [Exchange.sessionCount, Exchange.detachAuthority, present]

/-- Two sessions have joined a federation; the second has room for one notice, and one is there. -/
def crowded : Network :=
  ({} : Network).course
    [.call (.broadcast 2 [42]), .call (.request 3 (.join "alpha" "blue")),
      .call (.request 2 (.join "alpha" "red")),
      .call (.request 2 (.create "alpha" ⟨[]⟩ .ieee1516e)),
      .call (.connect { noticeQueueCapacity := 1 }), .call (.connect {}), .start {}]

theorem crowded_told :
    crowded.exchange.hasAuthority = true ∧
      Departs crowded (crowded.shutdownAuthority ⟨{}, 0, 1⟩) ∧
      DepartureTold crowded (crowded.shutdownAuthority ⟨{}, 0, 1⟩) := by
  have present : crowded.exchange.hasAuthority = true := by decide
  have departs : Departs crowded (crowded.shutdownAuthority ⟨{}, 0, 1⟩) :=
    .shutdown ⟨{}, 0, 1⟩ (by decide)
  exact ⟨present, departs, departure_told present departs⟩

def latecomer : Participant where
  link := ⟨5000, 1, some ⟨2⟩⟩
  mailbox := ⟨2⟩
  membership := some ⟨"alpha", ⟨1⟩, "blue", ⟨2⟩⟩

/-- The second session is attached when the authority shuts down, polls until there is nothing left,
and has not been told. -/
theorem latecomer_untold :
    crowded.participants[3]? = some latecomer ∧ latecomer.callbacks.isImmediate = false ∧
      latecomer.mailbox ∈ crowded.exchange.attached ∧
      (crowded.exchange.mailbox latecomer.mailbox).capacity = 1 ∧
      Departs crowded (crowded.shutdownAuthority ⟨{}, 0, 1⟩) ∧
      Polled latecomer (crowded.shutdownAuthority ⟨{}, 0, 1⟩) [.reflected ⟨1⟩ ⟨1⟩ [42]] ∧
      ∀ notices reason, Polled latecomer (crowded.shutdownAuthority ⟨{}, 0, 1⟩) notices →
        .disconnected reason ∉ notices := by
  have polling : latecomer.callbacks.isImmediate = false := rfl
  have left : ((crowded.shutdownAuthority ⟨{}, 0, 1⟩).exchange.mailbox latecomer.mailbox).notices =
      [.reflected ⟨1⟩ ⟨1⟩ [42]] := by decide
  refine ⟨by decide, polling, by decide, by decide, .shutdown ⟨{}, 0, 1⟩ (by decide), ?_, ?_⟩
  · exact (polled_iff polling).mpr left.symm
  · intro notices reason polled
    rw [(polled_iff polling).mp polled, left]
    simp

end Network

end HlaCoordination
