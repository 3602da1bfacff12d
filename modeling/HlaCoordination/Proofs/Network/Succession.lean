import HlaCoordination.Proofs.Network.Calls

/-! Runs in which authorities come and go. Each authority brings a registry of its own; an authority
that leaves takes all sessions out of the exchange, and they keep their links and memberships. Runs
are listed newest first. -/
namespace HlaCoordination

open Std Session

namespace Network

variable {n n' : Network} {a : RunningAuthority} {r : Registry}

inductive Event where
  | start (config : Config)
  | stop (authority : RunningAuthority)
  | release (authority : RunningAuthority)
  | call (c : Call)
  | poll (session : ParticipantId)
  | listen (session : ParticipantId) (listener : Listener)
  | unlisten (session : ParticipantId)
  | settle
  deriving DecidableEq

def happen (n : Network) : Event → Network
  | .start config =>
    match n.startAuthority config with
    | .ok (_, n') => n'
    | .error _ => n
  | .stop a => n.shutdownAuthority a
  | .release a => n.dropAuthority a
  | .call c => (n.call c).2
  | .poll key => (n.onParticipant key fun p => (none, (n.poll p).2)).2
  | .listen key l => (n.onParticipant key fun p =>
      (none, n.setParticipant key { p with callbacks := p.callbacks.enable l })).2
  | .unlisten key => (n.onParticipant key fun p =>
      (none, n.setParticipant key { p with callbacks := p.callbacks.disable })).2
  | .settle => n.settle

def course (n : Network) : List Event → Network
  | [] => n
  | e :: earlier => (n.course earlier).happen e

structure Undisturbed (n n' : Network) : Prop where
  authority : n'.exchange.authority = n.exchange.authority
  endpoints : n'.endpoints = n.endpoints
  registries : n'.registries = n.registries

theorem Undisturbed.refl (n : Network) : Undisturbed n n := ⟨rfl, rfl, rfl⟩

theorem Undisturbed.trans {n'' : Network} (h : Undisturbed n n') (h' : Undisturbed n' n'') :
    Undisturbed n n'' :=
  ⟨h'.authority.trans h.authority, h'.endpoints.trans h.endpoints,
    h'.registries.trans h.registries⟩

theorem undisturbed_poll (n : Network) (p : Participant) : Undisturbed n (n.poll p).2 := by
  unfold poll
  split
  · exact .refl n
  · simp only [Exchange.take]
    split <;> exact ⟨rfl, rfl, rfl⟩

/-- Settling is a step for each session whose notices are pushed, as the sessions were before. -/
theorem settle_of_steps {P : Network → Prop} (start : P n)
    (step : ∀ (m : Network) (key : ParticipantId) (p : Participant),
      n.participants[key]? = some p → P m → P (m.settleParticipant key p)) : P n.settle := by
  unfold settle
  rw [ExtTreeMap.foldl_eq_foldl_toList]
  apply List.foldlRecOn _ _ start
  intro m before entry listed
  split
  · exact step m entry.1 entry.2 (ExtTreeMap.mem_toList_iff_getElem?_eq_some.mp listed) before
  · exact before

theorem undisturbed_settle (n : Network) : Undisturbed n n.settle := by
  apply settle_of_steps (.refl n)
  intro m key p _ before
  exact before.trans ⟨rfl, rfl, rfl⟩

theorem Served.undisturbed (hs : Served a n r) (h : Undisturbed n n') : Served a n' r where
  attached := h.authority.trans hs.attached
  listening := by rw [h.endpoints, hs.listening]
  kept := by rw [h.registries, hs.kept]

theorem Served.revised (hs : Served a n r) (r' : Registry)
    (mailboxes : ExtTreeMap SessionId Mailbox) : Served a (n.revised a r' mailboxes) r' :=
  ⟨hs.attached, hs.listening, ExtTreeMap.getElem?_insert_self⟩

theorem sendBroadcast_of_vacant (vacant : n.exchange.authority = none) {p : Participant}
    {payload : Octets} : n.sendBroadcast p payload ≠ .ok n' := by
  intro ok
  unfold Network.sendBroadcast at ok
  cases hb : broadcastOf p.membership payload with
  | error e => simp [hb, Except.bind] at ok
  | ok b =>
    cases hl : p.link.session <;>
      simp [hb, Except.bind, forwardBroadcast, vacant, hl] at ok

/-- Whoever is attached answers from a registry. -/
def Staffed (n : Network) : Prop := n.exchange.authority = none ∨ ∃ a r, Served a n r

namespace Staffed

theorem undisturbed (h : Staffed n) (same : Undisturbed n n') : Staffed n' := by
  rcases h with vacant | ⟨a, r, hs⟩
  · exact Or.inl (same.authority.trans vacant)
  · exact Or.inr ⟨a, r, hs.undisturbed same⟩

theorem transport (h : Staffed n) (link : SessionLink) (c : MessageContext) :
    Staffed (transport link c n).2 := by
  unfold Network.transport transportWith
  cases link.session with
  | none => exact h
  | some id =>
    simp only [submitWith]
    split
    · rcases h with vacant | ⟨a, r, hs⟩
      · simp only [vacant]
        exact Or.inl vacant
      · obtain ⟨mailboxes, served⟩ :=
          serveControl_of_served hs { c with message := c.message.submittedBy id }
        simp only [hs.attached, served]
        exact Or.inr ⟨a, _, hs.revised _ _⟩
    · exact h

theorem perform (h : Staffed n) (key : ParticipantId) (p : Participant) (op : Operation) :
    Staffed (n.perform key p op).2 := by
  have seated :
      Staffed (Session.perform (Network.transport p.link) op ⟨p.membership, n⟩).2.link := by
    rcases perform_link (Network.transport p.link) op ⟨p.membership, n⟩ with idle | ⟨c, sent⟩
    · rw [idle]
      exact h
    · rw [sent]
      exact h.transport p.link c
  exact seated.undisturbed ⟨rfl, rfl, rfl⟩

theorem connectSession (h : Staffed n) {config : Config} {key : ParticipantId}
    (ok : n.connectSession config = .ok (key, n')) : Staffed n' := by
  obtain ⟨id, exchange, link, -, -, same, rfl⟩ := connectSession_eq ok
  exact h.undisturbed ⟨same, rfl, rfl⟩

theorem sendBroadcast (h : Staffed n) {p : Participant} {payload : Octets}
    (ok : n.sendBroadcast p payload = .ok n') : Staffed n' := by
  rcases h with vacant | ⟨a, r, hs⟩
  · exact absurd ok (sendBroadcast_of_vacant vacant)
  · obtain ⟨mailboxes, rfl⟩ := sendBroadcast_eq hs ok
    exact Or.inr ⟨a, r, hs.undisturbed ⟨rfl, rfl, rfl⟩⟩

theorem disconnectSession (h : Staffed n) (key : ParticipantId) (p : Participant) :
    Staffed (n.disconnectSession key p) := by
  obtain ⟨attached, link, callbacks, -, done⟩ := disconnectSession_eq n key p
  rw [done]
  exact h.undisturbed ⟨rfl, rfl, rfl⟩

theorem onParticipant (h : Staffed n) (key : ParticipantId)
    {act : Participant → Option Entry × Network} (acts : ∀ p, Staffed (act p).2) :
    Staffed (n.onParticipant key act).2 :=
  onParticipant_cases (P := fun outcome => Staffed outcome.2) h fun p _ => acts p

theorem call (h : Staffed n) (c : Call) : Staffed (n.call c).2 := by
  cases c with
  | connect config =>
    simp only [Network.call]
    split
    · exact h.connectSession ‹_›
    · exact h
  | request key op => exact h.onParticipant key fun p => h.perform key p op
  | broadcast key payload =>
    apply h.onParticipant key
    intro p
    split
    · exact h.sendBroadcast ‹_›
    · exact h
  | disconnect key => exact h.onParticipant key fun p => h.disconnectSession key p
  | drop key =>
    exact h.onParticipant key fun p => (h.disconnectSession key p).undisturbed ⟨rfl, rfl, rfl⟩

theorem disconnectEndpoint (h : Staffed n) (e : EndpointId) : Staffed (n.disconnectEndpoint e) := by
  unfold Network.disconnectEndpoint
  cases he : n.endpoints[e]? with
  | none => exact h
  | some endpoint =>
    cases listening : endpoint.listening with
    | some l =>
      refine Or.inl ?_
      simp only [listening, Option.isSome_some, if_true, Exchange.detachAuthority]
      split
      · rfl
      · rename_i absent
        simpa [Exchange.hasAuthority] using absent
    | none =>
      simp only [listening, Option.isSome_none, Bool.false_eq_true, if_false]
      rcases h with vacant | ⟨a, r, hs⟩
      · exact Or.inl vacant
      · have elsewhere : e ≠ a.endpoint := by
          rintro rfl
          have := hs.listening
          simp [he, listening] at this
        refine Or.inr ⟨a, r, hs.attached, ?_, hs.kept⟩
        rw [ExtTreeMap.getElem?_insert]
        simp [elsewhere, hs.listening]

theorem happen (h : Staffed n) (e : Event) : Staffed (n.happen e) := by
  cases e with
  | start config =>
    simp only [Network.happen]
    split
    · exact Or.inr ⟨_, _, (startAuthority_served ‹_›).1⟩
    · exact h
  | stop a =>
    simp only [Network.happen, shutdownAuthority]
    split
    · exact h.disconnectEndpoint a.endpoint
    · exact h
  | release a => exact h.disconnectEndpoint a.endpoint
  | call c => exact h.call c
  | poll key => exact h.onParticipant key fun p => h.undisturbed (undisturbed_poll n p)
  | listen key l => exact h.onParticipant key fun p => h.undisturbed ⟨rfl, rfl, rfl⟩
  | unlisten key => exact h.onParticipant key fun p => h.undisturbed ⟨rfl, rfl, rfl⟩
  | settle => exact h.undisturbed (undisturbed_settle n)

end Staffed

theorem staffed_course (events : List Event) : Staffed (({} : Network).course events) := by
  induction events with
  | nil => exact Or.inl rfl
  | cons e earlier ih => exact ih.happen e

end Network

end HlaCoordination
