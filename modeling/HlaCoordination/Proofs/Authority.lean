import HlaCoordination.Authority
import HlaCoordination.Proofs.Federation.Run
import HlaCoordination.Proofs.Registry

/-! What an authority makes of a request: it refuses for one of a few causes, says nothing to
anybody else and leaves its registry as it was, or it does one thing to the registry. -/
namespace HlaCoordination

open Std

namespace Authority

variable {r : Registry}

def concernsPoint : Request → Bool
  | .registerSyncPoint .. | .achieveSyncPoint _ => true
  | _ => false

inductive Answered (r : Registry) (m : ControlMessage) : Response → Registry → Prop where
  | refused (e : RtiError) : Answered r m (.failure e) r
  | listed (asked : m.request = .listFederations) :
      Answered r m (.success (.federations r.summaries)) r
  | pong (time : Nat) (asked : m.request = .ping) : Answered r m (.success (.pong time)) r
  | created (name : String) (schema : SchemaRef) (version : HlaVersion) (f : Federation)
      (r' : Registry) (asked : m.request = .createFederation name schema version)
      (ok : r.create name schema version = (.ok f, r')) :
      Answered r m (.success (.federationCreated f.handle)) r'
  | destroyed (name : String) (r' : Registry) (asked : m.request = .destroyFederation name)
      (ok : r.destroy name = (.ok (), r')) : Answered r m (.success .empty) r'
  | joined (federation federate : String) (f g : Federation) (h : FederateHandle)
      (owed : List Delivery) (asked : m.request = .joinFederation federation federate)
      (found : r.lookup federation = .ok f) (ok : f.join federate m.origin = (.ok (h, owed), g)) :
      Answered r m (.success (.joined h g.handle)) (r.put g)
  | resigned (federation : String) (h : FederateHandle) (f : Federation)
      (asked : m.request = .resignFederation federation h)
      (found : r.lookup federation = .ok f) :
      Answered r m (.success .empty) (r.put (f.resign h).2)
  | synced (h : FederateHandle) (target : FederationHandle) (f : Federation) (sync : SyncTable)
      (asked : concernsPoint m.request = true)
      (speaker : m.source = some h) (address : m.target = some target)
      (found : r.lookupHandle target = .ok f) (member : h ∈ f.federates) :
      Answered r m (.success .empty) (r.put { f with sync })

def fits : Request → Payload → Bool
  | .createFederation .., .federationCreated _ | .joinFederation .., .joined ..
  | .listFederations, .federations _ | .ping, .pong _ => true
  | .destroyFederation _, .empty | .resignFederation .., .empty | .registerSyncPoint .., .empty
  | .achieveSyncPoint _, .empty => true
  | _, _ => false

theorem Answered.fits {m : ControlMessage} {payload : Payload} {r' : Registry}
    (answered : Answered r m (.success payload) r') : fits m.request payload = true := by
  cases answered with
  | synced h target f sync asked =>
    cases request : m.request with
    | registerSyncPoint | achieveSyncPoint => rfl
    | createFederation | destroyFederation | joinFederation | resignFederation | listFederations
    | ping => simp [concernsPoint, request] at asked
  | listed asked | pong _ asked | created _ _ _ _ _ asked | destroyed _ _ asked
  | joined _ _ _ _ _ _ asked | resigned _ _ _ asked =>
    rw [asked]
    rfl

/-- A synchronization request reaches no federation, speaks for nobody, or fails there. -/
inductive Unserved (r : Registry) (m : ControlMessage)
    (work : Federation → FederateHandle → Except RtiError (List Delivery) × Federation) :
    RtiError → Prop where
  | unaddressed (e : RtiError) (lost : addressedFederation r m = .error e) : Unserved r m work e
  | speechless (speaker : m.source = none) :
      Unserved r m work (.internal (.noSourceFederate m.messageType))
  | failed (f : Federation) (h : FederateHandle) (e : RtiError)
      (found : addressedFederation r m = .ok f) (speaker : m.source = some h)
      (failed : work f h = (.error e, f)) : Unserved r m work e

/-- Why a message is refused. Whoever fails to do what it asks is left as it was. -/
def Refused (clock : Clock) (r : Registry) (m : ControlMessage) (e : RtiError) : Prop :=
  match m.request with
  | .createFederation name schema version =>
    name = "" ∧ e = .internal .emptyFederationName ∨ r.create name schema version = (.error e, r)
  | .destroyFederation name => r.destroy name = (.error e, r)
  | .joinFederation federation federate =>
    r.lookup federation = .error e ∨ federate = "" ∧ e = .internal .emptyFederateName ∨
      ∃ f, r.lookup federation = .ok f ∧ f.join federate m.origin = (.error e, f)
  | .resignFederation federation _ => r.lookup federation = .error e
  | .listFederations => False
  | .ping => clock = none ∧ e = .internal .clockBeforeEpoch
  | .registerSyncPoint label tag targets =>
    Unserved r m (fun f h => f.registerSyncPoint h label tag targets) e
  | .achieveSyncPoint label => Unserved r m (fun f h => f.achieveSyncPoint h label) e

inductive Settled (clock : Clock) (r : Registry) (m : ControlMessage) : Receipt → Prop where
  | refused (e : RtiError) (cause : Refused clock r m e) :
      Settled clock r m ⟨⟨m, .failure e⟩, r, []⟩
  | done (payload : Payload) (r' : Registry) (outbox : List Broadcast)
      (answered : Answered r m (.success payload) r') :
      Settled clock r m ⟨⟨m, .success payload⟩, r', outbox⟩

theorem Answered.resolved {m : ControlMessage} {response : Response} {r' : Registry}
    (answered : Answered r m response r') : response ≠ .pending := by
  cases answered <;> exact nofun

theorem Settled.resolved {clock : Clock} {m : ControlMessage} {receipt : Receipt}
    (settled : Settled clock r m receipt) : receipt.context.response ≠ .pending := by
  cases settled <;> exact nofun

section Handling

variable {clock : Clock} {c : MessageContext}

theorem receiveControl_of_global {handler : Handler Registry}
    (here : c.messageType.isFederationMessage = false)
    (handled : (global clock).handler? c.messageType = some handler) :
    receiveControl clock r c =
      ⟨{ c with response := Sink.settle handler c.messageType c.response (handler.process c r).1 },
        (handler.process c r).2, []⟩ := by
  unfold receiveControl
  rw [here, if_neg Bool.false_ne_true]
  simp only [Sink.process, handled, answered]

theorem receiveControl_of_federation {handler : Handler FederationDesk} {f : Federation}
    (there : c.messageType.isFederationMessage = true)
    (handled : FederationDesk.incoming.handler? c.messageType = some handler)
    (found : addressedFederation r c.message = .ok f) :
    receiveControl clock r c =
      ⟨{ c with
          response := Sink.settle handler c.messageType c.response (handler.process c ⟨f, []⟩).1 },
        r.put (handler.process c ⟨f, []⟩).2.federation,
        broadcasts (handler.process c ⟨f, []⟩).2.federation.handle
          (handler.process c ⟨f, []⟩).2.deliveries⟩ := by
  unfold receiveControl
  rw [there, if_pos rfl]
  simp only [found, Sink.process, handled, answered]

theorem receiveControl_unaddressed {e : RtiError}
    (there : c.messageType.isFederationMessage = true)
    (lost : addressedFederation r c.message = .error e) :
    receiveControl clock r c = ⟨c.resolve (.error e), r, []⟩ := by
  unfold receiveControl
  rw [there, if_pos rfl]
  simp only [lost]

theorem receiveControl_registry (clock : Clock) (r : Registry) (c : MessageContext) :
    (receiveControl clock r c).registry =
      (receiveControl clock r ⟨c.message, .pending⟩).registry := by
  obtain ⟨⟨request, source, target, origin⟩, response⟩ := c
  cases request with
  | createFederation | destroyFederation | listFederations | ping => rfl
  | joinFederation | resignFederation | registerSyncPoint | achieveSyncPoint =>
    simp only [receiveControl, MessageContext.messageType, ControlMessage.messageType,
      Request.messageType, MessageType.isFederationMessage, if_true]
    split
    · rfl
    · rfl

end Handling

section Answers

variable {m : ControlMessage}

theorem addressed_found {f : Federation} (found : addressedFederation r m = .ok f) :
    ∃ name : String, r.federations[name]? = some f := by
  unfold addressedFederation at found
  split at found
  · exact ⟨_, Registry.lookup_eq_ok_iff.mp found⟩
  · exact ⟨_, Registry.lookup_eq_ok_iff.mp found⟩
  · split at found
    · obtain ⟨name, hn, -⟩ := Registry.lookupHandle_found found
      exact ⟨name, hn⟩
    · cases found

theorem address_of_point {f : Federation} (asked : concernsPoint m.request = true)
    (found : addressedFederation r m = .ok f) :
    ∃ target, m.target = some target ∧ r.lookupHandle target = .ok f := by
  unfold addressedFederation at found
  split at found
  · rename_i request
    simp [concernsPoint, request] at asked
  · rename_i request
    simp [concernsPoint, request] at asked
  · split at found
    · exact ⟨_, by assumption, found⟩
    · cases found

section Federations

variable (filed : r.Filed) {clock : Clock} {f : Federation}
  (there : m.messageType.isFederationMessage = true) (found : addressedFederation r m = .ok f)
  {handler : Handler FederationDesk}
  (handled : FederationDesk.incoming.handler? m.messageType = some handler)
include filed there found handled

theorem settled_of_failure {e : RtiError} (cause : Refused clock r m e)
    (failed : handler.process ⟨m, .pending⟩ ⟨f, []⟩ = (.fail e, ⟨f, []⟩)) :
    Settled clock r m (receiveControl clock r ⟨m, .pending⟩) := by
  obtain ⟨name, hf⟩ := addressed_found found
  rw [receiveControl_of_federation (c := ⟨m, .pending⟩) there handled found, failed]
  simp only [filed.put_self hf]
  exact .refused e cause

omit filed in
theorem settled_of_success {payload : Payload} {g : Federation} (owed : List Delivery)
    (answered : Answered r m (.success payload) (r.put g))
    (succeeded : handler.process ⟨m, .pending⟩ ⟨f, []⟩ = (.succeed payload, ⟨g, owed⟩)) :
    Settled clock r m (receiveControl clock r ⟨m, .pending⟩) := by
  rw [receiveControl_of_federation (c := ⟨m, .pending⟩) there handled found, succeeded]
  exact .done payload (r.put g) _ answered

/-- A synchronization request speaks for the federate in its header, who has to be a member. -/
theorem settled_of_work (asked : concernsPoint m.request = true)
    {work : Federation → FederateHandle → Except RtiError (List Delivery) × Federation}
    (cause : ∀ e, Unserved r m work e → Refused clock r m e)
    (kept : ∀ h e g, work f h = (.error e, g) → g = f)
    (worked : ∀ h owed g, work f h = (.ok owed, g) → h ∈ f.federates ∧ ∃ sync, g = { f with sync })
    (processed : handler.process ⟨m, .pending⟩ ⟨f, []⟩ =
      FederationDesk.withSource ⟨m, .pending⟩ ⟨f, []⟩ fun h =>
        (FederationDesk.mk f []).acknowledge (work f h)) :
    Settled clock r m (receiveControl clock r ⟨m, .pending⟩) := by
  cases speaker : m.source with
  | none =>
    refine settled_of_failure filed there found handled (cause _ (.speechless speaker)) ?_
    simp only [processed, FederationDesk.withSource, speaker]
    rfl
  | some h =>
    simp only [FederationDesk.withSource, speaker] at processed
    rcases outcome : work f h with ⟨e | owed, g⟩
    · obtain rfl := kept h e g outcome
      refine settled_of_failure filed there found handled
        (cause e (.failed g h e found speaker outcome)) ?_
      rw [processed, outcome]
      rfl
    · obtain ⟨member, sync, rfl⟩ := worked h owed g outcome
      obtain ⟨target, address, addressed⟩ := address_of_point asked found
      refine settled_of_success there found handled owed
        (.synced h target f sync asked speaker address addressed member) ?_
      rw [processed, outcome]
      rfl

end Federations

theorem receiveControl_settled (filed : r.Filed) (clock : Clock) (m : ControlMessage) :
    Settled clock r m (receiveControl clock r ⟨m, .pending⟩) := by
  obtain ⟨request, source, target, origin⟩ := m
  cases request with
  | createFederation name schema version =>
    rw [receiveControl_of_global rfl rfl]
    by_cases hn : name = ""
    · simp only [createFederation, hn, if_true]
      exact .refused _ (Or.inl ⟨rfl, rfl⟩)
    · rcases ok : r.create name schema version with ⟨e | f, r'⟩
      · obtain ⟨rfl, -⟩ := Registry.create_error ok
        simp only [createFederation, hn, ok, if_false]
        exact .refused e (Or.inr ok)
      · simp only [createFederation, hn, ok, if_false]
        exact .done _ _ _ (.created name schema version f r' rfl ok)
  | destroyFederation name =>
    rw [receiveControl_of_global rfl rfl]
    rcases ok : r.destroy name with ⟨e | ⟨⟩, r'⟩
    · obtain ⟨rfl, -⟩ := filed.destroy_error ok
      simp only [destroyFederation, ok]
      exact .refused e ok
    · simp only [destroyFederation, ok]
      exact .done _ _ _ (.destroyed name r' rfl ok)
  | joinFederation federation federate =>
    cases found : addressedFederation r
      ⟨.joinFederation federation federate, source, target, origin⟩ with
    | error e =>
      rw [receiveControl_unaddressed rfl found]
      exact .refused e (Or.inl found)
    | ok f =>
      by_cases hn : federate = ""
      · subst hn
        exact settled_of_failure filed rfl found rfl (Or.inr (Or.inl ⟨rfl, rfl⟩)) rfl
      · rcases ok : f.join federate origin with ⟨e | ⟨h, owed⟩, g⟩
        · obtain ⟨rfl, -⟩ := Federation.join_error ok
          refine settled_of_failure filed rfl found rfl (Or.inr (Or.inr ⟨g, found, ok⟩)) ?_
          simp only [FederationDesk.joinFederation, hn, ok, if_false]
        · refine settled_of_success rfl found rfl owed
            (.joined federation federate f g h owed rfl found ok) ?_
          simp only [FederationDesk.joinFederation, hn, ok, if_false]
  | resignFederation federation federate =>
    cases found : addressedFederation r
      ⟨.resignFederation federation federate, source, target, origin⟩ with
    | error e =>
      rw [receiveControl_unaddressed rfl found]
      exact .refused e found
    | ok f =>
      exact settled_of_success rfl found rfl _ (.resigned federation federate f rfl found) rfl
  | listFederations => exact .done _ _ _ (.listed rfl)
  | ping =>
    cases clock with
    | some time => exact .done _ _ _ (.pong time rfl)
    | none => exact .refused _ ⟨rfl, rfl⟩
  | registerSyncPoint label tag targets =>
    cases found : addressedFederation r
      ⟨.registerSyncPoint label tag targets, source, target, origin⟩ with
    | error e =>
      rw [receiveControl_unaddressed rfl found]
      exact .refused e (.unaddressed e found)
    | ok f =>
      refine settled_of_work filed rfl found rfl rfl (fun e cause => cause)
        (fun h e g failed => (Federation.registerSyncPoint_eq_error_iff.mp failed).1) ?_ rfl
      intro h owed g ok
      obtain ⟨member, events, sync, -, -, rfl⟩ := Federation.registerSyncPoint_eq_ok_iff.mp ok
      exact ⟨member, sync, rfl⟩
  | achieveSyncPoint label =>
    cases found : addressedFederation r ⟨.achieveSyncPoint label, source, target, origin⟩ with
    | error e =>
      rw [receiveControl_unaddressed rfl found]
      exact .refused e (.unaddressed e found)
    | ok f =>
      refine settled_of_work filed rfl found rfl rfl (fun e cause => cause)
        (fun h e g failed => (Federation.achieveSyncPoint_eq_error_iff.mp failed).1) ?_ rfl
      intro h owed g ok
      obtain ⟨member, events, sync, -, -, rfl⟩ := Federation.achieveSyncPoint_eq_ok_iff.mp ok
      exact ⟨member, sync, rfl⟩

theorem receiveControl_answered (hr : r.Coherent) (clock : Clock) {c : MessageContext}
    (pending : c.response = .pending) :
    Answered r c.message (receiveControl clock r c).context.response
      (receiveControl clock r c).registry := by
  obtain ⟨m, response⟩ := c
  subst pending
  have settled := receiveControl_settled hr.named clock m
  generalize receiveControl clock r ⟨m, .pending⟩ = receipt at settled ⊢
  cases settled with
  | refused e => exact .refused e
  | done payload r' outbox answered => exact answered

end Answers

end Authority

end HlaCoordination
