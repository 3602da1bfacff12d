import HlaCoordination.Proofs.Authority

/-! Every request gets an answer. It carries what was asked for, or an error that says what is wrong
with the request; no answer says that handlers or sinks were put together in a wrong way. -/
namespace HlaCoordination

open Std

/-- Faults of the way in which handlers, sinks and federations were put together. -/
def Fault.isWiring : Fault → Bool
  | .noAuthorityHandler _ | .leftUnresolved .. | .cannotProcess .. | .usedBeforeConfigure _
  | .incomingSinkPresent _ | .noIncomingSink _ | .federationGone | .duplicateHandler .. => true
  | _ => false

def RtiError.isWiring : RtiError → Bool
  | .internal fault => fault.isWiring
  | _ => false

/-- The payload that a request is promised, if the federation it addresses has this handle. -/
inductive Promised (addressed : Option FederationHandle) : Request → Payload → Prop where
  | created (name : String) (schema : SchemaRef) (version : HlaVersion) (h : FederationHandle) :
      Promised addressed (.createFederation name schema version) (.federationCreated h)
  | destroyed (name : String) : Promised addressed (.destroyFederation name) .empty
  | joined (federation federate : String) (h : FederateHandle) (handle : FederationHandle)
      (there : addressed = some handle) :
      Promised addressed (.joinFederation federation federate) (.joined h handle)
  | resigned (federation : String) (h : FederateHandle) :
      Promised addressed (.resignFederation federation h) .empty
  | listed (summaries : List FederationSummary) :
      Promised addressed .listFederations (.federations summaries)
  | pong (serverTimeMs : Nat) : Promised addressed .ping (.pong serverTimeMs)
  | registered (label : String) (tag : Octets) (targets : HandleSet) :
      Promised addressed (.registerSyncPoint label tag targets) .empty
  | achieved (label : String) : Promised addressed (.achieveSyncPoint label) .empty

inductive Proper (addressed : Option FederationHandle) (request : Request) : Response → Prop where
  | failed (e : RtiError) (plain : e.isWiring = false) : Proper addressed request (.failure e)
  | done (payload : Payload) (promised : Promised addressed request payload) :
      Proper addressed request (.success payload)

variable {σ : Type} {addressed : Option FederationHandle} {request : Request}

theorem Proper.resolved {response : Response} (h : Proper addressed request response) :
    response ≠ .pending := by
  cases h <;> exact nofun

/-- How a request is handled: it fails for a plain reason and leaves everything as it was, or it
comes to what was promised. -/
inductive Handled (addressed : Option FederationHandle) (request : Request) (state : σ) :
    Conduct × σ → Prop where
  | refused (e : RtiError) (plain : e.isWiring = false) :
      Handled addressed request state (.fail e, state)
  | done (payload : Payload) (promised : Promised addressed request payload) (state' : σ) :
      Handled addressed request state (.succeed payload, state')

namespace Handled

variable {state : σ} {done : Conduct × σ} {h : Handler σ} {t : MessageType}

theorem proper (handled : Handled addressed request state done) :
    Proper addressed request (Sink.settle h t .pending done.1) := by
  cases handled with
  | refused e plain => exact .failed e plain
  | done payload promised state' => exact .done payload promised

theorem kept {e : RtiError} (handled : Handled addressed request state done)
    (rejected : Sink.settle h t .pending done.1 = .failure e) : done.2 = state := by
  cases handled with
  | refused e plain => rfl
  | done payload promised state' => cases rejected

end Handled

namespace FederationDesk

variable {handler : Handler FederationDesk} {f g : Federation} {e : RtiError}

theorem handled_acknowledge {worked : Except RtiError (List Delivery) × Federation}
    (refused : ∀ e g, worked = (.error e, g) → g = f ∧ e.isWiring = false)
    (promised : Promised addressed request .empty) :
    Handled addressed request ⟨f, []⟩ ((FederationDesk.mk f []).acknowledge worked) := by
  rcases came : worked with ⟨e | owed, g⟩
  · obtain ⟨kept, plain⟩ := refused e g came
    rw [kept]
    exact .refused e plain
  · exact .done .empty promised (FederationDesk.mk g owed)

theorem plain_join {name : String} {session : Option SessionId}
    (failed : f.join name session = (.error e, g)) : g = f ∧ e.isWiring = false := by
  obtain ⟨kept, rfl | rfl⟩ := Federation.join_error failed <;> exact ⟨kept, rfl⟩

theorem plain_register {h : FederateHandle} {label : String} {tag : Octets} {targets : HandleSet}
    (failed : f.registerSyncPoint h label tag targets = (.error e, g)) :
    g = f ∧ e.isWiring = false := by
  obtain ⟨kept, ⟨-, rfl⟩ | ⟨-, failed⟩⟩ := Federation.registerSyncPoint_eq_error_iff.mp failed
  · exact ⟨kept, rfl⟩
  · rcases SyncTable.register_error failed with ⟨-, rfl⟩ | ⟨target, -, rfl⟩ | rfl <;>
      exact ⟨kept, rfl⟩

theorem plain_achieve {h : FederateHandle} {label : String}
    (failed : f.achieveSyncPoint h label = (.error e, g)) : g = f ∧ e.isWiring = false := by
  obtain ⟨kept, ⟨-, rfl⟩ | ⟨-, failed⟩⟩ := Federation.achieveSyncPoint_eq_error_iff.mp failed
  · exact ⟨kept, rfl⟩
  · rcases SyncTable.achieve_error failed with rfl | rfl <;> exact ⟨kept, rfl⟩

theorem handled_desk (m : ControlMessage) (f : Federation)
    (handles : incoming.handler? m.messageType = some handler) :
    Handled (some f.handle) m.request ⟨f, []⟩ (handler.process ⟨m, .pending⟩ ⟨f, []⟩) := by
  obtain ⟨request, source, target, origin⟩ := m
  cases request with
  | createFederation | destroyFederation | listFederations | ping => cases handles
  | joinFederation federation federate =>
    cases handles
    by_cases unnamed : federate = ""
    · simp only [joinFederation, unnamed, if_true]
      exact .refused _ rfl
    · rcases joined : f.join federate origin with ⟨e | ⟨h, owed⟩, g⟩
      · obtain ⟨rfl, plain⟩ := plain_join joined
        simp only [joinFederation, unnamed, joined, if_false]
        exact .refused e plain
      · obtain ⟨-, -, -, rfl, -⟩ := Federation.join_eq_ok_iff.mp joined
        simp only [joinFederation, unnamed, joined, if_false]
        exact .done _ (.joined federation federate h f.handle rfl) _
  | resignFederation federation h =>
    cases handles
    exact .done .empty (.resigned federation h) _
  | registerSyncPoint label tag targets =>
    cases handles
    cases source with
    | none => exact .refused _ rfl
    | some h =>
      exact handled_acknowledge (fun e g failed => plain_register failed)
        (.registered label tag targets)
  | achieveSyncPoint label =>
    cases handles
    cases source with
    | none => exact .refused _ rfl
    | some h => exact handled_acknowledge (fun e g failed => plain_achieve failed) (.achieved label)

end FederationDesk

namespace Authority

variable {r r' : Registry} {m : ControlMessage} {clock : Clock}

def addressee (r : Registry) (m : ControlMessage) : Option FederationHandle :=
  (addressedFederation r m).toOption.map Federation.handle

theorem plain_destroy {name : String} {e : RtiError}
    (failed : r.destroy name = (.error e, r')) : e.isWiring = false := by
  unfold Registry.destroy at failed
  cases found : r.lookup name with
  | error e' =>
    simp only [found, Prod.mk.injEq, Except.error.injEq] at failed
    rw [← failed.1, Registry.lookup_error found]
    rfl
  | ok f =>
    cases occupied : f.isOccupied with
    | true =>
      simp only [found, Federation.retire, occupied, if_true, Prod.mk.injEq,
        Except.error.injEq] at failed
      rw [← failed.1]
      rfl
    | false => simp [found, Federation.retire, occupied] at failed

theorem proper_global {handler : Handler Registry} (addressed : Option FederationHandle)
    (handled : (global clock).handler? m.messageType = some handler) :
    Proper addressed m.request (Sink.settle handler m.messageType .pending
      (handler.process ⟨m, .pending⟩ r).1) := by
  obtain ⟨request, source, target, origin⟩ := m
  cases request with
  | joinFederation | resignFederation | registerSyncPoint | achieveSyncPoint => cases handled
  | createFederation name schema version =>
    cases handled
    by_cases unnamed : name = ""
    · simp only [createFederation, unnamed, if_true]
      exact .failed _ rfl
    · rcases made : r.create name schema version with ⟨e | f, r'⟩
      · simp only [createFederation, unnamed, made, if_false]
        rw [(Registry.create_error made).2]
        exact .failed _ rfl
      · simp only [createFederation, unnamed, made, if_false]
        exact .done _ (.created name schema version f.handle)
  | destroyFederation name =>
    cases handled
    rcases gone : r.destroy name with ⟨e | ⟨⟩, r'⟩
    · simp only [destroyFederation, gone]
      exact .failed e (plain_destroy gone)
    · simp only [destroyFederation, gone]
      exact .done _ (.destroyed name)
  | listFederations =>
    cases handled
    exact .done _ (.listed r.summaries)
  | ping =>
    cases handled
    cases clock with
    | some time => exact .done _ (.pong time)
    | none => exact .failed _ rfl

theorem plain_addressed {e : RtiError} (lost : addressedFederation r m = .error e) :
    e.isWiring = false := by
  have unknown {name : String} (lost : r.lookup name = .error e) : e.isWiring = false := by
    rw [Registry.lookup_error lost]
    rfl
  unfold addressedFederation at lost
  split at lost
  · exact unknown lost
  · exact unknown lost
  · split at lost
    · unfold Registry.lookupHandle at lost
      split at lost <;> cases lost
      rfl
    · cases lost
      rfl

/-- Routing and the two tables agree: whoever a type is routed to has a handler for it. -/
theorem global_handles (clock : Clock) {t : MessageType} (mine : t.isFederationMessage = false) :
    ∃ handler, (global clock).handler? t = some handler := by
  cases t with
  | createFederation | destroyFederation | listFederations | ping => exact ⟨_, rfl⟩
  | joinFederation | resignFederation | registerSyncPoint | achieveSyncPoint => cases mine

theorem incoming_handles {t : MessageType} (theirs : t.isFederationMessage = true) :
    ∃ handler, FederationDesk.incoming.handler? t = some handler := by
  cases t with
  | createFederation | destroyFederation | listFederations | ping => cases theirs
  | joinFederation | resignFederation | registerSyncPoint | achieveSyncPoint => exact ⟨_, rfl⟩

theorem receiveControl_proper (clock : Clock) (r : Registry) (m : ControlMessage) :
    (receiveControl clock r ⟨m, .pending⟩).context.message = m ∧
      Proper (addressee r m) m.request (receiveControl clock r ⟨m, .pending⟩).context.response := by
  cases routed : m.messageType.isFederationMessage with
  | false =>
    obtain ⟨handler, handled⟩ := global_handles clock routed
    rw [receiveControl_of_global (c := ⟨m, .pending⟩) routed handled]
    exact ⟨rfl, proper_global (addressee r m) handled⟩
  | true =>
    cases found : addressedFederation r m with
    | error e =>
      rw [receiveControl_unaddressed (c := ⟨m, .pending⟩) routed found]
      exact ⟨rfl, .failed e (plain_addressed found)⟩
    | ok f =>
      obtain ⟨handler, handled⟩ := incoming_handles routed
      have there : addressee r m = some f.handle := by rw [addressee, found]; rfl
      rw [receiveControl_of_federation (c := ⟨m, .pending⟩) routed handled found, there]
      exact ⟨rfl, (FederationDesk.handled_desk m f handled).proper⟩

end Authority

end HlaCoordination
