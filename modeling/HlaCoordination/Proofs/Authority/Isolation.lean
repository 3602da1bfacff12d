import HlaCoordination.Proofs.Authority
import Mathlib.Data.List.Infix

/-! What others ask of an authority does not show in a federation. A run of messages is compared
with the run of those alone that address the federation. Runs are listed newest first. -/
namespace HlaCoordination

open Std

/-- The same federation, perhaps with other federates and points. -/
structure Federation.Continues (g f : Federation) : Prop where
  name : g.name = f.name
  handle : g.handle = f.handle

theorem Federation.Continues.refl (f : Federation) : f.Continues f := ⟨rfl, rfl⟩

theorem Federation.Continues.trans {f g h : Federation} (later : h.Continues g)
    (first : g.Continues f) : h.Continues f :=
  ⟨later.name.trans first.name, later.handle.trans first.handle⟩

theorem Federation.join_continues {f g : Federation} {name : String} {session : Option SessionId}
    {h : FederateHandle} {owed : List Delivery} (ok : f.join name session = (.ok (h, owed), g)) :
    g.Continues f := by
  obtain ⟨-, -, -, rfl, -⟩ := join_eq_ok_iff.mp ok
  exact ⟨rfl, rfl⟩

theorem Federation.workOnPoints_continues (f : Federation) (h : FederateHandle)
    (work : SyncTable → Except RtiError (List SyncEvent) × SyncTable) :
    (f.workOnPoints h work).2.Continues f := by
  unfold workOnPoints
  split
  · exact .refl f
  · exact ⟨rfl, rfl⟩

theorem Federation.resign_continues (f : Federation) (h : FederateHandle) :
    (f.resign h).2.Continues f := by
  by_cases member : h ∈ f.federates
  · rw [resign_of_mem member]
    exact ⟨rfl, rfl⟩
  · rw [resign_of_not_mem member]
    exact .refl f

namespace Registry

variable {r r' : Registry} {f : Federation} {name : String} {k : Nat}

inductive Step (r : Registry) : Registry → Prop where
  | kept : Step r r
  | created (name : String) (schema : SchemaRef) (version : HlaVersion) (f : Federation)
      (r' : Registry) (ok : r.create name schema version = (.ok f, r')) : Step r r'
  | destroyed (name : String) (r' : Registry) (ok : r.destroy name = (.ok (), r')) : Step r r'
  | changed (name : String) (f g : Federation) (found : r.federations[name]? = some f)
      (same : g.Continues f) : Step r (r.put g)

def issues (r r' : Registry) : Nat := if r'.counter = r.counter then 0 else 1

/-- The registries there can be after so many creations. An authority may be sent any message;
federations may be created and destroyed directly, and changed in any way that leaves them their
names and handles, as by restoring their points. -/
inductive Grown : Nat → Registry → Prop where
  | opened (policy : ResignPolicy) : Grown 0 { policy }
  | served (k : Nat) (r : Registry) (clock : Clock) (c : MessageContext) (before : Grown k r) :
      Grown (k + r.issues (Authority.receiveControl clock r c).registry)
        (Authority.receiveControl clock r c).registry
  | created (k : Nat) (r r' : Registry) (name : String) (schema : SchemaRef)
      (version : HlaVersion) (f : Federation) (before : Grown k r)
      (ok : r.create name schema version = (.ok f, r')) : Grown (k + 1) r'
  | destroyed (k : Nat) (r r' : Registry) (name : String) (before : Grown k r)
      (ok : r.destroy name = (.ok (), r')) : Grown k r'
  | changed (k : Nat) (r : Registry) (name : String) (f g : Federation) (before : Grown k r)
      (found : r.lookup name = .ok f) (same : g.Continues f) : Grown k (r.put g)

theorem issues_self (r : Registry) : r.issues r = 0 := if_pos rfl

theorem issues_put (r : Registry) (f : Federation) : r.issues (r.put f) = 0 := if_pos rfl

theorem issues_destroy (ok : r.destroy name = (.ok (), r')) : r.issues r' = 0 :=
  if_pos (counter_destroy ok)

theorem issues_create {schema : SchemaRef} {version : HlaVersion}
    (ok : r.create name schema version = (.ok f, r')) : r.issues r' = 1 := by
  obtain ⟨-, -, rfl⟩ := create_eq_ok_iff.mp ok
  refine if_neg fun same => ?_
  have word : r.counter.issued + 1 = r.counter.issued := congrArg HandleCounter.issued same
  have value := congrArg UInt32.toNat word
  have := r.counter.issued.toNat_lt
  rw [UInt32.toNat_add] at value
  simp only [UInt32.toNat_one] at value
  omega

/-- As long as the counter does not come round, it counts the creations and the index holds. -/
theorem Indexed.step (hr : r.Indexed) (st : r.Step r')
    (few : r.counter.issued.toNat + r.issues r' < 2 ^ 32) :
    r'.Indexed ∧ r'.counter.issued.toNat = r.counter.issued.toNat + r.issues r' := by
  cases st with
  | kept => exact ⟨hr, by rw [issues_self, Nat.add_zero]⟩
  | created name schema version f r' ok =>
    rw [issues_create ok] at few ⊢
    exact hr.create ok few
  | destroyed name r' ok =>
    rw [issues_destroy ok, Nat.add_zero]
    exact ⟨hr.destroy ok, by rw [counter_destroy ok]⟩
  | changed name f g found same =>
    rw [issues_put, Nat.add_zero]
    exact ⟨hr.put found same.name same.handle, rfl⟩

end Registry

namespace FederationDesk

theorem acknowledge_continues (d : FederationDesk)
    {worked : Except RtiError (List Delivery) × Federation}
    (same : worked.2.Continues d.federation) :
    (d.acknowledge worked).2.federation.Continues d.federation := by
  obtain ⟨_ | _, g⟩ := worked <;> exact same

theorem withSource_continues (c : MessageContext) (d : FederationDesk)
    {act : FederateHandle → Conduct × FederationDesk}
    (same : ∀ h, (act h).2.federation.Continues d.federation) :
    (withSource c d act).2.federation.Continues d.federation := by
  unfold withSource
  split
  · exact same _
  · exact .refl d.federation

theorem process_continues (c : MessageContext) (d : FederationDesk) :
    (incoming.process c d).2.2.federation.Continues d.federation := by
  obtain ⟨⟨request, source, target, origin⟩, response⟩ := c
  cases request with
  | createFederation | destroyFederation | listFederations | ping => exact .refl d.federation
  | joinFederation federation federate =>
    change (joinFederation.process ⟨⟨.joinFederation federation federate, source, target, origin⟩,
      response⟩ d).2.federation.Continues d.federation
    by_cases unnamed : federate = ""
    · simp only [joinFederation, unnamed, if_true]
      exact .refl d.federation
    · simp only [joinFederation, unnamed, if_false]
      split
      · exact Federation.join_continues ‹_›
      · rename_i failed
        rw [(Federation.join_error failed).1]
        exact .refl d.federation
  | resignFederation federation federate => exact d.federation.resign_continues federate
  | registerSyncPoint label tag targets =>
    exact withSource_continues _ d fun h =>
      d.acknowledge_continues (d.federation.workOnPoints_continues h _)
  | achieveSyncPoint label =>
    exact withSource_continues _ d fun h =>
      d.acknowledge_continues (d.federation.workOnPoints_continues h _)

end FederationDesk

structure Arrival where
  clock : Clock
  message : ControlMessage

namespace Authority

variable {r r' r₁ r₂ : Registry} {f g : Federation} {a : Arrival}

def receive (r : Registry) (a : Arrival) : Receipt :=
  receiveControl a.clock r ⟨a.message, .pending⟩

def after (r : Registry) : List Arrival → Registry
  | [] => r
  | a :: earlier => (receive (after r earlier) a).registry

def answers (r : Registry) : List Arrival → List MessageContext
  | [] => []
  | a :: earlier => (receive (after r earlier) a).context :: answers r earlier

def sent (r : Registry) : List Arrival → List Broadcast
  | [] => []
  | a :: earlier => sent r earlier ++ (receive (after r earlier) a).outbox

def creations (r : Registry) : List Arrival → Nat
  | [] => 0
  | a :: earlier => creations r earlier + (after r earlier).issues (after r (a :: earlier))

/-- Whether a message addresses the federation: by its name, to join or leave it, or by its handle,
about its points. -/
def concerns (f : Federation) (m : ControlMessage) : Bool :=
  match m.request with
  | .joinFederation name _ | .resignFederation name _ => name == f.name
  | .registerSyncPoint .. | .achieveSyncPoint _ => m.target == some f.handle
  | .createFederation .. | .destroyFederation _ | .listFederations | .ping => false

theorem concerns_continues (same : g.Continues f) (m : ControlMessage) :
    concerns g m = concerns f m := by
  simp only [concerns, same.name, same.handle]

theorem Answered.step {m : ControlMessage} {response : Response}
    (answered : Answered r m response r') : r.Step r' := by
  cases answered with
  | refused | listed | pong => exact .kept
  | created name schema version f r' asked ok => exact .created name schema version f r' ok
  | destroyed name r' asked ok => exact .destroyed name r' ok
  | joined federation federate f g h owed asked found ok =>
    have at_name := Registry.lookup_eq_ok_iff.mp found
    exact .changed federation f g at_name (Federation.join_continues ok)
  | resigned federation h f asked found =>
    exact .changed federation f _ (Registry.lookup_eq_ok_iff.mp found) (f.resign_continues h)
  | synced h target f sync asked speaker address found member =>
    obtain ⟨name, hf, -⟩ := Registry.lookupHandle_found found
    exact .changed name f _ hf ⟨rfl, rfl⟩

theorem addressed_own {m : ControlMessage} (hr : r.Indexed)
    (there : r.federations[f.name]? = some f) (own : concerns f m = true) :
    m.messageType.isFederationMessage = true ∧ addressedFederation r m = .ok f := by
  obtain ⟨request, source, target, origin⟩ := m
  cases request with
  | createFederation | destroyFederation | listFederations | ping => cases own
  | joinFederation name federate | resignFederation name federate =>
    obtain rfl : name = f.name := by simpa [concerns] using own
    exact ⟨rfl, Registry.lookup_eq_ok_iff.mpr there⟩
  | registerSyncPoint | achieveSyncPoint =>
    obtain rfl : target = some f.handle := by simpa [concerns] using own
    exact ⟨rfl, hr.lookupHandle_eq_ok_iff.mpr ⟨f.name, there, rfl⟩⟩

theorem addressed_other {m : ControlMessage} (hr : r.Indexed)
    (there : r.federations[f.name]? = some f) (other : concerns f m = false)
    (asked : m.messageType.isFederationMessage = true) (found : addressedFederation r m = .ok g) :
    g.name ≠ f.name ∧ g.handle ≠ f.handle := by
  obtain ⟨name, hg⟩ := addressed_found found
  have named := hr.named name g hg
  subst named
  have apart : g.handle ≠ f.handle → g.name ≠ f.name ∧ g.handle ≠ f.handle := by
    intro differ
    refine ⟨fun same => differ ?_, differ⟩
    rw [same, there] at hg
    exact congrArg Federation.handle (Option.some.inj hg).symm
  obtain ⟨request, source, target, origin⟩ := m
  cases request with
  | createFederation | destroyFederation | listFederations | ping => cases asked
  | joinFederation name federate | resignFederation name federate =>
    have differ : name ≠ f.name := by simpa [concerns] using other
    have at_name := Registry.lookup_eq_ok_iff.mp found
    have same := hr.named name g at_name
    refine apart fun handle => differ ?_
    rw [← same]
    exact hr.distinct _ _ _ _ hg there handle
  | registerSyncPoint | achieveSyncPoint =>
    cases target with
    | none => cases found
    | some h =>
      obtain ⟨-, -, handle⟩ := Registry.lookupHandle_found found
      refine apart ?_
      rw [handle]
      simpa [concerns] using other

theorem mem_broadcasts {h : FederationHandle} {deliveries : List Delivery} {b : Broadcast}
    (hb : b ∈ broadcasts h deliveries) : b.federation = h := by
  obtain ⟨d, -, rfl⟩ := List.mem_map.mp hb
  rfl

theorem receive_of_addressed (asked : a.message.messageType.isFederationMessage = true)
    (found : addressedFederation r a.message = .ok f) :
    receive r a =
      let served := FederationDesk.incoming.process ⟨a.message, .pending⟩ ⟨f, []⟩
      ⟨answered served.1 served.2.1, r.put served.2.2.federation,
        broadcasts served.2.2.federation.handle served.2.2.deliveries⟩ := by
  unfold receive receiveControl
  simp only [MessageContext.messageType, asked, if_true, found]

theorem receive_step (filed : r.Filed) (a : Arrival) : r.Step (receive r a).registry := by
  have settled := receiveControl_settled filed a.clock a.message
  unfold receive
  generalize receiveControl a.clock r ⟨a.message, .pending⟩ = receipt at settled ⊢
  cases settled with
  | refused e cause => exact .kept
  | done payload r' outbox answered => exact answered.step

theorem outbox_of_global (asked : a.message.messageType.isFederationMessage = false) :
    (receive r a).outbox = [] := by
  unfold receive receiveControl
  simp only [MessageContext.messageType, asked, Bool.false_eq_true, if_false]

theorem receive_global (hr : r.Indexed) (there : r.federations[f.name]? = some f)
    (asked : a.message.messageType.isFederationMessage = false)
    (stays : f.name ∈ (receive r a).registry.federations) :
    (receive r a).registry.federations[f.name]? = some f := by
  have settled := receiveControl_settled hr.named a.clock a.message
  unfold receive at stays ⊢
  generalize receiveControl a.clock r ⟨a.message, .pending⟩ = receipt at settled stays ⊢
  cases settled with
  | refused e cause => exact there
  | done payload r' outbox answered =>
    cases answered with
    | listed | pong => exact there
    | created name schema version g r' request ok =>
      obtain ⟨absent, rfl, rfl⟩ := Registry.create_eq_ok_iff.mp ok
      have differ : name ≠ f.name := by
        rintro rfl
        rw [← ExtTreeMap.isSome_getElem?_iff_mem, there] at absent
        exact absent rfl
      rw [getElem?_insert_eq_ite, if_neg differ]
      exact there
    | destroyed name r' request ok =>
      obtain ⟨g, -, -, rfl⟩ := Registry.destroy_eq_ok_iff.mp ok
      have differ : name ≠ f.name := by
        rintro rfl
        simp at stays
      rw [getElem?_erase_eq_ite, if_neg differ]
      exact there
    | joined _ _ _ _ _ _ request | resigned _ _ _ request =>
      simp [ControlMessage.messageType, request, Request.messageType,
        MessageType.isFederationMessage] at asked
    | synced h target g sync request =>
      cases message : a.message.request <;>
        simp [ControlMessage.messageType, message, Request.messageType,
          MessageType.isFederationMessage, concernsPoint] at asked request

theorem receive_other (hr : r.Indexed) (there : r.federations[f.name]? = some f)
    (other : concerns f a.message = false)
    (stays : f.name ∈ (receive r a).registry.federations) :
    (receive r a).registry.federations[f.name]? = some f ∧
      ∀ b ∈ (receive r a).outbox, b.federation ≠ f.handle := by
  cases asked : a.message.messageType.isFederationMessage with
  | false =>
    refine ⟨receive_global hr there asked stays, ?_⟩
    rw [outbox_of_global asked]
    exact nofun
  | true =>
    cases found : addressedFederation r a.message with
    | error e =>
      have lost : receive r a = ⟨_, r, []⟩ := receiveControl_unaddressed asked found
      rw [lost]
      exact ⟨there, nofun⟩
    | ok g =>
      obtain ⟨apart_name, apart_handle⟩ := addressed_other hr there other asked found
      have same := FederationDesk.process_continues ⟨a.message, .pending⟩ ⟨g, []⟩
      rw [receive_of_addressed asked found]
      refine ⟨?_, fun b hb => ?_⟩
      · rw [Registry.getElem?_put, if_neg (same.name ▸ apart_name)]
        exact there
      · rw [mem_broadcasts hb, same.handle]
        exact apart_handle

structure Alike (f : Federation) (r₁ r₂ : Registry) : Prop where
  left : r₁.Indexed
  right : r₂.Indexed
  held : ∃ g, g.Continues f ∧ r₁.federations[f.name]? = some g ∧ r₂.federations[f.name]? = some g

theorem Alike.own (h : Alike f r₁ r₂) (own : concerns f a.message = true) :
    Alike f (receive r₁ a).registry (receive r₂ a).registry ∧
      (receive r₁ a).context = (receive r₂ a).context ∧
      (receive r₁ a).outbox = (receive r₂ a).outbox ∧
      ∀ b ∈ (receive r₁ a).outbox, b.federation = f.handle := by
  obtain ⟨g, same, there₁, there₂⟩ := h.held
  rw [← same.name] at there₁ there₂
  rw [← concerns_continues same] at own
  obtain ⟨asked, found₁⟩ := addressed_own h.left there₁ own
  obtain ⟨-, found₂⟩ := addressed_own h.right there₂ own
  have kept := FederationDesk.process_continues ⟨a.message, .pending⟩ ⟨g, []⟩
  rw [receive_of_addressed asked found₁, receive_of_addressed asked found₂]
  generalize FederationDesk.incoming.process ⟨a.message, .pending⟩ ⟨g, []⟩ = served at kept ⊢
  have still : served.2.2.federation.name = f.name := kept.name.trans same.name
  refine ⟨⟨h.left.put there₁ kept.name kept.handle, h.right.put there₂ kept.name kept.handle,
    served.2.2.federation, kept.trans same, ?_, ?_⟩, rfl, rfl, fun b hb => ?_⟩
  · rw [Registry.getElem?_put, if_pos still]
  · rw [Registry.getElem?_put, if_pos still]
  · rw [mem_broadcasts hb, kept.handle, same.handle]

theorem Alike.other (h : Alike f r₁ r₂) (other : concerns f a.message = false)
    (stays : f.name ∈ (receive r₁ a).registry.federations)
    (few : r₁.counter.issued.toNat + r₁.issues (receive r₁ a).registry < 2 ^ 32) :
    Alike f (receive r₁ a).registry r₂ ∧ ∀ b ∈ (receive r₁ a).outbox, b.federation ≠ f.handle := by
  obtain ⟨g, same, there₁, there₂⟩ := h.held
  have there := there₁
  rw [← same.name] at there stays
  rw [← concerns_continues same] at other
  obtain ⟨untouched, silent⟩ := receive_other h.left there other stays
  rw [same.name] at untouched
  exact ⟨⟨(h.left.step (receive_step h.left.named a) few).1, h.right, g, same, untouched, there₂⟩,
    same.handle ▸ silent⟩

end Authority

theorem Registry.Grown.indexed {r : Registry} {k : Nat} (grown : Grown k r) (few : k < 2 ^ 32) :
    r.Indexed ∧ r.counter.issued.toNat = k := by
  induction grown with
  | opened policy => exact ⟨⟨by simp, by simp, by simp⟩, rfl⟩
  | served k r clock c before ih =>
    obtain ⟨hr, rfl⟩ := ih (by omega)
    rw [Authority.receiveControl_registry] at few ⊢
    exact hr.step (Authority.receive_step hr.named ⟨clock, c.message⟩) few
  | created k r r' name schema version f before ok ih =>
    obtain ⟨hr, rfl⟩ := ih (by omega)
    exact hr.create ok few
  | destroyed k r r' name before ok ih =>
    obtain ⟨hr, rfl⟩ := ih few
    exact ⟨hr.destroy ok, by rw [counter_destroy ok]⟩
  | changed k r name f g before found same ih =>
    obtain ⟨hr, rfl⟩ := ih few
    exact ⟨hr.put (lookup_eq_ok_iff.mp found) same.name same.handle, rfl⟩

namespace Authority

variable {r : Registry} {f : Federation} {k : Nat}

theorem receive_message (filed : r.Filed) (a : Arrival) :
    (receive r a).context.message = a.message := by
  have settled := receiveControl_settled filed a.clock a.message
  unfold receive
  generalize receiveControl a.clock r ⟨a.message, .pending⟩ = receipt at settled ⊢
  cases settled <;> rfl

def own (f : Federation) (run : List Arrival) : List Arrival := run.filter (concerns f ·.message)

/-- With or without the other messages, the federation goes through the same states, its own
messages get the same answers, and the same broadcasts are sent for it. -/
structure Isolated (r : Registry) (f : Federation) (run : List Arrival) : Prop where
  state : ∀ earlier, earlier <:+ run →
    (after r earlier).federations[f.name]? = (after r (own f earlier)).federations[f.name]?
  answers : (answers r run).filter (concerns f ·.message) = answers r (own f run)
  sent : (sent r run).filter (·.federation = f.handle) = sent r (own f run)

theorem creations_suffix {earlier run : List Arrival} (past : earlier <:+ run) :
    creations r earlier ≤ creations r run := by
  induction run with
  | nil =>
    cases List.suffix_nil.mp past
    exact Nat.le_refl _
  | cons a run ih =>
    rcases List.suffix_cons_iff.mp past with rfl | past
    · exact Nat.le_refl _
    · exact Nat.le_trans (ih past) (Nat.le_add_right _ _)

theorem after_indexed (hr : r.Indexed) (run : List Arrival)
    (few : r.counter.issued.toNat + creations r run < 2 ^ 32) :
    (after r run).Indexed ∧
      (after r run).counter.issued.toNat = r.counter.issued.toNat + creations r run := by
  induction run with
  | nil => exact ⟨hr, rfl⟩
  | cons a earlier ih =>
    simp only [creations, ← Nat.add_assoc] at few ⊢
    obtain ⟨indexed, counted⟩ := ih (by omega)
    rw [← counted] at few ⊢
    exact indexed.step (receive_step indexed.named a) few

section Run

variable (hr : r.Indexed) (there : r.federations[f.name]? = some f)
include hr there

theorem alike_after (run : List Arrival)
    (stays : ∀ earlier, earlier <:+ run → f.name ∈ (after r earlier).federations)
    (few : r.counter.issued.toNat + creations r run < 2 ^ 32) :
    Alike f (after r run) (after r (own f run)) ∧
      (answers r run).filter (concerns f ·.message) = answers r (own f run) ∧
      (sent r run).filter (·.federation = f.handle) = sent r (own f run) := by
  induction run with
  | nil => exact ⟨⟨hr, hr, f, .refl f, there, there⟩, rfl, rfl⟩
  | cons a earlier ih =>
    have before : creations r earlier ≤ creations r (a :: earlier) :=
      creations_suffix (List.suffix_cons a earlier)
    obtain ⟨alike, same_answers, same_sent⟩ :=
      ih (fun past hp => stays past (hp.trans (List.suffix_cons a earlier))) (by omega)
    have message := receive_message alike.left.named a
    cases concerned : concerns f a.message with
    | true =>
      obtain ⟨alike', context, outbox, ours⟩ := alike.own concerned
      have listed : own f (a :: earlier) = a :: own f earlier := List.filter_cons_of_pos concerned
      rw [listed]
      refine ⟨alike', ?_, ?_⟩
      · rw [answers, List.filter_cons_of_pos (by rw [message, concerned]), same_answers, context]
        rfl
      · rw [sent, List.filter_append, same_sent, sent, ← outbox,
          List.filter_eq_self.mpr fun b hb => by simpa using ours b hb]
    | false =>
      have counted := (after_indexed hr earlier (by omega)).2
      obtain ⟨alike', others⟩ := alike.other concerned (stays _ (List.suffix_refl _)) (by
        rw [counted, Nat.add_assoc]
        exact few)
      have skipped : own f (a :: earlier) = own f earlier :=
        List.filter_cons_of_neg (by simp [concerned])
      rw [skipped]
      refine ⟨alike', ?_, ?_⟩
      · rw [answers, List.filter_cons_of_neg (by simp [message, concerned]), same_answers]
      · rw [sent, List.filter_append, same_sent,
          List.filter_eq_nil_iff.mpr fun b hb => by simpa using others b hb, List.append_nil]

end Run

/-- As long as the federation is not destroyed and fewer than 2^32 federations have been created,
the messages that do not concern it make no difference to it. -/
theorem federation_isolated {name : String} (grown : r.Grown k) (there : r.lookup name = .ok f)
    (run : List Arrival)
    (stays : ∀ earlier, earlier <:+ run → name ∈ (after r earlier).federations)
    (few : k + creations r run < 2 ^ 32) : Isolated r f run := by
  obtain ⟨hr, rfl⟩ := grown.indexed (by omega)
  have at_name := Registry.lookup_eq_ok_iff.mp there
  obtain rfl := hr.named name f at_name
  obtain ⟨-, same_answers, same_sent⟩ := alike_after hr at_name run stays few
  refine ⟨fun earlier past => ?_, same_answers, same_sent⟩
  have before := creations_suffix (r := r) past
  obtain ⟨⟨-, -, g, -, left, right⟩, -, -⟩ :=
    alike_after hr at_name earlier (fun past' hp => stays past' (hp.trans past)) (by omega)
  rw [left, right]

def founding : MessageContext :=
  ⟨{ request := .createFederation "alpha" ⟨[]⟩ .ieee1516e }, .pending⟩

def solo : Registry := (receiveControl (some 0) {} founding).registry

/-- The members of one federation meet at a point, while another is created, used and destroyed,
and the first one is asked to be destroyed. -/
def traffic : List Arrival :=
  [⟨some 9, { request := .achieveSyncPoint "gate", source := some ⟨1⟩, target := some ⟨1⟩ }⟩,
    ⟨some 8, { request := .destroyFederation "beta" }⟩,
    ⟨some 7, { request := .resignFederation "beta" ⟨1⟩ }⟩,
    ⟨some 6, { request := .destroyFederation "alpha" }⟩,
    ⟨some 5,
      { request := .registerSyncPoint "gate" [8] ∅, source := some ⟨1⟩, target := some ⟨2⟩ }⟩,
    ⟨some 4,
      { request := .registerSyncPoint "gate" [7] ∅, source := some ⟨1⟩, target := some ⟨1⟩ }⟩,
    ⟨some 3, { request := .joinFederation "beta" "red", origin := some ⟨2⟩ }⟩,
    ⟨some 2, { request := .joinFederation "alpha" "red", origin := some ⟨1⟩ }⟩,
    ⟨some 1, { request := .createFederation "beta" ⟨[]⟩ .hla13 }⟩]

def lone : Federation := ⟨"alpha", ⟨1⟩, ⟨[]⟩, .ieee1516e, .prune, {}, ∅, {}, false⟩

theorem traffic_isolated :
    solo.Grown 1 ∧ solo.lookup "alpha" = .ok lone ∧
      (∀ earlier, earlier <:+ traffic → "alpha" ∈ (after solo earlier).federations) ∧
      1 + creations solo traffic < 2 ^ 32 ∧ Isolated solo lone traffic := by
  have first : ({} : Registry).issues solo = 1 := by decide
  have grown : Registry.Grown (0 + ({} : Registry).issues solo) solo :=
    .served 0 {} (some 0) founding (.opened .prune)
  rw [first] at grown
  have there : solo.lookup "alpha" = .ok lone := by decide
  have stays : ∀ earlier, earlier <:+ traffic → "alpha" ∈ (after solo earlier).federations := by
    intro earlier past
    have all : ∀ earlier ∈ traffic.tails, "alpha" ∈ (after solo earlier).federations := by decide
    exact all earlier ((List.mem_tails _ _).mpr past)
  have few : 1 + creations solo traffic < 2 ^ 32 := by decide
  exact ⟨grown, there, stays, few, federation_isolated grown there traffic stays few⟩

end Authority

end HlaCoordination
