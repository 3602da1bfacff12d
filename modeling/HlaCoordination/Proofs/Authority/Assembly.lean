import HlaCoordination.Proofs.Authority.Isolation
import HlaCoordination.Proofs.Authority.Objects

/-! However an authority that has been put together came to where it is, it answers every request,
and it does so as the registry that it stands for would have it. Requests under way hold on to the
federations they are for, so that federations may be destroyed meanwhile. Runs are listed newest
first. -/
namespace HlaCoordination

open Std

namespace ObjectRegistry

variable {p : ObjectRegistry} {serial : Serial} {f : Federation}

/-- A handler of the authority does to the objects what it does to the registry. -/
theorem Sturdy.tableHandler (sturdy : p.Sturdy) (c : MessageContext)
    {s : TableHandler Unit ObjectRegistry}
    {h : Handler Registry} (made : tableHandler? c.messageType = some s)
    (meant : (Authority.global p.clock).handler? c.messageType = some h) :
    s.name = h.name ∧ Represents p ((s.wired ()).process c p) (h.process c p.registry) := by
  obtain ⟨⟨request, source, target, origin⟩, response⟩ := c
  cases request with
  | joinFederation | resignFederation | registerSyncPoint | achieveSyncPoint => cases made
  | createFederation name schema version =>
    cases made
    cases meant
    refine ⟨rfl, ?_⟩
    by_cases unnamed : name = ""
    · simp only [TableHandler.wired, createFederation, TableHandler.withScope,
        Authority.createFederation,
        unnamed, if_true]
      exact sturdy.idle _
    · simp only [TableHandler.wired, createFederation, TableHandler.withScope,
        Authority.createFederation,
        unnamed, if_false]
      rcases sturdy.create name schema version with ⟨e, failed, failed'⟩ |
        ⟨f, p', made, made', preserves⟩
      · rw [failed, failed']
        exact sturdy.idle _
      · rw [made, made']
        exact ⟨rfl, rfl, preserves⟩
  | destroyFederation name =>
    cases made
    cases meant
    refine ⟨rfl, ?_⟩
    simp only [TableHandler.wired, destroyFederation, TableHandler.withScope,
      Authority.destroyFederation]
    rcases sturdy.destroy name with ⟨e, failed, failed'⟩ | ⟨p', done, done', preserves⟩
    · rw [failed, failed']
      exact sturdy.idle _
    · rw [done, done']
      exact ⟨rfl, rfl, preserves⟩
  | listFederations =>
    cases made
    cases meant
    have summaries : p.summaries = p.registry.summaries := by
      rw [ObjectRegistry.summaries, Registry.summaries, ← values_registry]
    refine ⟨rfl, ?_⟩
    simp only [TableHandler.wired, listFederations, TableHandler.withScope,
      Authority.listFederations,
      summaries]
    exact sturdy.idle _
  | ping =>
    cases made
    cases meant
    exact ⟨rfl, sturdy.idle _⟩

theorem Sturdy.handled (sturdy : p.Sturdy) (addressed : Option FederationHandle)
    (m : ControlMessage) {s : TableHandler Unit ObjectRegistry}
    (made : tableHandler? m.messageType = some s) :
    Handled addressed m.request p ((s.wired ()).process ⟨m, .pending⟩ p) := by
  obtain ⟨request, source, target, origin⟩ := m
  cases request with
  | joinFederation | resignFederation | registerSyncPoint | achieveSyncPoint => cases made
  | createFederation name schema version =>
    cases made
    by_cases unnamed : name = ""
    · simp only [TableHandler.wired, createFederation, TableHandler.withScope, unnamed, if_true]
      exact .refused _ rfl
    · simp only [TableHandler.wired, createFederation, TableHandler.withScope, unnamed, if_false]
      rcases sturdy.create name schema version with ⟨e, failed, failed'⟩ | ⟨f, p', made, -, -⟩
      · rw [failed]
        exact .refused e ((Registry.create_error failed').2 ▸ rfl)
      · rw [made]
        exact .done _ (.created name schema version f.handle) p'
  | destroyFederation name =>
    cases made
    simp only [TableHandler.wired, destroyFederation, TableHandler.withScope]
    rcases sturdy.destroy name with ⟨e, failed, failed'⟩ | ⟨p', done, -, -⟩
    · rw [failed]
      exact .refused e (Authority.plain_destroy failed')
    · rw [done]
      exact .done _ (.destroyed name) p'
  | listFederations =>
    cases made
    exact .done _ (.listed p.summaries) p
  | ping =>
    cases made
    simp only [TableHandler.wired, ping]
    cases p.clock with
    | some time => exact .done _ (.pong time) p
    | none => exact .refused _ rfl

end ObjectRegistry

section Desks

variable {serial : Serial} {sink : Sink LiveFederations} {live : LiveFederations}
  {f : Federation} {c : MessageContext}
  {h : Handler FederationDesk}

theorem Attends.process (attends : Attends serial sink) (alive : live.alive[serial]? = some f)
    (handled : FederationDesk.incoming.handler? c.messageType = some h) :
    sink.process c live =
      (.handled,
        { c with
          response := Sink.settle h c.messageType c.response (h.process c ⟨f, []⟩).1 },
        live.close serial (h.process c ⟨f, []⟩).2) := by
  have there := attends c.messageType
  rw [handled, Option.map_some] at there
  simp only [Sink.process, there, TableHandler.wired, LiveFederations.handler,
    TableHandler.withScope, LiveFederations.upgrade, alive]
  rfl

theorem FederationDesk.handler_continues (f : Federation)
    (handled : incoming.handler? c.messageType = some h) :
    (h.process c ⟨f, []⟩).2.federation.Continues f := by
  have continued := process_continues c ⟨f, []⟩
  rw [Sink.process, handled] at continued
  exact continued

end Desks

inductive RoutedRequest.Expected (p : ObjectRegistry) : RoutedRequest → Prop where
  | authority (c : MessageContext) (mine : c.messageType.isFederationMessage = false) :
      Expected p ⟨c, .authority⟩
  | federation (c : MessageContext) (serial : Serial)
      (theirs : c.messageType.isFederationMessage = true) (alive : serial ∈ p.alive) :
      Expected p ⟨c, .federation serial⟩
  | nowhere (c : MessageContext) (e : RtiError) (plain : e.isWiring = false) :
      Expected p ⟨c, .nowhere e⟩

theorem RoutedRequest.Expected.later {p p' : ObjectRegistry} {request : RoutedRequest}
    (expected : request.Expected p)
    (kept : ∀ serial, request.route.holds serial = true → serial ∈ p.alive →
      serial ∈ p'.alive) : request.Expected p' := by
  cases expected with
  | authority c mine => exact .authority c mine
  | federation c serial theirs alive =>
    exact .federation c serial theirs (kept serial (beq_self_eq_true serial) alive)
  | nowhere c e plain => exact .nowhere c e plain

structure Answers (addressed : Option FederationHandle) (m : ControlMessage) (c : MessageContext) :
    Prop where
  message : c.message = m
  resolved : c.response ≠ .pending
  proper : Proper addressed m.request c.response

theorem Proper.answers {addressed : Option FederationHandle} {m : ControlMessage}
    {response : Response} (proper : Proper addressed m.request response) :
    Answers addressed m ⟨m, response⟩ :=
  ⟨rfl, proper.resolved, proper⟩

namespace Assembly

variable {a : Assembly} {clock : Clock} {c : MessageContext} {request : RoutedRequest}
  {p : ObjectRegistry}
  {serial : Serial} {f : Federation} {name : String}

/-- The tables have been read, the objects are in order, and whatever a request under way needs is
there. -/
structure Sturdy (a : Assembly) : Prop where
  global : ∀ t, a.global.handler? t = (ObjectRegistry.tableHandler? t).map (·.wired ())
  objects : a.objects.Sturdy
  requests : ∀ request ∈ a.requests, request.Expected a.objects

section Sweeping

theorem holds_of_named (filed : a.objects.names[name]? = some serial) : a.holds serial = true := by
  rw [holds, List.contains_iff_mem.mpr (mem_values_iff.mpr ⟨name, filed⟩), Bool.true_or]

theorem holds_of_request (under : request ∈ a.requests)
    (holds : request.route.holds serial = true) :
    a.holds serial = true := by
  rw [Assembly.holds, List.any_eq_true.mpr ⟨request, under, holds⟩, Bool.or_true]

theorem alive_sweep (a : Assembly) (serial : Serial) :
    a.sweep.objects.alive[serial]? =
      if a.holds serial then a.objects.alive[serial]? else none :=
  getElem?_filter_keys a.objects.alive a.holds serial

theorem sinks_sweep (a : Assembly) (serial : Serial) :
    a.sweep.objects.sinks[serial]? =
      if a.holds serial then a.objects.sinks[serial]? else none :=
  getElem?_filter_keys a.objects.sinks a.holds serial

theorem registry_sweep (a : Assembly) : a.sweep.objects.registry = a.objects.registry := by
  refine ObjectRegistry.registry_eq rfl rfl fun name => ?_
  rw [ObjectRegistry.getElem?_registry]
  change a.objects.names[name]?.bind _ = _
  cases filed : a.objects.names[name]? with
  | none => rfl
  | some serial =>
    rw [Option.bind_some, Option.bind_some, alive_sweep, holds_of_named filed, if_pos rfl]

theorem Sturdy.swept (sturdy : a.Sturdy) : a.sweep.Sturdy where
  global := sturdy.global
  objects := {
    wired := fun serial f there => by
      rw [alive_sweep] at there
      split at there
      · rename_i held
        rw [sinks_sweep, if_pos held]
        exact sturdy.objects.wired serial f there
      · cases there
    named := fun name serial filed => by
      rw [alive_sweep, holds_of_named (a := a) filed, if_pos rfl]
      exact sturdy.objects.named name serial filed
    fresh := fun serial above => by
      obtain ⟨dead, unused⟩ := sturdy.objects.fresh serial above
      rw [alive_sweep, sinks_sweep, dead, unused, ite_self, ite_self]
      exact ⟨rfl, rfl⟩ }
  requests request under := (sturdy.requests request under).later fun serial holds alive => by
    rw [ExtTreeMap.mem_iff_isSome_getElem?] at alive ⊢
    rw [alive_sweep, holds_of_request (a := a) under holds, if_pos rfl]
    exact alive

/-- Nothing is there that nobody keeps alive. -/
def Swept (a : Assembly) : Prop :=
  ∀ serial, a.holds serial = false →
    a.objects.alive[serial]? = none ∧ a.objects.sinks[serial]? = none

theorem swept_sweep (a : Assembly) : a.sweep.Swept := by
  intro serial unheld
  have unheld : a.holds serial = false := unheld
  rw [alive_sweep, sinks_sweep, unheld]
  exact ⟨rfl, rfl⟩

theorem sweep_of_swept (swept : a.Swept) : a.sweep = a := by
  have alive : a.sweep.objects.alive = a.objects.alive := by
    refine ExtTreeMap.ext_getElem? fun serial => ?_
    rw [alive_sweep]
    cases held : a.holds serial with
    | true => rfl
    | false => exact (swept serial held).1.symm
  have sinks : a.sweep.objects.sinks = a.objects.sinks := by
    refine ExtTreeMap.ext_getElem? fun serial => ?_
    rw [sinks_sweep]
    cases held : a.holds serial with
    | true => rfl
    | false => exact (swept serial held).2.symm
  change { a with
    objects.alive := a.sweep.objects.alive, objects.sinks := a.sweep.objects.sinks } = a
  rw [alive, sinks]

end Sweeping

theorem Sturdy.renew (sturdy : a.Sturdy) {requests : List RoutedRequest}
    (preserves : p.Preserves a.objects)
    (fewer : ∀ request ∈ requests, request ∈ a.requests) :
    (sweep { a with objects := p, requests }).Sturdy := by
  have renewed : Sturdy { a with objects := p, requests } := by
    refine ⟨sturdy.global, preserves.sturdy, fun request under => ?_⟩
    exact (sturdy.requests request (fewer request under)).later
      fun serial _ => preserves.kept serial
  exact renewed.swept

def reached (a : Assembly) (request : RoutedRequest) : Option FederationHandle :=
  match request.route with
  | .federation serial => a.objects.alive[serial]?.map Federation.handle
  | .authority | .nowhere _ => none

theorem Sturdy.tableHandler_of_global (sturdy : a.Sturdy) {h : Handler Registry}
    (handled : (Authority.global clock).handler? c.messageType = some h) :
    ∃ s, ObjectRegistry.tableHandler? c.messageType = some s ∧
      a.global.handler? c.messageType = some (s.wired ()) := by
  rw [sturdy.global]
  cases t : c.messageType with
  | createFederation | destroyFederation | listFederations | ping => exact ⟨_, rfl, rfl⟩
  | joinFederation | resignFederation | registerSyncPoint | achieveSyncPoint =>
    rw [t] at handled
    cases handled

section Serving

variable (sturdy : a.Sturdy)
include sturdy

theorem Sturdy.serve_table (clock : Clock) {h : Handler Registry}
    (handled : (Authority.global clock).handler? c.messageType = some h) :
    ∃ s, ObjectRegistry.tableHandler? c.messageType = some s ∧
      a.serve clock ⟨c, .authority⟩ =
        ((⟨c.message, Sink.settle (s.wired ()) c.messageType c.response
          ((s.wired ()).process c (a.objects.timed clock)).1⟩, []),
          ((s.wired ()).process c (a.objects.timed clock)).2) := by
  obtain ⟨s, made, there⟩ := sturdy.tableHandler_of_global handled
  refine ⟨s, made, ?_⟩
  simp only [serve, Sink.process, there, Authority.answered]

theorem Sturdy.serve_authority (clock : Clock) {h : Handler Registry}
    (handled : (Authority.global clock).handler? c.messageType = some h) :
    ObjectRegistry.Represents a.objects (a.serve clock ⟨c, .authority⟩)
      ((⟨c.message, Sink.settle h c.messageType c.response (h.process c a.objects.registry).1⟩,
        []), (h.process c a.objects.registry).2) := by
  obtain ⟨s, made, served⟩ := sturdy.serve_table clock handled
  obtain ⟨called, represents⟩ := (sturdy.objects.timed clock).sturdy.tableHandler c made handled
  rw [served]
  refine ⟨?_, represents.registry, represents.preserves.trans (sturdy.objects.timed clock)⟩
  rw [represents.same]
  simp only [Sink.settle, TableHandler.wired, called]
  rfl

theorem Sturdy.serve_federation (clock : Clock) {h : Handler FederationDesk}
    (handled : FederationDesk.incoming.handler? c.messageType = some h)
    (alive : a.objects.alive[serial]? = some f) :
    let desk := (h.process c ⟨f, []⟩).2
    let outbox := Authority.broadcasts desk.federation.handle desk.deliveries
    a.serve clock ⟨c, .federation serial⟩ =
      ((⟨c.message, Sink.settle h c.messageType c.response (h.process c ⟨f, []⟩).1⟩, outbox),
        (a.objects.timed clock).changed serial desk.federation) := by
  obtain ⟨sink, installed, attends⟩ := sturdy.objects.wired serial f alive
  have installed : (a.objects.timed clock).sinks[serial]? = some sink := installed
  have here : (LiveFederations.mk a.objects.alive []).alive[serial]? = some f := alive
  have seen := attends.process here handled
  simp only [serve, installed]
  rw [ObjectRegistry.timed, seen]
  rfl

structure RequestServed (a : Assembly) (request : RoutedRequest)
    (done : (MessageContext × List Broadcast) × ObjectRegistry) : Prop where
  answers : request.context.response = .pending →
    Answers (a.reached request) request.context.message done.1.1
  preserves : done.2.Preserves a.objects

theorem Sturdy.serve (clock : Clock) (expected : request.Expected a.objects) :
    a.RequestServed request (a.serve clock request) := by
  cases expected with
  | authority c mine =>
    obtain ⟨h, handled⟩ := Authority.global_handles clock mine
    have represents := sturdy.serve_authority clock handled
    refine ⟨fun pending => ?_, represents.preserves⟩
    obtain ⟨m, response⟩ := c
    obtain rfl : response = .pending := pending
    rw [represents.same]
    exact (Authority.proper_global _ handled).answers
  | federation c serial theirs alive =>
    obtain ⟨f, alive⟩ := Option.isSome_iff_exists.mp (ExtTreeMap.isSome_getElem?_iff_mem.mpr alive)
    obtain ⟨h, handled⟩ := Authority.incoming_handles theirs
    have same := FederationDesk.handler_continues f handled
    rw [sturdy.serve_federation clock handled alive]
    have now := sturdy.objects.timed clock
    refine ⟨fun pending => ?_, (now.sturdy.changed alive same.name).trans now⟩
    obtain ⟨m, response⟩ := c
    obtain rfl : response = .pending := pending
    have there : a.reached ⟨⟨m, .pending⟩, .federation serial⟩ = some f.handle := by
      simp only [reached, alive, Option.map_some]
    rw [there]
    exact (FederationDesk.handled_desk m f handled).proper.answers
  | nowhere c e plain =>
    refine ⟨fun pending => ?_, sturdy.objects.timed clock⟩
    obtain ⟨m, response⟩ := c
    obtain rfl : response = .pending := pending
    exact (Proper.failed e plain).answers

/-- A request under way that ends in an error leaves the objects as they were. Nothing is sent. -/
theorem Sturdy.serve_rejected (expected : request.Expected a.objects)
    (arrives : request.context.response = .pending) {e : RtiError}
    (rejected : (a.serve clock request).1.1.response = .failure e) :
    a.serve clock request =
      ((⟨request.context.message, .failure e⟩, []), a.objects.timed clock) := by
  cases expected with
  | authority c mine =>
    obtain ⟨m, response⟩ := c
    obtain rfl : response = .pending := arrives
    obtain ⟨h, handled⟩ := Authority.global_handles clock mine
    obtain ⟨s, made, served⟩ := sturdy.serve_table clock handled
    rw [served] at rejected ⊢
    have kept := ((sturdy.objects.timed clock).sturdy.handled none m made).kept rejected
    rw [kept, ← rejected]
  | federation c serial theirs alive =>
    obtain ⟨m, response⟩ := c
    obtain rfl : response = .pending := arrives
    obtain ⟨f, alive⟩ := Option.isSome_iff_exists.mp (ExtTreeMap.isSome_getElem?_iff_mem.mpr alive)
    obtain ⟨h, handled⟩ := Authority.incoming_handles theirs
    rw [sturdy.serve_federation clock handled alive] at rejected ⊢
    have kept := (FederationDesk.handled_desk m f handled).kept rejected
    have same : (a.objects.timed clock).changed serial f = a.objects.timed clock := by
      rw [ObjectRegistry.changed, insert_eq_self (show (a.objects.timed clock).alive[serial]? = _
        from alive)]
    rw [kept, ← rejected, same]
    rfl
  | nowhere c e' plain =>
    obtain ⟨m, response⟩ := c
    obtain rfl : response = .pending := arrives
    cases rejected
    rfl

inductive Directed (a : Assembly) (c : MessageContext) : RoutedRequest → Prop where
  | authority (mine : c.messageType.isFederationMessage = false) : Directed a c ⟨c, .authority⟩
  | federation (serial : Serial) (f : Federation)
      (theirs : c.messageType.isFederationMessage = true)
      (found : Authority.addressedFederation a.objects.registry c.message = .ok f)
      (alive : a.objects.alive[serial]? = some f)
      (filed : a.objects.names[f.name]? = some serial) : Directed a c ⟨c, .federation serial⟩
  | nowhere (e : RtiError) (theirs : c.messageType.isFederationMessage = true)
      (lost : Authority.addressedFederation a.objects.registry c.message = .error e) :
      Directed a c ⟨c, .nowhere e⟩

theorem Sturdy.direct (c : MessageContext) : a.Directed c (a.direct c) := by
  unfold Assembly.direct
  cases routed : c.messageType.isFederationMessage with
  | false => exact .authority routed
  | true =>
    have finds := sturdy.objects.addressed c.message
    generalize meant : Authority.addressedFederation a.objects.registry c.message = federation
      at finds
    generalize a.objects.addressed c.message = reference at finds
    cases finds with
    | found serial f alive filed => exact .federation serial f routed meant alive filed
    | lost e => exact .nowhere e routed meant

omit sturdy in
theorem Directed.expected (directed : a.Directed c request) : request.Expected a.objects := by
  cases directed with
  | authority mine => exact .authority c mine
  | federation serial f theirs found alive filed =>
    refine .federation c serial theirs (ExtTreeMap.isSome_getElem?_iff_mem.mp ?_)
    rw [alive]
    rfl
  | nowhere e theirs lost => exact .nowhere c e (Authority.plain_addressed lost)

theorem Sturdy.serve_direct (clock : Clock) (c : MessageContext) :
    let meant := Authority.receiveControl clock a.objects.registry c
    ObjectRegistry.Represents a.objects (a.serve clock (a.direct c))
      ((meant.context, meant.outbox), meant.registry) := by
  have directed := sturdy.direct c
  generalize a.direct c = request at directed
  cases directed with
  | authority mine =>
    obtain ⟨h, handled⟩ := Authority.global_handles clock mine
    rw [Authority.receiveControl_of_global mine handled]
    exact sturdy.serve_authority clock handled
  | federation serial f theirs found alive filed =>
    obtain ⟨h, handled⟩ := Authority.incoming_handles theirs
    have same := FederationDesk.handler_continues f handled
    have now := sturdy.objects.timed clock
    rw [Authority.receiveControl_of_federation theirs handled found,
      sturdy.serve_federation clock handled alive]
    exact ⟨rfl, now.sturdy.registry_changed alive same.name filed,
      (now.sturdy.changed alive same.name).trans now⟩
  | nowhere e theirs lost =>
    rw [Authority.receiveControl_unaddressed theirs lost]
    exact ⟨rfl, rfl, sturdy.objects.timed clock⟩

end Serving

/-- What happens to an authority. Federations may also be created and destroyed directly, and
changed in any way that leaves them their names and handles, as by restoring their points. -/
inductive Event where
  | arrive (c : MessageContext)
  | finish (clock : Clock) (position : Nat)
  | create (name : String) (schema : SchemaRef) (version : HlaVersion)
  | destroy (name : String)
  | change (serial : Serial) (g : Federation)

def step (a : Assembly) : Event → Assembly
  | .arrive c => { a with requests := a.requests ++ [a.direct c] }
  | .finish clock position =>
    match a.requests[position]? with
    | some request => (a.finish clock request (a.requests.eraseIdx position)).2
    | none => a
  | .create name schema version =>
    sweep { a with objects := (a.objects.create name schema version).2 }
  | .destroy name => sweep { a with objects := (a.objects.destroy name).2 }
  | .change serial g =>
    match a.objects.alive[serial]? with
    | some f =>
      let g := { g with name := f.name, handle := f.handle }
      sweep { a with objects := a.objects.changed serial g }
    | none => a

def after (a : Assembly) : List Event → Assembly
  | [] => a
  | e :: earlier => (a.after earlier).step e

theorem Sturdy.step (sturdy : a.Sturdy) (e : Event) : (a.step e).Sturdy := by
  cases e with
  | arrive c =>
    refine ⟨sturdy.global, sturdy.objects, fun request under => ?_⟩
    rcases List.mem_append.mp under with before | new
    · exact sturdy.requests request before
    · rw [List.mem_singleton.mp new]
      exact (sturdy.direct c).expected
  | finish clock position =>
    simp only [Assembly.step]
    cases there : a.requests[position]? with
    | none => exact sturdy
    | some request =>
      have expected := sturdy.requests request (List.mem_of_getElem? there)
      exact sturdy.renew (sturdy.serve clock expected).preserves fun _ => List.mem_of_mem_eraseIdx
  | create name schema version =>
    simp only [Assembly.step]
    rcases sturdy.objects.create name schema version with ⟨e, failed, -⟩ |
      ⟨f, p', made, -, preserves⟩
    · rw [failed]
      exact sturdy.swept
    · rw [made]
      exact sturdy.renew preserves fun _ => id
  | destroy name =>
    simp only [Assembly.step]
    rcases sturdy.objects.destroy name with ⟨e, failed, -⟩ | ⟨p', done, -, preserves⟩
    · rw [failed]
      exact sturdy.swept
    · rw [done]
      exact sturdy.renew preserves fun _ => id
  | change serial g =>
    simp only [Assembly.step]
    cases alive : a.objects.alive[serial]? with
    | none => exact sturdy
    | some f =>
      have same : Federation.name { g with name := f.name, handle := f.handle } = f.name := rfl
      exact sturdy.renew (sturdy.objects.changed alive same) fun _ => id

theorem Sturdy.after (sturdy : a.Sturdy) (run : List Event) : (a.after run).Sturdy := by
  induction run with
  | nil => exact sturdy
  | cons e earlier ih => exact ih.step e

theorem Swept.step (swept : a.Swept) (e : Event) : (a.step e).Swept := by
  cases e with
  | arrive c =>
    intro serial unheld
    simp only [Assembly.step, Assembly.holds, List.any_append, Bool.or_eq_false_iff] at unheld
    exact swept serial (Bool.or_eq_false_iff.mpr ⟨unheld.1, unheld.2.1⟩)
  | finish clock position =>
    simp only [Assembly.step]
    split
    · exact swept_sweep _
    · exact swept
  | create name schema version => exact swept_sweep _
  | destroy name => exact swept_sweep _
  | change serial g =>
    simp only [Assembly.step]
    split
    · exact swept_sweep _
    · exact swept

theorem Swept.after (swept : a.Swept) (run : List Event) : (a.after run).Swept := by
  induction run with
  | nil => exact swept
  | cons e earlier ih => exact ih.step e

theorem assemble_sturdy (policy : ResignPolicy) :
    ∃ a, assemble policy = .ok a ∧ a.Sturdy ∧ a.Swept := by
  let a : Assembly :=
    { global := Sink.built "authority-global" ObjectRegistry.global (), objects := { policy } }
  have made : assemble policy = .ok a := by
    rw [assemble, Sink.ofTable_of_sound global_sound]
  have empty : a.objects.Sturdy := ⟨by simp [a], by simp [a], by simp [a]⟩
  refine ⟨a, made, ⟨handler?_global "authority-global", empty, List.forall_mem_nil _⟩, ?_⟩
  intro serial unheld
  exact ⟨by simp [a], by simp [a]⟩

structure Attentive (a : Assembly) : Prop where
  /-- A message is dealt with as the registry demands. -/
  meant : ∀ clock c,
    let meant := Authority.receiveControl clock a.objects.registry c
    (a.receive clock c).1 = (meant.context, meant.outbox) ∧
      (a.receive clock c).2.objects.registry = meant.registry
  answers : ∀ clock m, Answers (Authority.addressee a.objects.registry m) m
    (a.receive clock ⟨m, .pending⟩).1.1
  /-- A request that has been under way is answered, too, by the federation that it holds. -/
  requests : ∀ clock, ∀ request ∈ a.requests, request.context.response = .pending →
    Answers (a.reached request) request.context.message (a.serve clock request).1.1

theorem Sturdy.attentive (sturdy : a.Sturdy) : a.Attentive where
  meant clock c := by
    have represents := sturdy.serve_direct clock c
    exact ⟨represents.same, (registry_sweep _).trans represents.registry⟩
  answers clock m := by
    have represents := sturdy.serve_direct clock ⟨m, .pending⟩
    obtain ⟨message, proper⟩ := Authority.receiveControl_proper clock a.objects.registry m
    have said : (a.receive clock ⟨m, .pending⟩).1.1 =
        (Authority.receiveControl clock a.objects.registry ⟨m, .pending⟩).context :=
      congrArg Prod.fst represents.same
    rw [said]
    exact ⟨message, proper.resolved, proper⟩
  requests clock request under := (sturdy.serve clock (sturdy.requests request under)).answers

/-- A message that is answered with an error changes nothing but the clock reading. -/
theorem Sturdy.receive_rejected (sturdy : a.Sturdy) (swept : a.Swept) {m : ControlMessage}
    {e : RtiError}
    (rejected : (a.receive clock ⟨m, .pending⟩).1.1.response = .failure e) :
    a.receive clock ⟨m, .pending⟩ =
      ((⟨m, .failure e⟩, []), { a with objects := a.objects.timed clock }) := by
  have directed := sturdy.direct ⟨m, .pending⟩
  have asked : (a.direct ⟨m, .pending⟩).context = ⟨m, .pending⟩ := rfl
  have served := sturdy.serve_rejected directed.expected (congrArg MessageContext.response asked)
    rejected
  have swept : Swept { a with objects := a.objects.timed clock } := swept
  rw [receive, finish, served, asked]
  exact congrArg (Prod.mk _) (sweep_of_swept swept)

theorem after_rejected {policy : ResignPolicy} (made : assemble policy = .ok a)
    (run : List Event) {m : ControlMessage} {e : RtiError}
    (rejected : ((a.after run).receive clock ⟨m, .pending⟩).1.1.response = .failure e) :
    (a.after run).receive clock ⟨m, .pending⟩ =
      ((⟨m, .failure e⟩, []),
        { a.after run with objects := (a.after run).objects.timed clock }) := by
  obtain ⟨a', made', sturdy, swept⟩ := assemble_sturdy policy
  cases made.symm.trans made'
  exact (sturdy.after run).receive_rejected (swept.after run) rejected

/-- An authority can always be put together, and whatever happens to it, it attends to every
request. -/
theorem requests_answered (policy : ResignPolicy) (run : List Event) :
    ∃ a, assemble policy = .ok a ∧ (a.after run).Attentive := by
  obtain ⟨a, made, sturdy, -⟩ := assemble_sturdy policy
  exact ⟨a, made, (sturdy.after run).attentive⟩

end Assembly

end HlaCoordination
