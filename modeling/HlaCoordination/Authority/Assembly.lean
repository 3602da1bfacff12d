import HlaCoordination.Authority

/-!
How an authority is put together. Handlers are made by tables, which configure them when a sink is
built: the authority's own sink at its start, the incoming sink of a federation when the federation
is created. A federation is an object that lives as long as the registry names it or a request under
way holds it; its handlers refer to it without keeping it alive.
-/

namespace HlaCoordination

/-- Federations as objects are numbered. -/
abbrev Serial := Nat

/-- A handler as its table makes it. What it shares with the others of its sink is in its cell once
it has been configured. -/
structure TableHandler (κ σ : Type) where
  name : String
  process : Option κ → MessageContext → σ → Conduct × σ

namespace TableHandler

variable {κ σ : Type}

def withScope (name : String) (work : κ → MessageContext → σ → Conduct × σ) : TableHandler κ σ where
  name
  process cell c state :=
    match cell with
    | some shared => work shared c state
    | none => (.fail (.internal (.usedBeforeConfigure name)), state)

def wiring (s : TableHandler κ σ) : Wiring κ σ where
  name := s.name
  configure _ := .ok ()
  process shared := s.process (some shared)

end TableHandler

/-- A reference to a federation that does not keep it alive. -/
structure FederationScope where
  federation : Serial

structure LiveFederations where
  alive : Std.ExtTreeMap Serial Federation := ∅
  outbox : List Broadcast := []

namespace LiveFederations

def upgrade (live : LiveFederations) (scope : FederationScope) : Except RtiError Federation :=
  match live.alive[scope.federation]? with
  | some f => .ok f
  | none => .error (.internal .federationGone)

def close (live : LiveFederations) (serial : Serial) (desk : FederationDesk) :
    LiveFederations where
  alive := live.alive.insert serial desk.federation
  outbox := live.outbox ++ Authority.broadcasts desk.federation.handle desk.deliveries

def handler (h : Handler FederationDesk) : TableHandler FederationScope LiveFederations :=
  .withScope h.name fun scope c live =>
    match live.upgrade scope with
    | .error e => (.fail e, live)
    | .ok f =>
      let (conduct, desk) := h.process c ⟨f, []⟩
      (conduct, live.close scope.federation desk)

def incoming : List (MessageType × Wiring FederationScope LiveFederations) :=
  [(.joinFederation, (handler FederationDesk.joinFederation).wiring),
    (.resignFederation, (handler FederationDesk.resignFederation).wiring),
    (.registerSyncPoint, (handler FederationDesk.registerSyncPoint).wiring),
    (.achieveSyncPoint, (handler FederationDesk.achieveSyncPoint).wiring)]

end LiveFederations

/-- A registry with its federations as objects. -/
structure ObjectRegistry where
  policy : ResignPolicy := .prune
  counter : HandleCounter := {}
  /-- The federations by name. These references keep them alive. -/
  names : Std.ExtTreeMap String Serial := ∅
  alive : Std.ExtTreeMap Serial Federation := ∅
  sinks : Std.ExtTreeMap Serial (Sink LiveFederations) := ∅
  issued : Nat := 0
  clock : Clock := some 0

namespace ObjectRegistry

def timed (o : ObjectRegistry) (clock : Clock) : ObjectRegistry := { o with clock }

def install (o : ObjectRegistry) (serial : Serial) (f : Federation) (sink : Sink LiveFederations) :
    Except RtiError ObjectRegistry :=
  if o.sinks.contains serial then .error (.internal (.incomingSinkPresent f.name))
  else .ok { o with sinks := o.sinks.insert serial sink }

def create (o : ObjectRegistry) (name : String) (schema : SchemaRef) (version : HlaVersion) :
    Except RtiError Federation × ObjectRegistry :=
  if o.names.contains name then (.error (.federationAlreadyExists name), o)
  else
    let (word, counter) := o.counter.next
    let f : Federation := { name, handle := ⟨word⟩, schema, version, policy := o.policy }
    let serial := o.issued
    -- The handle is spent from here on, whether or not the federation gets its sink.
    let o := { o with counter, issued := serial + 1, alive := o.alive.insert serial f }
    match Sink.ofTable ("federation-" ++ toString word ++ "-incoming") LiveFederations.incoming
        ⟨serial⟩ with
    | .error e => (.error e, o)
    | .ok sink =>
      match o.install serial f sink with
      | .error e => (.error e, o)
      | .ok o => (.ok f, { o with names := o.names.insert name serial })

def lookup (o : ObjectRegistry) (name : String) : Except RtiError Serial :=
  match o.names[name]? with
  | some serial => .ok serial
  | none => .error (.federationDoesNotExist name)

def lookupHandle (o : ObjectRegistry) (h : FederationHandle) : Except RtiError Serial :=
  match o.names.values.find? fun serial => (o.alive[serial]?).any (·.handle == h) with
  | some serial => .ok serial
  | none => .error (.internal (.unknownFederationHandle h))

/-- The name goes, and a request that holds the federation finds it destroyed. -/
def destroy (o : ObjectRegistry) (name : String) : Except RtiError Unit × ObjectRegistry :=
  match o.lookup name with
  | .error e => (.error e, o)
  | .ok serial =>
    match o.alive[serial]? with
    | none => (.error (.internal .federationGone), o)
    | some f =>
      let (done, f) := f.retire
      let o := { o with alive := o.alive.insert serial f }
      match done with
      | .error e => (.error e, o)
      | .ok () => (.ok (), { o with names := o.names.erase name })

def federations (o : ObjectRegistry) : List Federation := o.names.values.filterMap (o.alive[·]?)

def summaries (o : ObjectRegistry) : List FederationSummary :=
  (o.federations.map Federation.summary).mergeSort fun a b => a.handle.value ≤ b.handle.value

def createFederation : TableHandler Unit ObjectRegistry :=
  .withScope "create-federation" fun () c o =>
    match c.message.request with
    | .createFederation name schema version =>
      if name = "" then (.fail (.internal .emptyFederationName), o)
      else match o.create name schema version with
        | (.ok f, o') => (.succeed (.federationCreated f.handle), o')
        | (.error e, o') => (.fail e, o')
    | _ => FederationDesk.refuse "create-federation" c o

def destroyFederation : TableHandler Unit ObjectRegistry :=
  .withScope "destroy-federation" fun () c o =>
    match c.message.request with
    | .destroyFederation name =>
      match o.destroy name with
      | (.ok (), o') => (.succeed .empty, o')
      | (.error e, o') => (.fail e, o')
    | _ => FederationDesk.refuse "destroy-federation" c o

def listFederations : TableHandler Unit ObjectRegistry :=
  .withScope "list-federations" fun () _ o => (.succeed (.federations o.summaries), o)

def ping : TableHandler Unit ObjectRegistry where
  name := "ping"
  process _ _ o := (Authority.answerPing o.clock, o)

def global : List (MessageType × Wiring Unit ObjectRegistry) :=
  [(.createFederation, createFederation.wiring), (.destroyFederation, destroyFederation.wiring),
    (.listFederations, listFederations.wiring), (.ping, ping.wiring)]

def addressed (o : ObjectRegistry) (m : ControlMessage) : Except RtiError Serial :=
  match m.request with
  | .joinFederation federation _ | .resignFederation federation _ => o.lookup federation
  | _ =>
    match m.target with
    | some h => o.lookupHandle h
    | none => .error (.internal (.noTargetFederation m.messageType))

end ObjectRegistry

/-- Where a message goes. A federation is held until the message has been served. -/
inductive Route where
  | authority
  | federation (serial : Serial)
  | nowhere (e : RtiError)

def Route.holds (serial : Serial) : Route → Bool
  | .federation held => held == serial
  | .authority | .nowhere _ => false

structure RoutedRequest where
  context : MessageContext
  route : Route

structure Assembly where
  global : Sink ObjectRegistry
  objects : ObjectRegistry
  requests : List RoutedRequest := []

namespace Assembly

def assemble (policy : ResignPolicy) : Except RtiError Assembly :=
  match Sink.ofTable "authority-global" ObjectRegistry.global () with
  | .ok global => .ok { global, objects := { policy } }
  | .error e => .error e

def direct (a : Assembly) (c : MessageContext) : RoutedRequest where
  context := c
  route :=
    if c.messageType.isFederationMessage then
      match a.objects.addressed c.message with
      | .ok serial => .federation serial
      | .error e => .nowhere e
    else .authority

def holds (a : Assembly) (serial : Serial) : Bool :=
  a.objects.names.values.contains serial || a.requests.any (·.route.holds serial)

/-- What nothing keeps alive goes, and its sink with it. -/
def sweep (a : Assembly) : Assembly :=
  { a with
    objects.alive := a.objects.alive.filter fun serial _ => a.holds serial
    objects.sinks := a.objects.sinks.filter fun serial _ => a.holds serial }

def serve (a : Assembly) (clock : Clock) (request : RoutedRequest) :
    (MessageContext × List Broadcast) × ObjectRegistry :=
  let o := a.objects.timed clock
  let c := request.context
  match request.route with
  | .nowhere e => ((c.resolve (.error e), []), o)
  | .authority =>
    let (dispatch, c', o') := a.global.process c o
    ((Authority.answered dispatch c', []), o')
  | .federation serial =>
    match o.sinks[serial]? with
    | none =>
      let name := (o.alive[serial]?.map Federation.name).getD ""
      ((c.resolve (.error (.internal (.noIncomingSink name))), []), o)
    | some sink =>
      let (dispatch, c', live) := sink.process c { alive := o.alive }
      ((Authority.answered dispatch c', live.outbox), { o with alive := live.alive })

def finish (a : Assembly) (clock : Clock) (request : RoutedRequest)
    (requests : List RoutedRequest) : (MessageContext × List Broadcast) × Assembly :=
  let (said, objects) := a.serve clock request
  (said, sweep { a with objects, requests })

def receive (a : Assembly) (clock : Clock) (c : MessageContext) :
    (MessageContext × List Broadcast) × Assembly :=
  a.finish clock (a.direct c) a.requests

end Assembly

end HlaCoordination
