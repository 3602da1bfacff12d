import HlaCoordination.Federation.Incoming
import HlaCoordination.Federation.Registry

/-!
How the coordination authority answers. Registry requests go to the authority's own handlers; join
and resign go to the federation they name, register and achieve to the federation whose handle the
header carries. Broadcasts to a federation go on to the sessions of all its federates but the
sender.
-/

namespace HlaCoordination

/-- Milliseconds since the epoch, unless the clock stands before it. -/
abbrev Clock := Option Nat

namespace Authority

def createFederation : Handler Registry where
  name := "create-federation"
  process c r :=
    match c.message.request with
    | .createFederation name schema version =>
      if name = "" then (.fail (.internal .emptyFederationName), r)
      else match r.create name schema version with
        | (.ok federation, r') => (.succeed (.federationCreated federation.handle), r')
        | (.error e, r') => (.fail e, r')
    | _ => FederationDesk.refuse "create-federation" c r

def destroyFederation : Handler Registry where
  name := "destroy-federation"
  process c r :=
    match c.message.request with
    | .destroyFederation name =>
      match r.destroy name with
      | (.ok (), r') => (.succeed .empty, r')
      | (.error e, r') => (.fail e, r')
    | _ => FederationDesk.refuse "destroy-federation" c r

def listFederations : Handler Registry where
  name := "list-federations"
  process _ r := (.succeed (.federations r.summaries), r)

def answerPing : Clock → Conduct
  | some time => .succeed (.pong time)
  | none => .fail (.internal .clockBeforeEpoch)

def ping (clock : Clock) : Handler Registry where
  name := "ping"
  process _ r := (answerPing clock, r)

def global (clock : Clock) : Sink Registry where
  name := "authority-global"
  handler?
    | .createFederation => some createFederation
    | .destroyFederation => some destroyFederation
    | .listFederations => some listFederations
    | .ping => some (ping clock)
    | .joinFederation | .resignFederation | .registerSyncPoint | .achieveSyncPoint => none

def addressedFederation (r : Registry) (m : ControlMessage) : Except RtiError Federation :=
  match m.request with
  | .joinFederation federation _ | .resignFederation federation _ => r.lookup federation
  | _ =>
    match m.target with
    | some h => r.lookupHandle h
    | none => .error (.internal (.noTargetFederation m.messageType))

/-- Deliveries without a recipient are not sent. -/
def broadcasts (federation : FederationHandle) (deliveries : List Delivery) : List Broadcast :=
  (deliveries.filter fun d => !d.sessions.isEmpty).map fun d =>
    .toSessions federation d.sessions d.notice

structure Receipt where
  context : MessageContext
  registry : Registry
  outbox : List Broadcast := []

def answered (dispatch : Dispatch) (c : MessageContext) : MessageContext :=
  match dispatch with
  | .handled => c
  | .unhandled => c.resolve (.error (.internal (.noAuthorityHandler c.messageType)))

def receiveControl (clock : Clock) (r : Registry) (c : MessageContext) : Receipt :=
  if c.messageType.isFederationMessage then
    match addressedFederation r c.message with
    | .error e => ⟨c.resolve (.error e), r, []⟩
    | .ok f =>
      let (dispatch, c', desk) := FederationDesk.incoming.process c ⟨f, []⟩
      ⟨answered dispatch c', r.put desk.federation,
        broadcasts desk.federation.handle desk.deliveries⟩
  else
    let (dispatch, c', r') := (global clock).process c r
    ⟨answered dispatch c', r', []⟩

def recipients (r : Registry) (b : Broadcast) : List SessionId :=
  match b.audience with
  | .sessions ids => ids
  | .federation =>
    match r.lookupHandle b.federation with
    | .ok f => f.sessionsExcept b.sender
    | .error _ => []

def receiveBroadcast (r : Registry) (b : Broadcast) : Option Broadcast :=
  let ids := recipients r b
  if ids.isEmpty then none else some { b with audience := .sessions ids }

end Authority

end HlaCoordination
