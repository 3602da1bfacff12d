import HlaCoordination.Callbacks
import HlaCoordination.Sink

/-!
A federate's side of the conversation. Requests are checked locally, sent through a transport, and
the answer is folded into the session's membership. A transport is any way to send a message that
works on a state of its own kind, so the same session runs against an authority or a script.
-/

namespace HlaCoordination

structure Membership where
  federationName : String
  federation : FederationHandle
  federateName : String
  federate : FederateHandle
  deriving DecidableEq, Repr

def Membership.shown (m : Membership) : Shown :=
  .record "Membership"
    [("federation_name", .quoted m.federationName), ("federation", m.federation.shown),
      ("federate_name", .quoted m.federateName), ("federate", m.federate.shown)] true

/-- Sends a control message; says which resolutions came back and how sending ended. -/
abbrev Transport (σ : Type) := MessageContext → σ → Conduct × σ

/-- What a session's handlers work on: its membership and the transport's state. -/
structure Seat (σ : Type) where
  membership : Option Membership
  link : σ

inductive Operation where
  | create (name : String) (schema : SchemaRef) (version : HlaVersion)
  | destroy (name : String)
  | join (federation federate : String)
  | resign
  | list
  | ping
  | register (label : String) (tag : Octets) (targets : HandleSet)
  | achieve (label : String)
  deriving DecidableEq

inductive Reply where
  | done
  | created (federation : FederationHandle)
  | joined (federate : FederateHandle) (federation : FederationHandle)
  | federations (summaries : List FederationSummary)
  | pong (serverTimeMs : Nat)
  deriving DecidableEq, Repr

namespace Session

variable {σ : Type}

def send (t : Transport σ) (c : MessageContext) (s : Seat σ) : Conduct × Seat σ :=
  let (conduct, link) := t c s.link
  (conduct, { s with link })

def stamp (c : MessageContext) (m : Membership) : MessageContext :=
  { c with message := c.message.fromFederate m.federate m.federation }

def forward (t : Transport σ) : Handler (Seat σ) where
  name := "forward"
  process c s := send t c s

def createFederation (t : Transport σ) : Handler (Seat σ) where
  name := "create-federation"
  process c s :=
    match c.message.request with
    | .createFederation "" _ _ => (.fail (.internal .emptyFederationName), s)
    | _ => send t c s

def joinRefusal? (membership : Option Membership) (federation federate : String) :
    Option RtiError :=
  match membership with
  | some m => some (.alreadyMember m.federationName m.federateName)
  | none =>
    if federation = "" then some (.federationDoesNotExist federation)
    else if federate = "" then some (.internal .emptyFederateName)
    else none

/-- A join that was sent without an error has to be answered with the handles. -/
def enter (federation federate : String) (arrived : Response) (sent : Conduct × Seat σ) :
    Conduct × Seat σ :=
  match sent.1.outcome, sent.1.responseFrom arrived with
  | .error _, _ => sent
  | .ok (), .success (.joined h f) =>
    (sent.1, { sent.2 with membership := some ⟨federation, f, federate, h⟩ })
  | .ok (), .success payload =>
    ({ sent.1 with outcome := .error (.internal (.answeredWith .join payload)) }, sent.2)
  | .ok (), _ => ({ sent.1 with outcome := .error (.internal .joinUnanswered) }, sent.2)

def joinFederation (t : Transport σ) : Handler (Seat σ) where
  name := "join-federation"
  process c s :=
    match c.message.request with
    | .joinFederation federation federate =>
      match joinRefusal? s.membership federation federate with
      | some e => (.fail e, s)
      | none => enter federation federate c.response (send t c s)
    | _ => (.fail (.internal (.cannotProcess "join-federation" c.messageType)), s)

/-- A resignation that was sent without an error gives the membership up. -/
def leave (sent : Conduct × Seat σ) : Conduct × Seat σ :=
  match sent.1.outcome with
  | .ok () => (sent.1, { sent.2 with membership := none })
  | .error _ => sent

def resignFederation (t : Transport σ) : Handler (Seat σ) where
  name := "resign-federation"
  process c s :=
    match s.membership with
    | none => (.fail .notJoined, s)
    | some m => leave (send t (stamp c m) s)

def syncPoint (t : Transport σ) : Handler (Seat σ) where
  name := "sync-point"
  process c s :=
    match s.membership with
    | none => (.fail .notJoined, s)
    | some m =>
      match c.message.request with
      | .registerSyncPoint label _ _ | .achieveSyncPoint label =>
        if label = "" then (.fail (.internal .emptyLabel), s) else send t (stamp c m) s
      | _ => (.fail (.internal (.cannotProcess "sync-point" c.messageType)), s)

def outgoing (t : Transport σ) : Sink (Seat σ) where
  name := "outgoing"
  handler?
    | .createFederation => some (createFederation t)
    | .destroyFederation | .listFederations | .ping => some (forward t)
    | .joinFederation => some (joinFederation t)
    | .resignFederation => some (resignFederation t)
    | .registerSyncPoint | .achieveSyncPoint => some (syncPoint t)

def request (t : Transport σ) (r : Request) (s : Seat σ) : Except RtiError Payload × Seat σ :=
  let (dispatch, c, s') := (outgoing t).process { message := { request := r } } s
  match dispatch with
  | .handled => (c.result, s')
  | .unhandled => (.error (.internal (.noSessionHandler r.messageType)), s')

/-- The request of an operation. A resignation speaks for the membership held at the time of the
call. -/
def requestOf (membership : Option Membership) : Operation → Except RtiError Request
  | .create name schema version => .ok (.createFederation name schema version)
  | .destroy name => .ok (.destroyFederation name)
  | .join federation federate => .ok (.joinFederation federation federate)
  | .resign =>
    match membership with
    | some m => .ok (.resignFederation m.federationName m.federate)
    | none => .error .notJoined
  | .list => .ok .listFederations
  | .ping => .ok .ping
  | .register label tag targets => .ok (.registerSyncPoint label tag targets)
  | .achieve label => .ok (.achieveSyncPoint label)

def replyOf : Operation → Payload → Except RtiError Reply
  | .create .., .federationCreated federation => .ok (.created federation)
  | .create .., payload => .error (.internal (.answeredWith .create payload))
  | .join .., .joined federate federation => .ok (.joined federate federation)
  | .join .., payload => .error (.internal (.answeredWith .join payload))
  | .list, .federations summaries => .ok (.federations summaries)
  | .list, payload => .error (.internal (.answeredWith .list payload))
  | .ping, .pong serverTimeMs => .ok (.pong serverTimeMs)
  | .ping, payload => .error (.internal (.answeredWith .ping payload))
  | .destroy _, _ | .resign, _ | .register .., _ | .achieve _, _ => .ok .done

def perform (t : Transport σ) (op : Operation) (s : Seat σ) : Except RtiError Reply × Seat σ :=
  match requestOf s.membership op with
  | .error e => (.error e, s)
  | .ok r =>
    let (answer, s') := request t r s
    (answer.bind (replyOf op), s')

def broadcastOf (membership : Option Membership) (payload : Octets) :
    Except RtiError Broadcast :=
  match membership with
  | some m => .ok (.toFederation m.federation m.federate payload)
  | none => .error .notJoined

def shown (connection : String) (membership : Option Membership) : Shown :=
  .record "Session"
    [("connection", .quoted connection), ("membership", .option (membership.map Membership.shown))]
    false

end Session

end HlaCoordination
