import HlaCoordination.Authority
import HlaCoordination.Scripted

/-!
One exchange with everything that meets there: authority endpoints, the registries behind them,
scripted inboxes, and the sessions of federates. An inbox at rest serves what arrives at once. While
it is held, arrivals queue behind what holds it, as many as its endpoint has room for; a request
that would have to wait for its answer times out. Nothing is lost silently but notices that find a
mailbox full and broadcasts that find an inbox full.

Left out are the failures of the machine: a lock that is poisoned by a thread that panics, and a
thread for a single request or for a dispatcher that cannot be started. So are log entries.
-/

namespace HlaCoordination

abbrev RegistryId := Nat
abbrev ScriptId := Nat
abbrev ParticipantId := Nat

inductive Inbox where
  | registry (id : RegistryId)
  | script (id : ScriptId)
  deriving DecidableEq

/-- A running inbox. It is held while it is busy with an arrival, and as long as its thread has not
come to look for one. -/
structure Listening where
  inbox : Inbox
  held : Bool := false
  backlog : List Inbound := []
  deriving DecidableEq

structure Endpoint where
  name : String
  capacity : Nat
  inbox : Option Inbox := none
  listening : Option Listening := none
  deriving DecidableEq

structure SessionLink where
  timeoutMs : Nat
  capacity : Nat
  session : Option SessionId := none
  deriving DecidableEq

def SessionLink.name (l : SessionLink) : String :=
  match l.session with
  | some id => "jvm-session-" ++ toString id.value
  | none => "jvm-session"

/-- A session of a federate. It reads the mailbox of its first connection. -/
structure Participant where
  link : SessionLink
  mailbox : SessionId
  membership : Option Membership := none
  callbacks : Callbacks := {}
  deriving DecidableEq

structure Network where
  exchange : Exchange := {}
  endpoints : Std.ExtTreeMap EndpointId Endpoint := ∅
  registries : Std.ExtTreeMap RegistryId Registry := ∅
  scripts : Std.ExtTreeMap ScriptId ScriptedInbox := ∅
  participants : Std.ExtTreeMap ParticipantId Participant := ∅
  clock : Clock := some 0
  /-- How many endpoints, registries, scripts and participants there have been. -/
  issued : Nat := 0

namespace Network

def fresh (n : Network) : Nat × Network := (n.issued, { n with issued := n.issued + 1 })

def openRegistry (n : Network) (policy : ResignPolicy) : RegistryId × Network :=
  let (id, n) := n.fresh
  (id, { n with registries := n.registries.insert id { policy } })

def setRegistry (n : Network) (id : RegistryId) (r : Registry) : Network :=
  { n with registries := n.registries.insert id r }

def openScript (n : Network) (script : ScriptedInbox) : ScriptId × Network :=
  let (id, n) := n.fresh
  (id, { n with scripts := n.scripts.insert id script })

/-- An authority connection that is not connected yet. Only the in-process binding exists. -/
def openEndpoint (n : Network) (name : String) (config : Config) :
    Except RtiError (EndpointId × Network) :=
  if config.connection.isSupported then
    let (id, n) := n.fresh
    let endpoint : Endpoint := { name, capacity := config.noticeQueueCapacity.toNat }
    .ok (id, { n with endpoints := n.endpoints.insert id endpoint })
  else .error (.unsupportedConnection config.connection)

/-- A running inbox keeps its handler; the new one is for the next connection. -/
def bindInbox (n : Network) (e : EndpointId) (inbox : Inbox) : Network :=
  { n with endpoints := n.endpoints.modify e fun endpoint => { endpoint with inbox := some inbox } }

def connectEndpoint (n : Network) (e : EndpointId) : Except RtiError Network :=
  match n.endpoints[e]? with
  | none => .error (.internal .noInbox)
  | some endpoint =>
    match endpoint.inbox, endpoint.listening with
    | none, _ => .error (.internal .noInbox)
    | some _, some _ => .error (.internal (.authorityConnected endpoint.name))
    | some inbox, none =>
      match n.exchange.attachAuthority ⟨endpoint.name, e⟩ with
      | .error error => .error error
      | .ok exchange =>
        .ok { n with
          exchange
          endpoints := n.endpoints.insert e { endpoint with listening := some { inbox } } }

/-- Connects an endpoint whose inbox cannot be started: it attaches and leaves again. -/
def connectInVain (n : Network) (e : EndpointId) (cause : String) : RtiError × Network :=
  match n.connectEndpoint e with
  | .error error => (error, n)
  | .ok attached =>
    (.internal (.inboxNotStarted cause),
      { n with exchange := attached.exchange.detachAuthority "inbox thread failed to start" })

/-- Detaches a connected endpoint and unbinds its inbox in any case. -/
def disconnectEndpoint (n : Network) (e : EndpointId) : Network :=
  match n.endpoints[e]? with
  | none => n
  | some endpoint =>
    { n with
      exchange :=
        if endpoint.listening.isSome then n.exchange.detachAuthority "authority disconnected"
        else n.exchange
      endpoints := n.endpoints.insert e { endpoint with inbox := none, listening := none } }

def isConnected (n : Network) (e : EndpointId) : Bool :=
  (n.endpoints[e]?.bind Endpoint.listening).isSome

def authorityBroadcast (n : Network) (b : Broadcast) : Except RtiError Network :=
  match b.audience with
  | .sessions ids => .ok { n with exchange := (n.exchange.deliver b.notice ids).2 }
  | .federation => .error (.internal .authorityAudience)

def sendAll (n : Network) (outbox : List Broadcast) : Network :=
  outbox.foldl (fun n b =>
    match n.authorityBroadcast b with
    | .ok n' => n'
    | .error _ => n) n

inductive Service where
  | answered (context : MessageContext)
  | waiting
  | closed

def enqueue (n : Network) (e : EndpointId) (item : Inbound) : Network :=
  { n with
    endpoints := n.endpoints.modify e fun endpoint =>
      { endpoint with
        listening := endpoint.listening.map fun l =>
          if l.backlog.length < endpoint.capacity then { l with backlog := l.backlog ++ [item] }
          else l } }

/-- The oldest arrival leaves the backlog. An inbox that finds none comes to rest. -/
def dequeue (n : Network) (e : EndpointId) : Network :=
  { n with
    endpoints := n.endpoints.modify e fun endpoint =>
      { endpoint with
        listening := endpoint.listening.map fun l =>
          match l.backlog with
          | [] => { inbox := l.inbox }
          | _ :: rest => { l with backlog := rest } } }

def hold (n : Network) (e : EndpointId) : Network :=
  { n with
    endpoints := n.endpoints.modify e fun endpoint =>
      { endpoint with listening := endpoint.listening.map fun l => { l with held := true } } }

def recordArrival (n : Network) (script : ScriptId) (item : Inbound) : Network :=
  { n with scripts := n.scripts.modify script (·.record item) }

def answerFrom (n : Network) (id : RegistryId) (c : MessageContext) : Service × Network :=
  match n.registries[id]? with
  | none => (.closed, n)
  | some registry =>
    let receipt := Authority.receiveControl n.clock registry c
    (.answered receipt.context, (n.setRegistry id receipt.registry).sendAll receipt.outbox)

def reflectFrom (n : Network) (id : RegistryId) (b : Broadcast) : Network :=
  match n.registries[id]?.bind (Authority.receiveBroadcast · b) with
  | some b' => n.sendAll [b']
  | none => n

def serveControl (n : Network) (e : EndpointId) (c : MessageContext) : Service × Network :=
  match n.endpoints[e]?.bind Endpoint.listening with
  | none => (.closed, n)
  | some { inbox, held, .. } =>
    if held then (.waiting, n.enqueue e (.control c.message))
    else match inbox with
      | .registry id => n.answerFrom id c
      | .script id =>
        let n := n.recordArrival id (.control c.message)
        match n.scripts[id]?.bind (·.reply? c) with
        | some c' => (.answered c', n)
        | none => (.waiting, n)

/-- A broadcast that finds the inbox full is dropped, and that is no error. -/
def serveBroadcast (n : Network) (e : EndpointId) (b : Broadcast) : Except RtiError Network :=
  match n.endpoints[e]?.bind Endpoint.listening with
  | none => .error (.internal .inboxClosed)
  | some { inbox, held, .. } =>
    if held then .ok (n.enqueue e (.broadcast b))
    else match inbox with
      | .registry id => .ok (n.reflectFrom id b)
      | .script id =>
        let n := n.recordArrival id (.broadcast b)
        .ok (if (n.scripts[id]?.map ScriptedInbox.holdsBroadcasts).getD false then n.hold e else n)

/-- The held inbox of an authority takes its oldest arrival and serves it, or comes to rest. Nobody
waits any longer for the answer to a request that has queued. -/
def advance (n : Network) (e : EndpointId) : Network :=
  match n.endpoints[e]?.bind Endpoint.listening with
  | some { inbox := .registry id, backlog, .. } =>
    match backlog.head? with
    | some (.broadcast b) => (n.dequeue e).reflectFrom id b
    | some (.control m) => ((n.dequeue e).answerFrom id ⟨m, .pending⟩).2
    | none => n.dequeue e
  | _ => n

/-- Opens the gate of a script for good. Inboxes held there take in what has queued up. -/
def openGate (n : Network) (script : ScriptId) : Network :=
  let n := { n with scripts := n.scripts.modify script ({ · with gateOpen := true }) }
  n.endpoints.foldl (fun n e endpoint =>
    match endpoint.listening with
    | some l =>
      if l.inbox = .script script then
        let n := l.backlog.foldl (fun n item => n.recordArrival script item) n
        { n with
          endpoints := n.endpoints.insert e
            { endpoint with listening := some { inbox := l.inbox } } }
      else n
    | none => n) n

/-- Submits a control message for a session that has to be attached. `late` says what becomes of a
request whose answer does not come. -/
def submitWith (late : EndpointId → Network → RtiError × Network) (session : SessionId)
    (c : MessageContext) (n : Network) : Except RtiError MessageContext × Network :=
  if n.exchange.attached.contains session then
    match n.exchange.authority with
    | none => (.error (.internal .noAuthority), n)
    | some present =>
      match n.serveControl present.endpoint { c with message := c.message.submittedBy session } with
      | (.answered c', n') => (.ok c', n')
      | (.waiting, n') =>
        let (e, n'') := late present.endpoint n'
        (.error e, n'')
      | (.closed, n') => (.error (.internal .inboxClosed), n')
  else (.error (.internal (.sessionNotAttached session)), n)

def conductOf (arrived : Response) : Except RtiError MessageContext → Conduct
  | .error e => .fail e
  | .ok c =>
    let resolutions := c.response.resolution?.toList
    ⟨resolutions, orError (arrived.resolveAll resolutions).error?⟩

def transportWith (late : EndpointId → Network → RtiError × Network) (link : SessionLink) :
    Transport Network := fun c n =>
  match link.session with
  | none => (.fail (.internal .sessionNotConnected), n)
  | some id =>
    let (answer, n') := submitWith late id c n
    (conductOf c.response answer, n')

/-- A session's transport. A request whose answer does not come times out. -/
def transport (link : SessionLink) : Transport Network :=
  transportWith (fun _ n => (.timeout link.timeoutMs, n)) link

/-- The same, but the endpoint leaves while the request waits. -/
def severedTransport (link : SessionLink) : Transport Network :=
  transportWith (fun e n => (.internal .authorityLeft, n.disconnectEndpoint e)) link

/-- Forwards a broadcast to the authority, whatever has become of the session meanwhile. -/
def forwardBroadcast (n : Network) (link : SessionLink) (b : Broadcast) :
    Except RtiError Network :=
  match link.session, n.exchange.authority with
  | none, _ => .error (.internal .sessionNotConnected)
  | some _, none => .error (.internal .noAuthority)
  | some _, some present => n.serveBroadcast present.endpoint b

def connectSession (n : Network) (config : Config) : Except RtiError (ParticipantId × Network) :=
  if config.connection.isSupported then
    match n.exchange.attachSession config.noticeQueueCapacity.toNat with
    | .error e => .error e
    | .ok (id, exchange) =>
      let (key, n) := n.fresh
      let link : SessionLink :=
        ⟨config.requestTimeoutMs.toNat, config.noticeQueueCapacity.toNat, some id⟩
      .ok (key, { n with
        exchange, participants := n.participants.insert key { link, mailbox := id } })
  else .error (.unsupportedConnection config.connection)

def setParticipant (n : Network) (key : ParticipantId) (p : Participant) : Network :=
  { n with participants := n.participants.insert key p }

/-- Connects a session's connection again, under a fresh id. -/
def connectLink (n : Network) (key : ParticipantId) (p : Participant) : Except RtiError Network :=
  match p.link.session with
  | some id => .error (.internal (.sessionConnected id))
  | none =>
    match n.exchange.attachSession p.link.capacity with
    | .error e => .error e
    | .ok (id, exchange) =>
      .ok ({ n with exchange }.setParticipant key
        { p with link := { p.link with session := some id } })

def disconnectLink (n : Network) (key : ParticipantId) (p : Participant) : Network :=
  match p.link.session with
  | none => n.setParticipant key p
  | some id =>
    { n with exchange := n.exchange.detachSession id }.setParticipant key
      { p with link := { p.link with session := none } }

/-- Stops pushing and disconnects; membership and queued notices stay. -/
def disconnectSession (n : Network) (key : ParticipantId) (p : Participant) : Network :=
  n.disconnectLink key { p with callbacks := p.callbacks.disable }

def dropSession (n : Network) (key : ParticipantId) (p : Participant) : Network :=
  let n := n.disconnectSession key p
  { n with participants := n.participants.erase key }

def performWith (t : SessionLink → Transport Network) (n : Network) (key : ParticipantId)
    (p : Participant) (op : Operation) : Except RtiError Reply × Network :=
  let (reply, seat) := Session.perform (t p.link) op ⟨p.membership, n⟩
  (reply, seat.link.setParticipant key { p with membership := seat.membership })

def perform (n : Network) (key : ParticipantId) (p : Participant) (op : Operation) :
    Except RtiError Reply × Network :=
  n.performWith transport key p op

def sendBroadcast (n : Network) (p : Participant) (payload : Octets) : Except RtiError Network :=
  (Session.broadcastOf p.membership payload).bind (n.forwardBroadcast p.link)

def poll (n : Network) (p : Participant) : Option Notice × Network :=
  if p.callbacks.isImmediate then (none, n)
  else
    let (notice, exchange) := n.exchange.take p.mailbox
    (notice, { n with exchange })

def settleParticipant (n : Network) (key : ParticipantId) (p : Participant) : Network :=
  let (callbacks, notices) := p.callbacks.dispatch (n.exchange.mailbox p.mailbox).notices
  { n with exchange := n.exchange.keep p.mailbox notices }.setParticipant key { p with callbacks }

def settle (n : Network) : Network :=
  n.participants.foldl (fun n key p =>
    if p.callbacks.isImmediate then n.settleParticipant key p else n) n

end Network

end HlaCoordination
