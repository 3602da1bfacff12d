import HlaCoordination.Deployment.Basic

/-!
The sessions of a deployment. A session is seated in a network or talks to a scripted connection,
and every operation is there for both. An operation on a name without a session gives nothing.
-/

namespace HlaCoordination.Deployment

def seatScripted (d : Deployment) (name : String) (s : ScriptedSession) : Deployment :=
  { d with sessions := d.sessions.insert name (.scripted s.settle) }

def onSession? {α : Type} (d : Deployment) (name : String)
    (networked : Network → ParticipantId → Participant → α × Network)
    (scripted : ScriptedSession → α × ScriptedSession) : Option (α × Deployment) :=
  match d.sessions[name]? with
  | none => none
  | some (.networked exchange key) =>
    (d.network exchange).participants[key]?.map fun p =>
      let (answer, n) := networked (d.network exchange) key p
      (answer, d.setNetwork exchange n)
  | some (.scripted s) =>
    let (answer, s) := scripted s
    some (answer, d.seatScripted name s)

def viewSession? {α : Type} (d : Deployment) (name : String)
    (networked : Network → Participant → α) (scripted : ScriptedSession → α) : Option α :=
  match d.sessions[name]? with
  | none => none
  | some (.networked exchange key) =>
    (d.network exchange).participants[key]?.map (networked (d.network exchange))
  | some (.scripted s) => some (scripted s)

def releaseSession (d : Deployment) : Option Seating → Deployment
  | some (.networked exchange key) =>
    match (d.network exchange).participants[key]? with
    | some p => d.setNetwork exchange ((d.network exchange).dropSession key p)
    | none => d
  | some (.scripted _) | none => d

def seat (d : Deployment) (name : String) (s : Seating) : Deployment :=
  { d with sessions := d.sessions.insert name s }.releaseSession d.sessions[name]?

def connect (d : Deployment) (exchange name : String) (config : Config) :
    Except RtiError Deployment :=
  match (d.network exchange).connectSession config with
  | .error e => .error e
  | .ok (key, n) => .ok ((d.setNetwork exchange n).seat name (.networked exchange key))

def connectScripted (d : Deployment) (name : String) (c : ScriptedConnection) :
    Except RtiError Deployment :=
  match ScriptedSession.connect c with
  | .error e => .error e
  | .ok s => .ok (d.seat name (.scripted s))

def dropSession? (d : Deployment) (name : String) : Option Deployment :=
  d.sessions[name]?.map fun s =>
    { d with sessions := d.sessions.erase name }.releaseSession (some s)

def perform? (d : Deployment) (name : String) (op : Operation) :
    Option (Except RtiError Reply × Deployment) :=
  d.onSession? name (fun n key p => n.perform key p op) (·.perform op)

def settled {σ : Type} (old : σ) : Except RtiError σ → Except RtiError Unit × σ
  | .ok new => (.ok (), new)
  | .error e => (.error e, old)

def broadcast? (d : Deployment) (name : String) (payload : Octets) :
    Option (Except RtiError Unit × Deployment) :=
  d.onSession? name (fun n _ p => settled n (n.sendBroadcast p payload)) fun s =>
    match Session.broadcastOf s.membership payload with
    | .error e => (.error e, s)
    | .ok b => s.broadcast b

def disconnect? (d : Deployment) (name : String) : Option (Except RtiError Unit × Deployment) :=
  d.onSession? name (fun n key p => (.ok (), n.disconnectSession key p)) (·.disconnect)

/-- Connects the connection under a session, which goes on reading its first mailbox. -/
def connectLink? (d : Deployment) (name : String) : Option (Except RtiError Unit × Deployment) :=
  d.onSession? name (fun n key p => settled n (n.connectLink key p)) fun s =>
    let (connected, connection) := s.connection.connect
    (connected, { s with connection })

def disconnectLink? (d : Deployment) (name : String) :
    Option (Except RtiError Unit × Deployment) :=
  d.onSession? name (fun n key p => (.ok (), n.disconnectLink key p)) fun s =>
    let (done, connection) := s.connection.disconnect
    (done, { s with connection })

def transmit? (d : Deployment) (name : String) (c : MessageContext) :
    Option (Conduct × Deployment) :=
  d.onSession? name (fun n _ p => Network.transport p.link c n) (·.transmit c)

def sendBroadcast? (d : Deployment) (name : String) (b : Broadcast) :
    Option (Except RtiError Unit × Deployment) :=
  d.onSession? name (fun n _ p => settled n (n.forwardBroadcast p.link b)) (·.broadcast b)

def poll? (d : Deployment) (name : String) : Option (Option Notice × Deployment) :=
  d.onSession? name (fun n _ p => n.poll p) (·.poll)

def drain? (d : Deployment) (name : String) : Option (List Notice × Deployment) :=
  d.onSession? name
    (fun n _ p =>
      if p.callbacks.isImmediate then ([], n)
      else
        ((n.exchange.mailbox p.mailbox).notices,
          { n with exchange := n.exchange.keep p.mailbox [] }))
    fun s =>
      if s.callbacks.isImmediate then ([], s)
      else
        (s.connection.mailbox.notices,
          { s with
            connection := { s.connection with
              mailbox := { s.connection.mailbox with notices := [] } } })

def changeCallbacks? (d : Deployment) (name : String) (change : Callbacks → Callbacks) :
    Option Deployment :=
  (d.onSession? name
    (fun n key p => ((), n.setParticipant key { p with callbacks := change p.callbacks }))
    fun s => ((), { s with callbacks := change s.callbacks })).map Prod.snd

def enable? (d : Deployment) (name : String) (l : Listener) : Option Deployment :=
  d.changeCallbacks? name (·.enable l)

def disable? (d : Deployment) (name : String) : Option Deployment :=
  d.changeCallbacks? name Callbacks.disable

def received? (d : Deployment) (name : String) : Option (List Notice) :=
  d.viewSession? name (fun _ p => p.callbacks.listener.received)
    (·.callbacks.listener.received)

def membership? (d : Deployment) (name : String) : Option (Option Membership) :=
  d.viewSession? name (fun _ p => p.membership) (·.membership)

def connectionName? (d : Deployment) (name : String) : Option String :=
  d.viewSession? name (fun _ p => p.link.name) (·.connection.name)

def queued? (d : Deployment) (name : String) : Option (Option Nat) :=
  d.viewSession? name
    (fun n p => p.link.session.map fun id => (n.exchange.mailbox id).notices.length)
    (some ·.connection.mailbox.notices.length)

def shownSession? (d : Deployment) (name : String) : Option Shown :=
  d.viewSession? name (fun _ p => Session.shown p.link.name p.membership)
    (fun s => Session.shown s.connection.name s.membership)

def takeCalls? (d : Deployment) (name : String) : Option (List ConnectionCall × Deployment) :=
  match d.sessions[name]? with
  | some (.scripted s) =>
    some (s.connection.calls,
      d.seatScripted name { s with connection := { s.connection with calls := [] } })
  | _ => none

def feed? (d : Deployment) (name : String) (notice : Notice) : Option (Bool × Deployment) :=
  match d.sessions[name]? with
  | some (.scripted s) =>
    let (fits, connection) := s.connection.feed notice
    some (fits, d.seatScripted name { s with connection })
  | _ => none

end HlaCoordination.Deployment
