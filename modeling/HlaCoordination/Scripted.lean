import HlaCoordination.Exchange
import HlaCoordination.Session

/-!
Stand-ins for the far side of a conversation. A scripted connection plays prepared answers to a
session and records what it was asked; a scripted inbox stands in for the authority and answers by
message type, at once or only after its gate has been opened.
-/

namespace HlaCoordination

inductive Inbound where
  | control (message : ControlMessage)
  | broadcast (broadcast : Broadcast)
  deriving DecidableEq

inductive ConnectionCall where
  | connect
  | disconnect
  | sent (inbound : Inbound)
  deriving DecidableEq

structure ScriptedConnection where
  name : String
  mailbox : Mailbox
  connectError : Option RtiError := none
  disconnectError : Option RtiError := none
  noticesError : Option RtiError := none
  broadcastError : Option RtiError := none
  replies : List Conduct := []
  calls : List ConnectionCall := []

def orError (e : Option RtiError) : Except RtiError Unit :=
  match e with
  | some e => .error e
  | none => .ok ()

namespace ScriptedConnection

def record (c : ScriptedConnection) (call : ConnectionCall) : ScriptedConnection :=
  { c with calls := c.calls ++ [call] }

def connect (c : ScriptedConnection) : Except RtiError Unit × ScriptedConnection :=
  (orError c.connectError, c.record .connect)

def disconnect (c : ScriptedConnection) : Except RtiError Unit × ScriptedConnection :=
  (orError c.disconnectError, c.record .disconnect)

def transport : Transport ScriptedConnection := fun context c =>
  let c := c.record (.sent (.control context.message))
  match c.replies with
  | [] => (.fail (.internal (.other "mock has no reply")), c)
  | reply :: rest => (reply, { c with replies := rest })

def broadcast (c : ScriptedConnection) (b : Broadcast) :
    Except RtiError Unit × ScriptedConnection :=
  (orError c.broadcastError, c.record (.sent (.broadcast b)))

def feed (c : ScriptedConnection) (n : Notice) : Bool × ScriptedConnection :=
  (c.mailbox.hasRoom, { c with mailbox := c.mailbox.offer n })

end ScriptedConnection

structure ScriptedSession where
  connection : ScriptedConnection
  membership : Option Membership := none
  callbacks : Callbacks := {}

namespace ScriptedSession

/-- A session needs a connection that connects and has a queue of notices. -/
def connect (c : ScriptedConnection) : Except RtiError ScriptedSession := do
  let (connected, c) := c.connect
  connected
  orError c.noticesError
  return { connection := c }

def perform (s : ScriptedSession) (op : Operation) : Except RtiError Reply × ScriptedSession :=
  let (reply, seat) := Session.perform ScriptedConnection.transport op ⟨s.membership, s.connection⟩
  (reply, { s with membership := seat.membership, connection := seat.link })

def transmit (s : ScriptedSession) (c : MessageContext) : Conduct × ScriptedSession :=
  let (conduct, connection) := ScriptedConnection.transport c s.connection
  (conduct, { s with connection })

def broadcast (s : ScriptedSession) (b : Broadcast) : Except RtiError Unit × ScriptedSession :=
  let (sent, connection) := s.connection.broadcast b
  (sent, { s with connection })

def disconnect (s : ScriptedSession) : Except RtiError Unit × ScriptedSession :=
  let (done, connection) := s.connection.disconnect
  (done, { s with connection, callbacks := s.callbacks.disable })

def poll (s : ScriptedSession) : Option Notice × ScriptedSession :=
  if s.callbacks.isImmediate then (none, s)
  else
    let (notice, mailbox) := s.connection.mailbox.next
    (notice, { s with connection := { s.connection with mailbox } })

def settle (s : ScriptedSession) : ScriptedSession :=
  let (callbacks, notices) := s.callbacks.dispatch s.connection.mailbox.notices
  { s with
    callbacks
    connection := { s.connection with mailbox := { s.connection.mailbox with notices } } }

end ScriptedSession

/-- A handler that does the same whatever it is asked, once it is configured. -/
structure ScriptedHandler where
  name : String
  neededShared : Option String := none
  configureError : Option RtiError := none
  conduct : Conduct := {}

def ScriptedHandler.configure (h : ScriptedHandler) (shared : String) : Except RtiError Unit :=
  if h.neededShared.all (· == shared) then orError h.configureError
  else .error (.configuration ("wired against " ++ shared))

def ScriptedHandler.wiring (h : ScriptedHandler) : Wiring String Unit where
  name := h.name
  configure := h.configure
  process _ _ _ := (h.conduct, ())

inductive ScriptedAnswer where
  | respond (resolution : Option Resolution)
  | block

structure ScriptedInbox where
  answer : MessageType → ScriptedAnswer
  blocksBroadcasts : Bool := false
  gateOpen : Bool := false
  log : List Inbound := []

namespace ScriptedInbox

def record (i : ScriptedInbox) (item : Inbound) : ScriptedInbox :=
  { i with log := i.log ++ [item] }

/-- The answered context, or nothing while the request waits at the gate. -/
def reply? (i : ScriptedInbox) (c : MessageContext) : Option MessageContext :=
  match i.answer c.messageType with
  | .respond none => some c
  | .respond (some resolution) => some (c.resolve resolution)
  | .block => if i.gateOpen then some (c.resolve (.ok .empty)) else none

/-- A broadcast that waits at the gate keeps everything behind it waiting. -/
def holdsBroadcasts (i : ScriptedInbox) : Bool := i.blocksBroadcasts && !i.gateOpen

end ScriptedInbox

end HlaCoordination
