import HlaCoordination.Config
import HlaCoordination.Message

/-!
Every way in which an operation can fail. `RtiError` is what a caller receives, `Fault` is the
cause of an internal error, and each has its wording in one function. Callers that only need the
class of a failure use `RtiError.kind`.
-/

namespace HlaCoordination

inductive ErrorKind where
  | configuration
  | alreadyExists
  | doesNotExist
  | nameInUse
  | alreadyMember
  | preconditionFailed
  | internal
  | timeout
  deriving DecidableEq, Repr

def ErrorKind.word : ErrorKind → String
  | .configuration => "configuration"
  | .alreadyExists => "already_exists"
  | .doesNotExist => "does_not_exist"
  | .nameInUse => "name_in_use"
  | .alreadyMember => "already_member"
  | .preconditionFailed => "precondition_failed"
  | .internal => "internal"
  | .timeout => "timeout"

/-- Operations whose answer carries a value. -/
inductive Question where
  | create
  | join
  | list
  | ping
  deriving DecidableEq, Repr

def Question.word : Question → String
  | .create => "create"
  | .join => "join"
  | .list => "list"
  | .ping => "ping"

inductive Fault where
  | emptyFederationName
  | emptyFederateName
  | emptyLabel
  | neverResolved (type : MessageType)
  | duplicateHandler (sink : String) (type : MessageType)
  | leftUnresolved (handler : String) (type : MessageType)
  | cannotProcess (handler : String) (type : MessageType)
  | noSessionHandler (type : MessageType)
  | noAuthorityHandler (type : MessageType)
  | noTargetFederation (type : MessageType)
  | noSourceFederate (type : MessageType)
  | unknownFederationHandle (handle : FederationHandle)
  | usedBeforeConfigure (handler : String)
  | incomingSinkPresent (federation : String)
  | noIncomingSink (federation : String)
  | federationGone
  | authorityPresent (attached refused : String)
  | noAuthorityForSession
  | sessionNotAttached (session : SessionId)
  | noAuthority
  | inboxClosed
  | authorityLeft
  | noInbox
  | authorityConnected (name : String)
  | inboxNotStarted (cause : String)
  | authorityRequests
  | authorityAudience
  | authorityNotices
  | sessionConnected (session : SessionId)
  | sessionNotConnected
  | answeredWith (question : Question) (payload : Payload)
  | joinUnanswered
  | malformedSnapshot
  | clockBeforeEpoch
  | other (message : String)
  deriving DecidableEq, Repr

def Fault.message : Fault → String
  | .emptyFederationName => "federation name must not be empty"
  | .emptyFederateName => "federate name must not be empty"
  | .emptyLabel => "synchronization point label must not be empty"
  | .neverResolved type => type.word ++ " was never resolved"
  | .duplicateHandler sink type => "sink " ++ sink ++ " already has a handler for " ++ type.word
  | .leftUnresolved handler type => "handler " ++ handler ++ " left " ++ type.word ++ " unresolved"
  | .cannotProcess handler type => "handler " ++ handler ++ " cannot process " ++ type.word
  | .noSessionHandler type => "no outgoing handler for " ++ type.word
  | .noAuthorityHandler type => "no authority handler for " ++ type.word
  | .noTargetFederation type => type.word ++ " carries no target federation"
  | .noSourceFederate type => type.word ++ " carries no source federate"
  | .unknownFederationHandle handle => "no federation with handle " ++ toString handle.value
  | .usedBeforeConfigure handler => "handler " ++ handler ++ " used before configure"
  | .incomingSinkPresent federation =>
    "federation [" ++ federation ++ "] already has an incoming sink"
  | .noIncomingSink federation => "federation [" ++ federation ++ "] has no incoming sink"
  | .federationGone => "federation no longer exists"
  | .authorityPresent attached refused =>
    "authority [" ++ attached ++ "] is already attached; refusing [" ++ refused ++ "]"
  | .noAuthorityForSession => "cannot attach a session: no authority is attached"
  | .sessionNotAttached session => "session " ++ toString session.value ++ " is not attached"
  | .noAuthority => "no authority is attached"
  | .inboxClosed => "authority inbox is closed"
  | .authorityLeft => "authority detached before responding"
  | .noInbox => "no inbox handler bound to the authority"
  | .authorityConnected name => "authority [" ++ name ++ "] is already connected"
  | .inboxNotStarted cause => "failed to spawn authority inbox: " ++ cause
  | .authorityRequests => "the authority does not send control requests"
  | .authorityAudience => "authority broadcasts must name their recipient sessions"
  | .authorityNotices => "the authority has no notice queue"
  | .sessionConnected session => "session " ++ toString session.value ++ " is already connected"
  | .sessionNotConnected => "session is not connected"
  | .answeredWith question payload => question.word ++ " answered with " ++ payload.shown.render
  | .joinUnanswered => "join answered with Pending"
  | .malformedSnapshot => "sync restore failed: malformed snapshot"
  | .clockBeforeEpoch =>
    "system clock before epoch: second time provided was later than self"
  | .other message => message

inductive RtiError where
  | unsupportedConnection (connection : ConnectionType)
  | configuration (message : String)
  | federationAlreadyExists (name : String)
  | syncPointAlreadyExists (label : String)
  | federationDoesNotExist (name : String)
  | syncPointDoesNotExist (label : String)
  | federateNotJoined (handle : FederateHandle) (federation : String)
  | federateNameInUse (name federation : String)
  | alreadyMember (federation federate : String)
  | federatesCurrentlyJoined (name : String)
  | notInSyncSet (label : String) (handle : FederateHandle)
  | invalidSyncSet (label : String) (handle : FederateHandle)
  | notJoined
  | timeout (waitedMs : Nat)
  | internal (fault : Fault)
  deriving DecidableEq, Repr

namespace RtiError

def kind : RtiError → ErrorKind
  | .unsupportedConnection _ | .configuration _ => .configuration
  | .federationAlreadyExists _ | .syncPointAlreadyExists _ => .alreadyExists
  | .federationDoesNotExist _ | .syncPointDoesNotExist _ | .federateNotJoined .. => .doesNotExist
  | .federateNameInUse .. => .nameInUse
  | .alreadyMember .. => .alreadyMember
  | .federatesCurrentlyJoined _ | .notInSyncSet .. | .invalidSyncSet .. | .notJoined =>
    .preconditionFailed
  | .timeout _ => .timeout
  | .internal _ => .internal

def unsupportedMessage (connection : ConnectionType) : String :=
  "unsupported connection type: " ++ Vocabulary.word connection

def message : RtiError → String
  | .unsupportedConnection connection => "configuration error: " ++ unsupportedMessage connection
  | .configuration message => "configuration error: " ++ message
  | .federationAlreadyExists name => "federation already exists: " ++ name
  | .syncPointAlreadyExists label => "synchronization point already registered: " ++ label
  | .federationDoesNotExist name => "federation does not exist: " ++ name
  | .syncPointDoesNotExist label => "synchronization point does not exist: " ++ label
  | .federateNotJoined handle federation =>
    "federate " ++ toString handle.value ++ " is not joined to federation " ++ federation
  | .federateNameInUse name federation =>
    "federate name [" ++ name ++ "] already in use in federation [" ++ federation ++ "]"
  | .alreadyMember federation federate =>
    "already joined to federation [" ++ federation ++ "] as federate [" ++ federate ++ "]"
  | .federatesCurrentlyJoined name => "federates currently joined to federation [" ++ name ++ "]"
  | .notInSyncSet label handle =>
    "federate " ++ toString handle.value ++ " is not in the synchronization set of [" ++ label
      ++ "]"
  | .invalidSyncSet label handle =>
    "synchronization set of [" ++ label ++ "] names unknown federate " ++ toString handle.value
  | .notJoined => "not joined to a federation"
  | .timeout waitedMs => "no response within " ++ toString waitedMs ++ "ms"
  | .internal fault => "internal error: " ++ fault.message

def shown : RtiError → Shown
  | .unsupportedConnection connection =>
    .record "Configuration" [("message", .quoted (unsupportedMessage connection))] true
  | .configuration message => .record "Configuration" [("message", .quoted message)] true
  | .federationAlreadyExists name =>
    .record "FederationAlreadyExists" [("name", .quoted name)] true
  | .syncPointAlreadyExists label =>
    .record "SyncPointAlreadyExists" [("label", .quoted label)] true
  | .federationDoesNotExist name => .record "FederationDoesNotExist" [("name", .quoted name)] true
  | .syncPointDoesNotExist label => .record "SyncPointDoesNotExist" [("label", .quoted label)] true
  | .federateNotJoined handle federation =>
    .record "FederateNotJoined" [("handle", handle.shown), ("federation", .quoted federation)] true
  | .federateNameInUse name federation =>
    .record "FederateNameInUse" [("name", .quoted name), ("federation", .quoted federation)] true
  | .alreadyMember federation federate =>
    .record "AlreadyMember"
      [("federation", .quoted federation), ("federate", .quoted federate)] true
  | .federatesCurrentlyJoined name =>
    .record "FederatesCurrentlyJoined" [("name", .quoted name)] true
  | .notInSyncSet label handle =>
    .record "NotInSyncSet" [("label", .quoted label), ("handle", handle.shown)] true
  | .invalidSyncSet label handle =>
    .record "InvalidSyncSet" [("label", .quoted label), ("handle", handle.shown)] true
  | .notJoined => .word "NotJoined"
  | .timeout waitedMs => .record "Timeout" [("waited", .milliseconds waitedMs)] true
  | .internal fault => .record "Internal" [("message", .quoted fault.message)] true

end RtiError

end HlaCoordination
