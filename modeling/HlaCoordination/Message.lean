import HlaCoordination.Handle
import HlaCoordination.Text.Inspection
import HlaCoordination.Text.Vocabulary

/-!
What sessions and the authority say to each other: eight kinds of request and their payloads,
notices to sessions, and broadcasts that carry a notice to an audience.
-/

namespace HlaCoordination

abbrev Octets := List UInt8

inductive MessageType where
  | createFederation
  | destroyFederation
  | joinFederation
  | resignFederation
  | listFederations
  | ping
  | registerSyncPoint
  | achieveSyncPoint
  deriving DecidableEq, Repr

instance : Vocabulary MessageType where
  members := [.achieveSyncPoint, .createFederation, .destroyFederation, .joinFederation,
    .listFederations, .ping, .registerSyncPoint, .resignFederation]
  word
    | .createFederation => "create_federation"
    | .destroyFederation => "destroy_federation"
    | .joinFederation => "join_federation"
    | .resignFederation => "resign_federation"
    | .listFederations => "list_federations"
    | .ping => "ping"
    | .registerSyncPoint => "register_sync_point"
    | .achieveSyncPoint => "achieve_sync_point"

abbrev MessageType.word (t : MessageType) : String := Vocabulary.word t

/-- Messages handled by the federation they address; the others are handled by the authority. -/
def MessageType.isFederationMessage : MessageType → Bool
  | .joinFederation | .resignFederation | .registerSyncPoint | .achieveSyncPoint => true
  | .createFederation | .destroyFederation | .listFederations | .ping => false

inductive HlaVersion where
  | hla13
  | ieee1516
  | ieee1516e
  deriving DecidableEq, Repr

instance : Vocabulary HlaVersion where
  members := [.hla13, .ieee1516, .ieee1516e]
  word
    | .hla13 => "hla13"
    | .ieee1516 => "ieee1516"
    | .ieee1516e => "ieee1516e"

instance : Inhabited HlaVersion := ⟨.ieee1516e⟩

structure SchemaRef where
  modules : List String := []
  deriving DecidableEq, Repr

inductive Request where
  | createFederation (name : String) (schema : SchemaRef) (version : HlaVersion)
  | destroyFederation (name : String)
  | joinFederation (federation federate : String)
  | resignFederation (federation : String) (federate : FederateHandle)
  | listFederations
  | ping
  | registerSyncPoint (label : String) (tag : Octets) (targets : HandleSet)
  | achieveSyncPoint (label : String)
  deriving DecidableEq

def Request.messageType : Request → MessageType
  | .createFederation .. => .createFederation
  | .destroyFederation .. => .destroyFederation
  | .joinFederation .. => .joinFederation
  | .resignFederation .. => .resignFederation
  | .listFederations => .listFederations
  | .ping => .ping
  | .registerSyncPoint .. => .registerSyncPoint
  | .achieveSyncPoint .. => .achieveSyncPoint

/-- A request with its header: the sending federate and the federation it addresses, if it speaks
for a federate, and the session it came through, once it has been submitted. -/
structure ControlMessage where
  request : Request
  source : Option FederateHandle := none
  target : Option FederationHandle := none
  origin : Option SessionId := none
  deriving DecidableEq

def ControlMessage.messageType (m : ControlMessage) : MessageType := m.request.messageType

def ControlMessage.fromFederate (m : ControlMessage) (federate : FederateHandle)
    (federation : FederationHandle) : ControlMessage :=
  { m with source := some federate, target := some federation }

def ControlMessage.submittedBy (m : ControlMessage) (session : SessionId) : ControlMessage :=
  { m with origin := some session }

structure FederationSummary where
  name : String
  handle : FederationHandle
  federateCount : UInt64
  version : HlaVersion
  deriving DecidableEq, Repr

inductive Payload where
  | empty
  | federationCreated (federation : FederationHandle)
  | joined (federate : FederateHandle) (federation : FederationHandle)
  | federations (summaries : List FederationSummary)
  | pong (serverTimeMs : Nat)
  deriving DecidableEq, Repr

inductive Notice where
  | announced (federation : FederationHandle) (label : String) (tag : Octets)
  | synchronized (federation : FederationHandle) (label : String)
  | reflected (federation : FederationHandle) (sender : FederateHandle) (payload : Octets)
  | disconnected (reason : String)
  deriving DecidableEq, Repr

inductive Audience where
  | federation
  | sessions (recipients : List SessionId)
  deriving DecidableEq, Repr

structure Broadcast where
  federation : FederationHandle
  sender : Option FederateHandle
  audience : Audience
  notice : Notice
  deriving DecidableEq, Repr

def Broadcast.toSessions (federation : FederationHandle) (recipients : List SessionId)
    (notice : Notice) : Broadcast :=
  ⟨federation, none, .sessions recipients, notice⟩

def Broadcast.toFederation (federation : FederationHandle) (sender : FederateHandle)
    (payload : Octets) : Broadcast :=
  ⟨federation, some sender, .federation, .reflected federation sender payload⟩

def FederationHandle.shown (h : FederationHandle) : Shown :=
  .tuple "FederationHandle" [.nat h.value.toNat]

def FederateHandle.shown (h : FederateHandle) : Shown :=
  .tuple "FederateHandle" [.nat h.value.toNat]

def HlaVersion.shown : HlaVersion → Shown
  | .hla13 => .word "Hla13"
  | .ieee1516 => .word "Ieee1516"
  | .ieee1516e => .word "Ieee1516e"

def FederationSummary.shown (s : FederationSummary) : Shown :=
  .record "FederationSummary"
    [("name", .quoted s.name), ("handle", s.handle.shown),
      ("federate_count", .nat s.federateCount.toNat), ("version", s.version.shown)] true

def Payload.shown : Payload → Shown
  | .empty => .word "Empty"
  | .federationCreated federation =>
    .record "FederationCreated" [("federation", federation.shown)] true
  | .joined federate federation =>
    .record "Joined" [("federate", federate.shown), ("federation", federation.shown)] true
  | .federations summaries =>
    .tuple "Federations" [.items (summaries.map FederationSummary.shown)]
  | .pong serverTimeMs => .record "Pong" [("server_time_ms", .nat serverTimeMs)] true

end HlaCoordination
