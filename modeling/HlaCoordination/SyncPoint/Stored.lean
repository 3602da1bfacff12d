import HlaCoordination.Json.Reader
import HlaCoordination.SyncPoint

/-!
The stored form of every value that is saved: handles as numbers, tags as arrays of octets, sets
as ascending arrays, enumerations as words, records in the order of their fields. A point table is
an object from label to point, in ascending order of the labels; when a label comes twice, the
last one counts.
-/

namespace HlaCoordination

def FederateHandle.toJson (h : FederateHandle) : Json := .nat h.value.toNat

def FederateHandle.ofJson? (j : Json) : Option FederateHandle := j.word32?.map FederateHandle.mk

def FederationHandle.toJson (h : FederationHandle) : Json := .nat h.value.toNat

def FederationHandle.ofJson? (j : Json) : Option FederationHandle :=
  j.word32?.map FederationHandle.mk

def SessionId.toJson (s : SessionId) : Json := .nat s.value.toNat

def SessionId.ofJson? (j : Json) : Option SessionId := j.word64?.map SessionId.mk

def HandleSet.toJson (s : HandleSet) : Json := .array (s.toList.map FederateHandle.toJson)

def HandleSet.ofJson? (j : Json) : Option HandleSet :=
  (j.list? FederateHandle.ofJson?).map HandleSet.ofList

def SyncScope.toJson : SyncScope → Json
  | .federationWide => .text "federation_wide"
  | .restricted targets => .record [("restricted", targets.toJson)]

def SyncScope.ofJson? : Json → Option SyncScope
  | .string (some "federation_wide") => some .federationWide
  | .object [(some "federation_wide", .null)] => some .federationWide
  | .object [(some "restricted", targets)] => (HandleSet.ofJson? targets).map .restricted
  | _ => none

def octetsToJson (bs : Octets) : Json := .array (bs.map fun b => .nat b.toNat)

def octetsOfJson? (j : Json) : Option Octets := j.list? Json.octet?

def SyncPoint.toJson (p : SyncPoint) : Json :=
  .record
    [("label", .text p.label), ("tag", octetsToJson p.tag), ("scope", p.scope.toJson),
      ("status", .ofWord p.status), ("registrant", p.registrant.toJson),
      ("achieved", HandleSet.toJson p.achieved)]

def SyncPoint.ofJson? (j : Json) : Option SyncPoint := do
  match ← j.fields? ["label", "tag", "scope", "status", "registrant", "achieved"] with
  | [label, tag, scope, status, registrant, achieved] =>
    return {
      label := ← label.text?
      tag := ← octetsOfJson? tag
      scope := ← SyncScope.ofJson? scope
      status := ← status.word?
      registrant := ← FederateHandle.ofJson? registrant
      achieved := ← HandleSet.ofJson? achieved }
  | _ => none

abbrev PointMap := Std.ExtTreeMap String SyncPoint

def PointMap.ofList (entries : List (String × SyncPoint)) : PointMap :=
  Std.ExtTreeMap.ofList entries

def PointMap.toJson (m : PointMap) : Json := .record (m.toList.map fun e => (e.1, e.2.toJson))

def pointEntry? (member : Option String × Json) : Option (String × SyncPoint) := do
  return (← member.1, ← SyncPoint.ofJson? member.2)

def PointMap.ofJson? : Json → Option PointMap
  | .object members => (members.mapM pointEntry?).map PointMap.ofList
  | _ => none

def SchemaRef.toJson (s : SchemaRef) : Json :=
  .record [("modules", .array (s.modules.map Json.text))]

def SchemaRef.ofJson? (j : Json) : Option SchemaRef := do
  match ← j.fields? ["modules"] with
  | [modules] => return ⟨← modules.list? Json.text?⟩
  | _ => none

def FederationSummary.toJson (s : FederationSummary) : Json :=
  .record
    [("name", .text s.name), ("handle", s.handle.toJson),
      ("federate_count", .nat s.federateCount.toNat), ("version", .ofWord s.version)]

def FederationSummary.ofJson? (j : Json) : Option FederationSummary := do
  match ← j.fields? ["name", "handle", "federate_count", "version"] with
  | [name, handle, count, version] =>
    return {
      name := ← name.text?
      handle := ← FederationHandle.ofJson? handle
      federateCount := ← count.word64?
      version := ← version.word? }
  | _ => none

def Config.fieldNames : List String :=
  ["connection", "log_filter", "log_format", "request_timeout_ms", "notice_queue_capacity",
    "resign_policy"]

def Config.toJson (c : Config) : Json :=
  .record
    [("connection", .ofWord c.connection), ("log_filter", .text c.logFilter),
      ("log_format", .ofWord c.logFormat),
      ("request_timeout_ms", .nat c.requestTimeoutMs.toNat),
      ("notice_queue_capacity", .nat c.noticeQueueCapacity.toNat),
      ("resign_policy", .ofWord c.resignPolicy)]

def Config.ofJson? (j : Json) : Option Config := do
  match ← j.fields? Config.fieldNames with
  | [connection, logFilter, logFormat, timeout, capacity, policy] =>
    return {
      connection := ← connection.word?
      logFilter := ← logFilter.text?
      logFormat := ← logFormat.word?
      requestTimeoutMs := ← timeout.word64?
      noticeQueueCapacity := ← capacity.word64?
      resignPolicy := ← policy.word? }
  | _ => none

end HlaCoordination
