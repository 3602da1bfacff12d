import HlaCoordination.SyncPoint.Stored

/-!
The table of a federation's synchronization points. Every operation is given the federates that
are joined and says whom to tell what, or why it fails, with the table as it is left in either case.
While a snapshot is being restored the table changes in the same way and nobody is told anything.
-/

namespace HlaCoordination

inductive SyncEvent where
  | announced (label : String) (tag : Octets) (recipients : HandleSet)
  | synchronized (label : String) (recipients : HandleSet)
  deriving DecidableEq

structure SyncTable where
  points : PointMap := ∅
  restoring : Bool := false
  deriving DecidableEq

abbrev Snapshot := Octets

namespace SyncTable

def emit (t : SyncTable) (events : List SyncEvent) : List SyncEvent :=
  if t.restoring then [] else events

def unknownTarget? (targets joined : HandleSet) : Option FederateHandle :=
  targets.toList.find? fun h => !joined.contains h

/-- A label must be present, every target joined, and the label free, in this order. -/
def tryRegister (t : SyncTable) (label : String) (tag : Octets) (targets : HandleSet)
    (registrant : FederateHandle) (joined : HandleSet) :
    Except RtiError (List SyncEvent) × SyncTable :=
  if label = "" then (.error (.internal .emptyLabel), t)
  else match unknownTarget? targets joined with
    | some h => (.error (.invalidSyncSet label h), t)
    | none =>
      if t.points.contains label then (.error (.syncPointAlreadyExists label), t)
      else
        let scope := SyncScope.ofTargets targets
        let recipients := scope.members joined
        let t := { t with points := t.points.insert label { label, tag, scope, registrant } }
        (.ok (t.emit [.announced label tag recipients]), t)

/-- Achieving a point again is no error, and the last member to achieve it synchronizes it. -/
def tryAchieve (t : SyncTable) (label : String) (h : FederateHandle) (joined : HandleSet) :
    Except RtiError (List SyncEvent) × SyncTable :=
  match t.points[label]? with
  | none => (.error (.syncPointDoesNotExist label), t)
  | some p =>
    if p.scope.includes h then
      let p := p.achieve h
      let events :=
        if p.isComplete joined then [.synchronized label (p.scope.members joined)] else []
      let t := { t with points := t.points.insert label (p.advance joined) }
      (.ok (t.emit events), t)
    else (.error (.notInSyncSet label h), t)

/-- Labels and tags of the federation-wide points that a federate has achieved. -/
def rollCall (t : SyncTable) (h : FederateHandle) : Std.ExtTreeMap String Octets :=
  .ofList ((t.points.values.filter fun p =>
    p.scope.isFederationWide && p.achieved.contains h).map fun p => (p.label, p.tag))

/-- What a new federate has missed: the open federation-wide points. -/
def announcementsForJoiner (t : SyncTable) (h : FederateHandle) : List SyncEvent :=
  t.emit ((t.points.values.filter fun p =>
    p.scope.isFederationWide && !p.isSynchronized).map fun p =>
      .announced p.label p.tag (HandleSet.ofList [h]))

/-- An open point forgets the federate that has gone and may be complete without it. -/
def afterResignation (p : SyncPoint) (h : FederateHandle) (joined : HandleSet)
    (policy : ResignPolicy) : SyncPoint :=
  if p.isSynchronized then p else (p.forget h policy).advance joined

def resignationEvent? (p : SyncPoint) (h : FederateHandle) (joined : HandleSet)
    (policy : ResignPolicy) : Option SyncEvent :=
  let q := p.forget h policy
  if !p.isSynchronized && q.isComplete joined then
    some (.synchronized p.label (q.scope.members joined))
  else none

def resigned (t : SyncTable) (h : FederateHandle) (joined : HandleSet) (policy : ResignPolicy) :
    List SyncEvent × SyncTable :=
  (t.emit (t.points.values.filterMap (resignationEvent? · h joined policy)),
    { t with
      points := (t.points.map fun _ p => afterResignation p h joined policy).filter
        fun _ p => !p.scope.hasNoTargets })

def snapshot (t : SyncTable) : Snapshot := (PointMap.toJson t.points).render

/-- Replaces the points by those of a snapshot and stops telling. -/
def tryRestore (t : SyncTable) (s : Snapshot) : Except RtiError Unit × SyncTable :=
  match (Json.parse? s).bind PointMap.ofJson? with
  | some points => (.ok (), { t with points := points, restoring := true })
  | none => (.error (.internal .malformedSnapshot), t)

def finishRestore (t : SyncTable) : SyncTable := { t with restoring := false }

/-! The same operations for whoever drops the table once they fail. -/

def completed {α : Type} : Except RtiError α × SyncTable → Except RtiError (α × SyncTable)
  | (.ok result, t) => .ok (result, t)
  | (.error e, _) => .error e

def register (t : SyncTable) (label : String) (tag : Octets) (targets : HandleSet)
    (registrant : FederateHandle) (joined : HandleSet) :
    Except RtiError (List SyncEvent × SyncTable) :=
  completed (t.tryRegister label tag targets registrant joined)

def achieve (t : SyncTable) (label : String) (h : FederateHandle) (joined : HandleSet) :
    Except RtiError (List SyncEvent × SyncTable) :=
  completed (t.tryAchieve label h joined)

def restore (t : SyncTable) (s : Snapshot) : Except RtiError SyncTable :=
  (completed (t.tryRestore s)).map Prod.snd

end SyncTable

end HlaCoordination
