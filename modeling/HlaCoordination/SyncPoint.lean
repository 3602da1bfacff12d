import HlaCoordination.Error

/-!
Synchronization points. A point is announced to its members, every member achieves it, and once
all have it is synchronized. A federation-wide point follows whoever is joined; a restricted one
names its members, and a resignation drops the federate from them under the pruning policy.
-/

namespace HlaCoordination

inductive SyncScope where
  | federationWide
  | restricted (targets : HandleSet)
  deriving DecidableEq

namespace SyncScope

/-- No named target means everybody. -/
def ofTargets (targets : HandleSet) : SyncScope :=
  if targets.isEmpty then .federationWide else .restricted targets

def isFederationWide : SyncScope → Bool
  | .federationWide => true
  | .restricted _ => false

def includes (s : SyncScope) (h : FederateHandle) : Bool :=
  match s with
  | .federationWide => true
  | .restricted targets => targets.contains h

/-- Who has to achieve the point while these federates are joined. -/
def members (s : SyncScope) (joined : HandleSet) : HandleSet :=
  match s with
  | .federationWide => joined
  | .restricted targets => targets

def hasNoTargets : SyncScope → Bool
  | .federationWide => false
  | .restricted targets => targets.isEmpty

def prune (s : SyncScope) (h : FederateHandle) : SyncScope :=
  match s with
  | .federationWide => .federationWide
  | .restricted targets => .restricted (targets.erase h)

end SyncScope

inductive SyncStatus where
  | announced
  | synchronized
  deriving DecidableEq, Repr

instance : Vocabulary SyncStatus where
  members := [.announced, .synchronized]
  word
    | .announced => "announced"
    | .synchronized => "synchronized"

def SyncStatus.label : SyncStatus → String
  | .announced => "ANNOUNCED"
  | .synchronized => "SYNCHRONIZED"

structure SyncPoint where
  label : String
  tag : Octets
  scope : SyncScope
  status : SyncStatus := .announced
  registrant : FederateHandle
  achieved : HandleSet := ∅
  deriving DecidableEq

namespace SyncPoint

def isSynchronized (p : SyncPoint) : Bool := p.status == .synchronized

def achieve (p : SyncPoint) (h : FederateHandle) : SyncPoint :=
  { p with achieved := p.achieved.insert h }

/-- An open point is complete once it has members and all of them have achieved it. -/
def isComplete (p : SyncPoint) (joined : HandleSet) : Bool :=
  !p.isSynchronized && !(p.scope.members joined).isEmpty
    && (p.scope.members joined).isSubset p.achieved

def synchronize (p : SyncPoint) : SyncPoint := { p with status := .synchronized }

def advance (p : SyncPoint) (joined : HandleSet) : SyncPoint :=
  if p.isComplete joined then p.synchronize else p

def forget (p : SyncPoint) (h : FederateHandle) (policy : ResignPolicy) : SyncPoint :=
  { p with
    achieved := p.achieved.erase h
    scope := match policy with
      | .prune => p.scope.prune h
      | .retain => p.scope }

end SyncPoint

end HlaCoordination
