import HlaCoordination.SyncPoint.Table
import HlaCoordination.Text.Lowercase

/-!
A federation: the federates that are joined, by handle, and their synchronization points. Each
operation answers with deliveries, one for each event, addressed to the sessions of those
recipients that are joined afterwards, in the order of their handles. An operation that fails says
so beside the federation as it is left.
-/

namespace HlaCoordination

structure Federate where
  name : String
  handle : FederateHandle
  session : Option SessionId
  deriving DecidableEq

structure Delivery where
  notice : Notice
  sessions : List SessionId
  deriving DecidableEq

abbrev FederateTable := Std.ExtTreeMap FederateHandle Federate

structure Federation where
  name : String
  handle : FederationHandle
  schema : SchemaRef
  version : HlaVersion
  policy : ResignPolicy
  counter : HandleCounter := {}
  federates : FederateTable := ∅
  sync : SyncTable := {}
  destroyed : Bool := false
  deriving DecidableEq

namespace Federation

def joined (f : Federation) : HandleSet := HandleSet.ofList f.federates.keys

def sessionsOf (federates : FederateTable) (recipients : HandleSet) : List SessionId :=
  recipients.toList.filterMap fun h => federates[h]?.bind Federate.session

def delivery (f : Federation) : SyncEvent → Delivery
  | .announced label tag recipients =>
    ⟨.announced f.handle label tag, sessionsOf f.federates recipients⟩
  | .synchronized label recipients =>
    ⟨.synchronized f.handle label, sessionsOf f.federates recipients⟩

def deliveries (f : Federation) (events : List SyncEvent) : List Delivery := events.map f.delivery

def nameInUse (f : Federation) (name : String) : Bool :=
  f.federates.values.any fun federate => namesCollide federate.name name

def join (f : Federation) (name : String) (session : Option SessionId) :
    Except RtiError (FederateHandle × List Delivery) × Federation :=
  if f.destroyed then (.error (.federationDoesNotExist f.name), f)
  else if f.nameInUse name then (.error (.federateNameInUse name f.name), f)
  else
    let (word, counter) := f.counter.next
    let f := { f with counter }
    let handle : FederateHandle := ⟨word⟩
    let f := { f with federates := f.federates.insert handle ⟨name, handle, session⟩ }
    (.ok (handle, f.deliveries (f.sync.announcementsForJoiner handle)), f)

/-- The resignation of a federate that is not joined is no error and changes nothing. -/
def resign (f : Federation) (h : FederateHandle) : List Delivery × Federation :=
  if f.federates.contains h then
    let f' := { f with federates := f.federates.erase h }
    let (events, sync) := f.sync.resigned h f'.joined f.policy
    (f'.deliveries events, { f' with sync })
  else ([], f)

def requireMember (f : Federation) (h : FederateHandle) : Except RtiError Unit :=
  if f.federates.contains h then .ok () else .error (.federateNotJoined h f.name)

def workOnPoints (f : Federation) (h : FederateHandle)
    (work : SyncTable → Except RtiError (List SyncEvent) × SyncTable) :
    Except RtiError (List Delivery) × Federation :=
  match f.requireMember h with
  | .error e => (.error e, f)
  | .ok () =>
    let (done, sync) := work f.sync
    let f := { f with sync }
    (done.map f.deliveries, f)

def registerSyncPoint (f : Federation) (registrant : FederateHandle) (label : String)
    (tag : Octets) (targets : HandleSet) : Except RtiError (List Delivery) × Federation :=
  f.workOnPoints registrant fun sync => sync.tryRegister label tag targets registrant f.joined

def achieveSyncPoint (f : Federation) (federate : FederateHandle) (label : String) :
    Except RtiError (List Delivery) × Federation :=
  f.workOnPoints federate fun sync => sync.tryAchieve label federate f.joined

def restore (f : Federation) (s : Snapshot) : Except RtiError Unit × Federation :=
  let (done, sync) := f.sync.tryRestore s
  (done, { f with sync })

def finishRestore (f : Federation) : Federation := { f with sync := f.sync.finishRestore }

def isOccupied (f : Federation) : Bool := !f.federates.isEmpty

def summary (f : Federation) : FederationSummary :=
  ⟨f.name, f.handle, f.federates.size.toUInt64, f.version⟩

def sessionsExcept (f : Federation) (sender : Option FederateHandle) : List SessionId :=
  (f.federates.values.filter fun federate => some federate.handle != sender).filterMap
    Federate.session

/-- Only a federation without federates retires. -/
def retire (f : Federation) : Except RtiError Unit × Federation :=
  if f.isOccupied then (.error (.federatesCurrentlyJoined f.name), f)
  else (.ok (), { f with destroyed := true })

def shown (f : Federation) : Shown :=
  .record "Federation"
    [("name", .quoted f.name), ("handle", f.handle.shown), ("version", f.version.shown)] false

end Federation

end HlaCoordination
