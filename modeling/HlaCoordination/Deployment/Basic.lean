import HlaCoordination.Daemon

/-!
A deployment: several networks, and everything that runs in them, by name. What is put under a
name that is taken replaces the old holder, which leaves only after the new one is there. After
every step each dispatcher has taken what is queued for it.
-/

namespace HlaCoordination

inductive Running where
  | authority (a : RunningAuthority)
  | daemon (d : Daemon)
  deriving DecidableEq

def Running.core : Running → RunningAuthority
  | .authority a => a
  | .daemon d => d.authority

structure Host where
  exchange : String
  running : Running
  deriving DecidableEq

/-- Where a registry is kept. A registry outlives its authority. -/
structure Archive where
  exchange : String
  registry : RegistryId
  deriving DecidableEq

/-- An authority connection with the scripts its inboxes have followed, the newest first. They share
one gate. -/
structure Hub where
  exchange : String
  endpoint : EndpointId
  name : String
  scripts : List ScriptId := []
  gateOpen : Bool := false
  deriving DecidableEq

inductive Seating where
  | networked (exchange : String) (participant : ParticipantId)
  | scripted (session : ScriptedSession)

structure Deployment where
  networks : Std.ExtTreeMap String Network := ∅
  hosts : Std.ExtTreeMap String Host := ∅
  archives : Std.ExtTreeMap String Archive := ∅
  hubs : Std.ExtTreeMap String Hub := ∅
  sessions : Std.ExtTreeMap String Seating := ∅
  snapshots : Std.ExtTreeMap String Snapshot := ∅
  events : List HealthEvent := []

namespace Deployment

def network (d : Deployment) (exchange : String) : Network := d.networks.getD exchange {}

def setNetwork (d : Deployment) (exchange : String) (n : Network) : Deployment :=
  { d with networks := d.networks.insert exchange n.settle }

def report (d : Deployment) (events : List HealthEvent) : Deployment :=
  { d with events := d.events ++ events }

def takeEvents (d : Deployment) : List HealthEvent × Deployment :=
  (d.events, { d with events := [] })

/-! Authorities -/

def release (d : Deployment) (h : Host) : Deployment :=
  d.setNetwork h.exchange ((d.network h.exchange).dropAuthority h.running.core)

def releaseAll (d : Deployment) (hs : Option Host) : Deployment :=
  match hs with
  | some h => d.release h
  | none => d

def install (d : Deployment) (name : String) (h : Host) : Deployment :=
  { d with
    hosts := d.hosts.insert name h
    archives := d.archives.insert name ⟨h.exchange, h.running.core.registry⟩ }.releaseAll
      d.hosts[name]?

def start (d : Deployment) (exchange name : String) (config : Config) :
    Except RtiError Deployment :=
  match (d.network exchange).startAuthority config with
  | .error e => .error e
  | .ok (a, n) => .ok ((d.setNetwork exchange n).install name ⟨exchange, .authority a⟩)

def boot (d : Deployment) (exchange name : String) (loaded : Option Config) :
    Except BootstrapError Config × Deployment :=
  let started := Daemon.start (Config.loaded loaded) (fun _ => .ok ()) (d.network exchange)
  let d := d.report (Daemon.startEvents started)
  match started with
  | .error e => (.error e, d)
  | .ok (daemon, n) =>
    (.ok daemon.authority.config,
      (d.setNetwork exchange n).install name ⟨exchange, .daemon daemon⟩)

def authority? (d : Deployment) (name : String) : Option RunningAuthority :=
  d.hosts[name]?.map (·.running.core)

def stop? (d : Deployment) (name : String) : Option Deployment :=
  d.hosts[name]?.map fun h =>
    d.setNetwork h.exchange ((d.network h.exchange).shutdownAuthority h.running.core)

def dropHost? (d : Deployment) (name : String) : Option Deployment :=
  d.hosts[name]?.map fun h => { d with hosts := d.hosts.erase name }.release h

def daemon? (d : Deployment) (name : String) : Option (String × Daemon) :=
  match d.hosts[name]? with
  | some ⟨exchange, .daemon daemon⟩ => some (exchange, daemon)
  | _ => none

def runDaemon? (d : Deployment) (name : String) (signal : Except ShutdownError Unit) :
    Option (Except ShutdownError Unit × Deployment) :=
  (d.daemon? name).map fun (exchange, daemon) =>
    let (ended, events, daemon, n) := daemon.runUntil signal (d.network exchange)
    (ended,
      { d with hosts := d.hosts.insert name ⟨exchange, .daemon daemon⟩ }.setNetwork exchange n
        |>.report events)

def shutdownDaemon? (d : Deployment) (name : String) : Option Deployment :=
  (d.runDaemon? name (.ok ())).map Prod.snd

/-! Registries -/

def openRegistry (d : Deployment) (exchange name : String) (policy : ResignPolicy) : Deployment :=
  let (id, n) := (d.network exchange).openRegistry policy
  { d.setNetwork exchange n with archives := d.archives.insert name ⟨exchange, id⟩ }

def registry? (d : Deployment) (name : String) : Option Registry :=
  d.archives[name]?.bind fun a => (d.network a.exchange).registries[a.registry]?

def onRegistry? {α : Type} (d : Deployment) (name : String)
    (act : Registry → Except RtiError α × Registry) : Option (Except RtiError α × Deployment) :=
  d.archives[name]?.bind fun a =>
    (d.network a.exchange).registries[a.registry]?.map fun r =>
      let (answer, r) := act r
      (answer, d.setNetwork a.exchange ((d.network a.exchange).setRegistry a.registry r))

def createFederation? (d : Deployment) (registry name : String) (schema : SchemaRef)
    (version : HlaVersion) : Option (Except RtiError FederationHandle × Deployment) :=
  d.onRegistry? registry fun r =>
    let (made, r) := r.create name schema version
    (made.map Federation.handle, r)

def destroyFederation? (d : Deployment) (registry name : String) :
    Option (Except RtiError Unit × Deployment) :=
  d.onRegistry? registry (·.destroy name)

def federation? (d : Deployment) (registry name : String) : Option (Except RtiError Federation) :=
  (d.registry? registry).map (·.lookup name)

def save? (d : Deployment) (registry federation keptAs : String) :
    Option (Except RtiError Snapshot × Deployment) :=
  (d.federation? registry federation).map fun
    | .error e => (.error e, d)
    | .ok f =>
      (.ok f.sync.snapshot, { d with snapshots := d.snapshots.insert keptAs f.sync.snapshot })

def saved (d : Deployment) (name : String) : Snapshot := d.snapshots.getD name []

def restore? (d : Deployment) (registry federation : String) (s : Snapshot) :
    Option (Except RtiError Unit × Deployment) :=
  d.onRegistry? registry (·.restore federation s)

def finishRestore? (d : Deployment) (registry federation : String) :
    Option (Except RtiError Unit × Deployment) :=
  d.onRegistry? registry (·.finishRestore federation)

end Deployment

end HlaCoordination
