import HlaCoordination.Network

/-!
Running an authority. `startAuthority` opens a registry and an endpoint and connects them, or
leaves the network as it was. A daemon is an authority that was brought up in stages, of which the
first that fails decides, and that reports its health. Loading, logging and the signal that ends a
daemon are given from outside, with the words they put their failures in; what is written to a log
is left out.
-/

namespace HlaCoordination

def authorityName : String := "rti"

structure RunningAuthority where
  config : Config
  endpoint : EndpointId
  registry : RegistryId
  deriving DecidableEq

namespace Network

def startAuthority (n : Network) (config : Config) : Except RtiError (RunningAuthority × Network) :=
  match n.openEndpoint authorityName config with
  | .error e => .error e
  | .ok (endpoint, n') =>
    let (registry, n') := n'.openRegistry config.resignPolicy
    match (n'.bindInbox endpoint (.registry registry)).connectEndpoint endpoint with
    | .error e => .error e
    | .ok n' => .ok (⟨config, endpoint, registry⟩, n')

def raiseEndpoint (n : Network) (e : EndpointId) :
    Except String Unit → Except RtiError Unit × Network
  | .ok () =>
    match n.connectEndpoint e with
    | .ok n' => (.ok (), n')
    | .error error => (.error error, n)
  | .error cause =>
    let (error, n') := n.connectInVain e cause
    (.error error, n')

/-- The same as `startAuthority`, but the inbox may fail to start, and what a failure leaves behind
is there as well: an endpoint that is unbound again, and a registry that nobody uses. -/
def raiseAuthority (n : Network) (config : Config) (inbox : Except String Unit) :
    Except RtiError RunningAuthority × Network :=
  match n.openEndpoint authorityName config with
  | .error e => (.error e, n)
  | .ok (endpoint, n') =>
    let (registry, n') := n'.openRegistry config.resignPolicy
    match (n'.bindInbox endpoint (.registry registry)).raiseEndpoint endpoint inbox with
    | (.error e, n') => (.error e, n'.disconnectEndpoint endpoint)
    | (.ok (), n') => (.ok ⟨config, endpoint, registry⟩, n')

def shutdownAuthority (n : Network) (a : RunningAuthority) : Network :=
  if n.isConnected a.endpoint then n.disconnectEndpoint a.endpoint else n

def dropAuthority (n : Network) (a : RunningAuthority) : Network := n.disconnectEndpoint a.endpoint

def shownAuthority (n : Network) (a : RunningAuthority) : Shown :=
  .record "Authority"
    [("connection", .word (match a.config.connection with
        | .jvm => "Jvm"
        | .tcp => "Tcp"
        | .udp => "Udp"
        | .multicast => "Multicast")),
      ("registry", (n.registries.getD a.registry {}).shown)] false

end Network

inductive TelemetryError where
  | filter (words : Option String)
  | subscriber (words : Option String)
  deriving DecidableEq, Repr

def TelemetryError.message : TelemetryError → String
  | .filter words => "invalid log filter" ++ inWords words
  | .subscriber words => "failed to install telemetry subscriber" ++ inWords words

inductive BootstrapError where
  | configuration (error : LoadError)
  | validation (fault : ConfigFault)
  | telemetry (error : TelemetryError)
  | authority (error : RtiError)
  deriving DecidableEq, Repr

namespace BootstrapError

def stage : BootstrapError → String
  | .configuration _ => "configuration"
  | .validation _ => "validation"
  | .telemetry _ => "telemetry"
  | .authority _ => "authority"

def message : BootstrapError → String
  | .configuration error => "failed to load configuration" ++ inWords error.words
  | .validation fault => "invalid configuration: " ++ fault.message
  | .telemetry error => "failed to initialise telemetry: " ++ error.message
  | .authority error => "failed to start the authority: " ++ error.message

end BootstrapError

inductive HealthEvent where
  | bootstrapStarting
  | bootstrapSucceeded (config : Config)
  | bootstrapFailed (error : BootstrapError)
  | authorityAttached (name : String)
  | authorityDetached (name : String)
  deriving DecidableEq, Repr

structure ShutdownError where
  cause : String
  deriving DecidableEq, Repr

def ShutdownError.message (e : ShutdownError) : String :=
  "failed to install signal handlers: " ++ e.cause

structure Daemon where
  authority : RunningAuthority
  stopped : Bool := false
  deriving DecidableEq

namespace Daemon

/-- Loading gave a configuration or failed; it is then validated, logging is set up, and the
authority started. -/
def start (loaded : Except LoadError Config) (logging : Config → Except TelemetryError Unit)
    (n : Network) : Except BootstrapError (Daemon × Network) :=
  match loaded with
  | .error e => .error (.configuration e)
  | .ok config =>
    match config.fault? with
    | some fault => .error (.validation fault)
    | none =>
      match logging config with
      | .error e => .error (.telemetry e)
      | .ok () =>
        match n.startAuthority config with
        | .ok (authority, n') => .ok ({ authority }, n')
        | .error e => .error (.authority e)

def startEvents : Except BootstrapError (Daemon × Network) → List HealthEvent
  | .ok (d, _) =>
    [.bootstrapStarting, .bootstrapSucceeded d.authority.config, .authorityAttached authorityName]
  | .error e => [.bootstrapStarting, .bootstrapFailed e]

structure Startup where
  network : Network
  reports : List HealthEvent := []

def Startup.report (s : Startup) (event : HealthEvent) : Startup :=
  { s with reports := s.reports ++ [event] }

def Startup.fail (s : Startup) (e : BootstrapError) : Except BootstrapError Daemon × Startup :=
  (.error e, s.report (.bootstrapFailed e))

/-- The same as `start`, with its reports as they are made and with what a failure leaves behind. -/
def bootstrap (loaded : Except LoadError Config) (logging : Config → Except TelemetryError Unit)
    (inbox : Except String Unit) (n : Network) : Except BootstrapError Daemon × Startup :=
  let s := Startup.report { network := n } .bootstrapStarting
  match loaded with
  | .error e => s.fail (.configuration e)
  | .ok config =>
    match config.fault? with
    | some fault => s.fail (.validation fault)
    | none =>
      match logging config with
      | .error e => s.fail (.telemetry e)
      | .ok () =>
        match s.network.raiseAuthority config inbox with
        | (.error e, network) => { s with network }.fail (.authority e)
        | (.ok authority, network) =>
          (.ok { authority },
            ({ s with network }.report (.bootstrapSucceeded authority.config)).report
              (.authorityAttached authorityName))

def shutdown (d : Daemon) (n : Network) : List HealthEvent × Daemon × Network :=
  if d.stopped then ([], d, n)
  else
    ([.authorityDetached authorityName], { d with stopped := true },
      n.shutdownAuthority d.authority)

/-- Shuts down once the wait for a signal is over, however it ended. -/
def runUntil (d : Daemon) (signal : Except ShutdownError Unit) (n : Network) :
    Except ShutdownError Unit × List HealthEvent × Daemon × Network :=
  (signal, d.shutdown n)

/-- The authority goes with the daemon; only a shutdown is reported. -/
def drop (d : Daemon) (n : Network) : Network := n.dropAuthority d.authority

def shown (d : Daemon) (n : Network) : Shown :=
  .record "Daemon"
    [("authority", n.shownAuthority d.authority), ("stopped", .bool d.stopped)] false

end Daemon

end HlaCoordination
