import HlaCoordination.Deployment.Sessions

/-!
The scripted authorities of a deployment. A hub is an authority connection whose inbox follows a
script; what arrived at it is read from the script's log. A hub that is replaced stays attached.
-/

namespace HlaCoordination.Deployment

def openHub (d : Deployment) (exchange key name : String) (config : Config) :
    Except RtiError Deployment :=
  match (d.network exchange).openEndpoint name config with
  | .error e => .error e
  | .ok (endpoint, n) =>
    .ok { d.setNetwork exchange n with hubs := d.hubs.insert key { exchange, endpoint, name } }

def onHub? {α : Type} (d : Deployment) (key : String) (act : Network → Hub → α × Network) :
    Option (α × Deployment) :=
  d.hubs[key]?.map fun h =>
    let (answer, n) := act (d.network h.exchange) h
    (answer, d.setNetwork h.exchange n)

def bindScript? (d : Deployment) (key : String) (script : ScriptedInbox) : Option Deployment :=
  d.hubs[key]?.map fun h =>
    let (id, n) := (d.network h.exchange).openScript { script with gateOpen := h.gateOpen }
    { d.setNetwork h.exchange (n.bindInbox h.endpoint (.script id)) with
      hubs := d.hubs.insert key { h with scripts := id :: h.scripts } }

def connectHub? (d : Deployment) (key : String) : Option (Except RtiError Unit × Deployment) :=
  d.onHub? key fun n h => settled n (n.connectEndpoint h.endpoint)

def disconnectHub? (d : Deployment) (key : String) : Option Deployment :=
  (d.onHub? key fun n h => ((), n.disconnectEndpoint h.endpoint)).map Prod.snd

def hubBroadcast? (d : Deployment) (key : String) (b : Broadcast) :
    Option (Except RtiError Unit × Deployment) :=
  d.onHub? key fun n _ => settled n (n.authorityBroadcast b)

/-- An authority connection answers requests and has no notices of its own. -/
def hubRequest : Except RtiError Unit := .error (.internal .authorityRequests)

def hubNotices : Except RtiError Unit := .error (.internal .authorityNotices)

structure HubState where
  name : String
  connected : Bool
  attached : Bool
  deriving DecidableEq, Repr

def hubState? (d : Deployment) (key : String) : Option HubState :=
  d.hubs[key]?.map fun h =>
    ⟨h.name, (d.network h.exchange).isConnected h.endpoint,
      (d.network h.exchange).exchange.hasAuthority⟩

def hubLog? (d : Deployment) (key : String) : Option (List Inbound) :=
  d.hubs[key]?.map fun h =>
    ((h.scripts.head?.bind ((d.network h.exchange).scripts[·]?)).map ScriptedInbox.log).getD []

def openGate? (d : Deployment) (key : String) : Option Deployment :=
  d.hubs[key]?.map fun h =>
    { d.setNetwork h.exchange (h.scripts.foldl Network.openGate (d.network h.exchange)) with
      hubs := d.hubs.insert key { h with gateOpen := true } }

/-- A session pings, and the hub leaves while the ping waits for its answer. -/
def cut? (d : Deployment) (key session : String) : Option (Except RtiError Reply × Deployment) :=
  (d.onSession? session (fun n k p => n.performWith Network.severedTransport k p .ping)
    (·.perform .ping)).bind fun (ping, d) =>
      (d.disconnectHub? key).map fun d => (ping, d)

end HlaCoordination.Deployment
