import HlaCoordination.Federation
import HlaCoordination.Sink

/-!
How a federation answers the four requests addressed to it. The desk holds the federation and the
deliveries that the request has caused so far.
-/

namespace HlaCoordination

structure FederationDesk where
  federation : Federation
  deliveries : List Delivery := []

namespace FederationDesk

def refuse {σ : Type} (handler : String) (c : MessageContext) (state : σ) : Conduct × σ :=
  (.fail (.internal (.cannotProcess handler c.messageType)), state)

def acknowledge (d : FederationDesk) :
    Except RtiError (List Delivery) × Federation → Conduct × FederationDesk
  | (.ok deliveries, federation) => (.succeed .empty, ⟨federation, deliveries⟩)
  | (.error e, federation) => (.fail e, { d with federation })

def joinFederation : Handler FederationDesk where
  name := "join-federation"
  process c d :=
    match c.message.request with
    | .joinFederation _ federate =>
      if federate = "" then (.fail (.internal .emptyFederateName), d)
      else match d.federation.join federate c.message.origin with
        | (.ok (handle, owed), federation) =>
          (.succeed (.joined handle federation.handle), ⟨federation, owed⟩)
        | (.error e, federation) => (.fail e, { d with federation })
    | _ => refuse "join-federation" c d

def resignFederation : Handler FederationDesk where
  name := "resign-federation"
  process c d :=
    match c.message.request with
    | .resignFederation _ federate =>
      let (deliveries, federation) := d.federation.resign federate
      d.acknowledge (.ok deliveries, federation)
    | _ => refuse "resign-federation" c d

/-- Synchronization requests speak for the federate in the header. -/
def withSource (c : MessageContext) (d : FederationDesk)
    (act : FederateHandle → Conduct × FederationDesk) : Conduct × FederationDesk :=
  match c.message.source with
  | some h => act h
  | none => (.fail (.internal (.noSourceFederate c.messageType)), d)

def registerSyncPoint : Handler FederationDesk where
  name := "register-sync-point"
  process c d :=
    withSource c d fun h =>
      match c.message.request with
      | .registerSyncPoint label tag targets =>
        d.acknowledge (d.federation.registerSyncPoint h label tag targets)
      | _ => refuse "register-sync-point" c d

def achieveSyncPoint : Handler FederationDesk where
  name := "achieve-sync-point"
  process c d :=
    withSource c d fun h =>
      match c.message.request with
      | .achieveSyncPoint label => d.acknowledge (d.federation.achieveSyncPoint h label)
      | _ => refuse "achieve-sync-point" c d

def incoming : Sink FederationDesk where
  name := "federation-incoming"
  handler?
    | .joinFederation => some joinFederation
    | .resignFederation => some resignFederation
    | .registerSyncPoint => some registerSyncPoint
    | .achieveSyncPoint => some achieveSyncPoint
    | .createFederation | .destroyFederation | .listFederations | .ping => none

end FederationDesk

end HlaCoordination
