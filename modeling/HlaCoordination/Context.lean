import HlaCoordination.Error

/-!
A control message together with its response. A response is given once: the first resolution
stays, later ones are ignored. `Conduct` is what one handler or connection did with a message:
the resolutions it made, in order, and how it returned.
-/

namespace HlaCoordination

abbrev Resolution := Except RtiError Payload

inductive Response where
  | pending
  | success (payload : Payload)
  | failure (error : RtiError)
  deriving DecidableEq, Repr

namespace Response

def ofResolution : Resolution → Response
  | .ok payload => .success payload
  | .error error => .failure error

/-- Only a pending response changes. -/
def resolve (r : Response) (resolution : Resolution) : Response :=
  match r with
  | .pending => ofResolution resolution
  | .success _ | .failure _ => r

def resolveAll (r : Response) (resolutions : List Resolution) : Response :=
  resolutions.foldl resolve r

def resolution? : Response → Option Resolution
  | .pending => none
  | .success payload => some (.ok payload)
  | .failure error => some (.error error)

def isResolved (r : Response) : Bool := r.resolution?.isSome

def error? : Response → Option RtiError
  | .failure error => some error
  | .pending | .success _ => none

def shown : Response → Shown
  | .pending => .word "Pending"
  | .success payload => .tuple "Success" [payload.shown]
  | .failure error => .tuple "Error" [error.shown]

end Response

structure MessageContext where
  message : ControlMessage
  response : Response := .pending
  deriving DecidableEq

namespace MessageContext

def messageType (c : MessageContext) : MessageType := c.message.messageType

def resolve (c : MessageContext) (resolution : Resolution) : MessageContext :=
  { c with response := c.response.resolve resolution }

def result (c : MessageContext) : Except RtiError Payload :=
  match c.response with
  | .pending => .error (.internal (.neverResolved c.messageType))
  | .success payload => .ok payload
  | .failure error => .error error

end MessageContext

structure Conduct where
  resolutions : List Resolution := []
  outcome : Except RtiError Unit := .ok ()

namespace Conduct

def succeed (payload : Payload) : Conduct := ⟨[.ok payload], .ok ()⟩

def fail (error : RtiError) : Conduct := ⟨[], .error error⟩

def responseFrom (c : Conduct) (arrived : Response) : Response := arrived.resolveAll c.resolutions

end Conduct

end HlaCoordination
