import HlaCoordination.Federation

/-!
The federations of one authority, by name. Federation handles are never reused: a federation that is
destroyed does not give its handle back. An operation that fails says so beside the registry as it
is left.
-/

namespace HlaCoordination

abbrev FederationMap := Std.ExtTreeMap String Federation

structure Registry where
  policy : ResignPolicy := .prune
  counter : HandleCounter := {}
  federations : FederationMap := ∅
  deriving DecidableEq

namespace Registry

def create (r : Registry) (name : String) (schema : SchemaRef) (version : HlaVersion) :
    Except RtiError Federation × Registry :=
  if r.federations.contains name then (.error (.federationAlreadyExists name), r)
  else
    let (word, counter) := r.counter.next
    let r := { r with counter }
    let federation : Federation := { name, handle := ⟨word⟩, schema, version, policy := r.policy }
    (.ok federation, { r with federations := r.federations.insert name federation })

def lookup (r : Registry) (name : String) : Except RtiError Federation :=
  match r.federations[name]? with
  | some f => .ok f
  | none => .error (.federationDoesNotExist name)

def lookupHandle (r : Registry) (h : FederationHandle) : Except RtiError Federation :=
  match r.federations.values.find? fun f => f.handle == h with
  | some f => .ok f
  | none => .error (.internal (.unknownFederationHandle h))

def summaries (r : Registry) : List FederationSummary :=
  (r.federations.values.map Federation.summary).mergeSort fun a b =>
    a.handle.value ≤ b.handle.value

def put (r : Registry) (f : Federation) : Registry :=
  { r with federations := r.federations.insert f.name f }

/-- A federation that does not retire stays in the registry. -/
def destroy (r : Registry) (name : String) : Except RtiError Unit × Registry :=
  match r.lookup name with
  | .error e => (.error e, r)
  | .ok f =>
    match f.retire with
    | (.error e, f) => (.error e, r.put f)
    | (.ok (), _) => (.ok (), { r with federations := r.federations.erase name })

def withFederation (r : Registry) (name : String)
    (work : Federation → Except RtiError Unit × Federation) : Except RtiError Unit × Registry :=
  match r.lookup name with
  | .error e => (.error e, r)
  | .ok f =>
    let (done, f) := work f
    (done, r.put f)

def restore (r : Registry) (name : String) (s : Snapshot) : Except RtiError Unit × Registry :=
  r.withFederation name (·.restore s)

def finishRestore (r : Registry) (name : String) : Except RtiError Unit × Registry :=
  r.withFederation name fun f => (.ok (), f.finishRestore)

def size (r : Registry) : Nat := r.federations.size

def shown (r : Registry) : Shown :=
  .record "FederationRegistry"
    [("federations", .nat r.size),
      ("policy", .word (match r.policy with
        | .prune => "Prune"
        | .retain => "Retain"))] false

end Registry

end HlaCoordination
