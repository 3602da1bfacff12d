import HlaCoordination.Context

/-!
A table of handlers, at most one for each message type. A handler works on a message context and
on a state of its own kind; the sink makes the handler's resolutions, turns an error it returns
into the response if none was given, and answers for a handler that gave none at all.
-/

namespace HlaCoordination

structure Handler (σ : Type) where
  name : String
  process : MessageContext → σ → Conduct × σ

/-- A handler still to be wired to what it shares with the others of its sink. -/
structure Wiring (κ σ : Type) where
  name : String
  configure : κ → Except RtiError Unit
  process : κ → MessageContext → σ → Conduct × σ

def Wiring.connect {κ σ : Type} (w : Wiring κ σ) (shared : κ) : Except RtiError (Handler σ) :=
  match w.configure shared with
  | .ok () => .ok ⟨w.name, w.process shared⟩
  | .error e => .error e

inductive Dispatch where
  | handled
  | unhandled
  deriving DecidableEq, Repr

structure Sink (σ : Type) where
  name : String
  handler? : MessageType → Option (Handler σ)

namespace Sink

variable {κ σ : Type}

def empty (name : String) : Sink σ := ⟨name, fun _ => none⟩

def handles (s : Sink σ) (t : MessageType) : Bool := (s.handler? t).isSome

def insert (s : Sink σ) (t : MessageType) (h : Handler σ) : Sink σ :=
  { s with handler? := fun u => if u = t then some h else s.handler? u }

/-- Refuses a second handler for a type before it wires the handler. -/
def register (s : Sink σ) (t : MessageType) (w : Wiring κ σ) (shared : κ) :
    Except RtiError (Sink σ) :=
  if s.handles t then .error (.internal (.duplicateHandler s.name t))
  else match w.connect shared with
    | .ok h => .ok (s.insert t h)
    | .error e => .error e

def registerAll (s : Sink σ) (shared : κ) :
    List (MessageType × Wiring κ σ) → Except RtiError (Sink σ)
  | [] => .ok s
  | (t, w) :: rest =>
    match s.register t w shared with
    | .ok s' => s'.registerAll shared rest
    | .error e => .error e

def ofTable (name : String) (table : List (MessageType × Wiring κ σ)) (shared : κ) :
    Except RtiError (Sink σ) :=
  (empty name).registerAll shared table

/-- The response after a handler's conduct: the one that arrived, the handler's first resolution,
the error it returned, or a complaint that it gave no answer. -/
def settle (h : Handler σ) (t : MessageType) (arrived : Response) (c : Conduct) : Response :=
  (c.responseFrom arrived).resolve <| .error <| match c.outcome with
    | .ok () => .internal (.leftUnresolved h.name t)
    | .error e => e

def process (s : Sink σ) (c : MessageContext) (state : σ) : Dispatch × MessageContext × σ :=
  match s.handler? c.messageType with
  | none => (.unhandled, c, state)
  | some h =>
    let (conduct, state') := h.process c state
    (.handled, { c with response := settle h c.messageType c.response conduct }, state')

def shown (s : Sink σ) : Shown :=
  .record "MessageSink"
    [("name", .quoted s.name),
      ("handlers", .items (((Vocabulary.members : List MessageType).filter s.handles).map
        fun t => .quoted t.word))] true

end Sink

end HlaCoordination
