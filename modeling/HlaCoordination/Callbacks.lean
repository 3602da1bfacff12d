import HlaCoordination.Message

/-!
How a session's notices reach its user: by polling, or pushed by a dispatcher to a listener. A
dispatcher takes every notice there is, in order. It rests for good when its listener fails, and
stays installed; a listener may also ask to go back to polling. While a dispatcher is installed,
polling yields nothing.
-/

namespace HlaCoordination

/-- Whoever receives pushed notices, with what it has received. It may fail at its `failsAt`-th
notice, after receiving it, or ask for polling. A dispatcher that is asked to stop from inside a
push may take some notices yet; `stopsAt` counts up to the last of them. It says when the dispatcher
stops, which may be later than the listener asked. -/
structure Listener where
  received : List Notice := []
  stopsAt : Option Nat := none
  failsAt : Option Nat := none
  deriving DecidableEq

inductive Dispatcher where
  | running
  | failed
  deriving DecidableEq, Repr

structure Callbacks where
  listener : Listener := {}
  dispatcher : Option Dispatcher := none
  deriving DecidableEq

namespace Callbacks

def isImmediate (c : Callbacks) : Bool := c.dispatcher.isSome

def enable (_ : Callbacks) (l : Listener) : Callbacks := ⟨l, some .running⟩

def disable (c : Callbacks) : Callbacks := { c with dispatcher := none }

def push (c : Callbacks) (n : Notice) : Callbacks :=
  let received := c.listener.received ++ [n]
  { listener := { c.listener with received }
    dispatcher :=
      if c.listener.failsAt = some received.length then some .failed
      else if c.listener.stopsAt = some received.length then none
      else c.dispatcher }

/-- Pushes queued notices as long as the dispatcher runs; gives back those it leaves. -/
def dispatch (c : Callbacks) : List Notice → Callbacks × List Notice
  | [] => (c, [])
  | n :: rest =>
    match c.dispatcher with
    | some .running => (c.push n).dispatch rest
    | _ => (c, n :: rest)

end Callbacks

end HlaCoordination
