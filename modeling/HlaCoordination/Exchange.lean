import HlaCoordination.Error

/-!
The meeting point of one authority and many sessions. Every session that attaches gets a fresh id
and a bounded mailbox of notices. A mailbox outlives its attachment: the session can still empty
it, but nothing more is put in. A notice that finds a mailbox full is lost and disturbs no other.
-/

namespace HlaCoordination

structure Mailbox where
  capacity : Nat
  notices : List Notice := []
  deriving DecidableEq

namespace Mailbox

def hasRoom (m : Mailbox) : Bool := m.notices.length < m.capacity

def offer (m : Mailbox) (n : Notice) : Mailbox :=
  if m.hasRoom then { m with notices := m.notices ++ [n] } else m

def next (m : Mailbox) : Option Notice × Mailbox :=
  match m.notices with
  | [] => (none, m)
  | n :: rest => (some n, { m with notices := rest })

end Mailbox

/-- Authority connections are numbered by whoever keeps them. -/
abbrev EndpointId := Nat

structure Attachment where
  name : String
  endpoint : EndpointId
  deriving DecidableEq

structure Exchange where
  authority : Option Attachment := none
  attached : Std.ExtTreeSet SessionId := ∅
  mailboxes : Std.ExtTreeMap SessionId Mailbox := ∅
  counter : SessionCounter := {}
  deriving DecidableEq

namespace Exchange

def hasAuthority (x : Exchange) : Bool := x.authority.isSome

def sessionCount (x : Exchange) : Nat := x.attached.size

def mailbox (x : Exchange) (id : SessionId) : Mailbox := x.mailboxes.getD id { capacity := 0 }

def attachAuthority (x : Exchange) (newcomer : Attachment) : Except RtiError Exchange :=
  match x.authority with
  | some present => .error (.internal (.authorityPresent present.name newcomer.name))
  | none => .ok { x with authority := some newcomer }

def deliverTo (x : Exchange) (n : Notice) (id : SessionId) : Bool × Exchange :=
  if x.attached.contains id && (x.mailbox id).hasRoom then
    (true, { x with mailboxes := x.mailboxes.insert id ((x.mailbox id).offer n) })
  else (false, x)

/-- Offers a notice to each recipient in turn and counts the mailboxes that took it. -/
def deliver (x : Exchange) (n : Notice) : List SessionId → Nat × Exchange
  | [] => (0, x)
  | id :: rest =>
    let (taken, x') := x.deliverTo n id
    let (count, x'') := x'.deliver n rest
    ((if taken then 1 else 0) + count, x'')

/-- The authority leaves: every attached session is told and detached. -/
def detachAuthority (x : Exchange) (reason : String) : Exchange :=
  if x.hasAuthority then
    { (x.deliver (.disconnected reason) x.attached.toList).2 with authority := none, attached := ∅ }
  else x

def attachSession (x : Exchange) (capacity : Nat) : Except RtiError (SessionId × Exchange) :=
  if x.hasAuthority then
    let (id, counter) := x.counter.next
    .ok (id, { x with
      counter
      attached := x.attached.insert id
      mailboxes := x.mailboxes.insert id { capacity } })
  else .error (.internal .noAuthorityForSession)

def detachSession (x : Exchange) (id : SessionId) : Exchange :=
  { x with attached := x.attached.erase id }

def take (x : Exchange) (id : SessionId) : Option Notice × Exchange :=
  match (x.mailbox id).next with
  | (none, _) => (none, x)
  | (some n, m) => (some n, { x with mailboxes := x.mailboxes.insert id m })

def keep (x : Exchange) (id : SessionId) (notices : List Notice) : Exchange :=
  { x with mailboxes := x.mailboxes.insert id { x.mailbox id with notices } }

def shown (x : Exchange) : Shown :=
  .record "Exchange"
    [("has_authority", .bool x.hasAuthority), ("sessions", .nat x.sessionCount)] false

end Exchange

end HlaCoordination
