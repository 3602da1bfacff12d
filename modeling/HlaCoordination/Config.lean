import HlaCoordination.Text.Vocabulary

/-!
Settings shared by the authority and the sessions. `Config.fault?` names the first setting that
loads but cannot drive a federation: a zero timeout before a zero queue capacity.
-/

namespace HlaCoordination

inductive ConnectionType where
  | jvm
  | tcp
  | udp
  | multicast
  deriving DecidableEq, Repr

inductive LogFormat where
  | json
  | compact
  deriving DecidableEq, Repr

/-- What a resignation does to restricted synchronization points: `prune` drops the federate from
their target sets, `retain` keeps it there. -/
inductive ResignPolicy where
  | prune
  | retain
  deriving DecidableEq, Repr

instance : Vocabulary ConnectionType where
  members := [.jvm, .tcp, .udp, .multicast]
  word
    | .jvm => "jvm"
    | .tcp => "tcp"
    | .udp => "udp"
    | .multicast => "multicast"

instance : Vocabulary LogFormat where
  members := [.json, .compact]
  word
    | .json => "json"
    | .compact => "compact"

instance : Vocabulary ResignPolicy where
  members := [.prune, .retain]
  word
    | .prune => "prune"
    | .retain => "retain"

/-- Only the in-process binding carries messages. -/
def ConnectionType.isSupported (c : ConnectionType) : Bool := c == .jvm

structure Config where
  connection : ConnectionType := .jvm
  logFilter : String := "info"
  logFormat : LogFormat := .json
  requestTimeoutMs : UInt64 := 5000
  noticeQueueCapacity : UInt64 := 1024
  resignPolicy : ResignPolicy := .prune
  deriving DecidableEq, Repr

inductive ConfigFault where
  | zeroTimeout
  | zeroQueueCapacity
  deriving DecidableEq, Repr

def ConfigFault.message : ConfigFault → String
  | .zeroTimeout => "request timeout must be greater than zero"
  | .zeroQueueCapacity => "notice queue capacity must be greater than zero"

def Config.fault? (c : Config) : Option ConfigFault :=
  if c.requestTimeoutMs = 0 then some .zeroTimeout
  else if c.noticeQueueCapacity = 0 then some .zeroQueueCapacity
  else none

/-- What another component says of its failure, where its words are known. -/
def inWords : Option String → String
  | some words => ": " ++ words
  | none => ""

structure LoadError where
  words : Option String := none
  deriving DecidableEq, Repr

/-- A search for a configuration that does not say what went wrong. -/
def Config.loaded (found : Option Config) : Except LoadError Config := found.elim (.error {}) .ok

def Config.timeoutSeconds (c : Config) : Nat := c.requestTimeoutMs.toNat / 1000

def Config.timeoutMillisPart (c : Config) : Nat := c.requestTimeoutMs.toNat % 1000

end HlaCoordination
