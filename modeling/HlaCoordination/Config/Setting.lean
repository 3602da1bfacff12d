import HlaCoordination.Config

/-!
Settings before they are a configuration. A source of settings is a layer: it gives some fields a
value. Layers are stacked, the upper one wins field by field, and only the winning values have to
be of the right kind.
-/

namespace HlaCoordination

inductive Config.Field where
  | connection
  | logFilter
  | logFormat
  | requestTimeoutMs
  | noticeQueueCapacity
  | resignPolicy
  deriving DecidableEq, Repr

instance : Vocabulary Config.Field where
  members := [.connection, .logFilter, .logFormat, .requestTimeoutMs, .noticeQueueCapacity,
    .resignPolicy]
  word
    | .connection => "connection"
    | .logFilter => "log_filter"
    | .logFormat => "log_format"
    | .requestTimeoutMs => "request_timeout_ms"
    | .noticeQueueCapacity => "notice_queue_capacity"
    | .resignPolicy => "resign_policy"

/-- The value of a setting. No field takes a value of another kind than text or natural number. -/
inductive Setting where
  | text (s : String)
  | number (n : Nat)
  | other
  deriving DecidableEq, Repr

namespace Setting

def text? : Setting → Option String
  | .text s => some s
  | .number _ | .other => none

def word? {α : Type} [Vocabulary α] (s : Setting) : Option α := s.text?.bind Vocabulary.member?

def word64? : Setting → Option UInt64
  | .number n => if n < UInt64.size then some n.toUInt64 else none
  | .text _ | .other => none

end Setting

def Config.setting (c : Config) : Config.Field → Setting
  | .connection => .text (Vocabulary.word c.connection)
  | .logFilter => .text c.logFilter
  | .logFormat => .text (Vocabulary.word c.logFormat)
  | .requestTimeoutMs => .number c.requestTimeoutMs.toNat
  | .noticeQueueCapacity => .number c.noticeQueueCapacity.toNat
  | .resignPolicy => .text (Vocabulary.word c.resignPolicy)

abbrev Layer := Config.Field → Option Setting

namespace Layer

def empty : Layer := fun _ => none

def above (upper lower : Layer) : Layer := fun f => (upper f).or (lower f)

def set (l : Layer) (f : Config.Field) (s : Setting) : Layer :=
  fun g => if g = f then some s else l g

def field? {α : Type} (l : Layer) (f : Config.Field) (read : Setting → Option α) (default : α) :
    Option α :=
  match l f with
  | some s => read s
  | none => some default

def config? (l : Layer) : Option Config := do
  let defaults : Config := {}
  return {
    connection := ← l.field? .connection Setting.word? defaults.connection
    logFilter := ← l.field? .logFilter Setting.text? defaults.logFilter
    logFormat := ← l.field? .logFormat Setting.word? defaults.logFormat
    requestTimeoutMs := ← l.field? .requestTimeoutMs Setting.word64? defaults.requestTimeoutMs
    noticeQueueCapacity :=
      ← l.field? .noticeQueueCapacity Setting.word64? defaults.noticeQueueCapacity
    resignPolicy := ← l.field? .resignPolicy Setting.word? defaults.resignPolicy }

end Layer

end HlaCoordination
