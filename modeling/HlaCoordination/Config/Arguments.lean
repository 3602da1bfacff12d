import HlaCoordination.Config.Setting
import HlaCoordination.Text.Decimal

/-!
Settings on the command line. A field has a long flag, its name with hyphens, and a short flag of
one letter; the flag `--config-path` names a configuration file. A value follows its flag, or an
equals sign in the same argument, or directly a short flag. Each flag comes at most once, and
anything but flags is refused.
-/

namespace HlaCoordination

/-- The setting that a flag's value gives to a field. Words are read without regard to case. -/
def Config.Field.setting? (f : Config.Field) (value : String) : Option Setting :=
  match f with
  | .connection =>
    (Vocabulary.read? value : Option ConnectionType).map fun c => .text (Vocabulary.word c)
  | .logFilter => some (.text value)
  | .logFormat => (Vocabulary.read? value : Option LogFormat).map fun c => .text (Vocabulary.word c)
  | .requestTimeoutMs | .noticeQueueCapacity =>
    (readDecimal? UInt64.size value.toList).map .number
  | .resignPolicy =>
    (Vocabulary.read? value : Option ResignPolicy).map fun c => .text (Vocabulary.word c)

def Config.Field.longName (f : Config.Field) : List Char :=
  (Vocabulary.word f).toList.map fun c => if c = '_' then '-' else c

/-- The field's first letter, as a capital if an earlier field has it. -/
def Config.Field.letter : Config.Field → Char
  | .connection => 'c'
  | .logFilter => 'l'
  | .logFormat => 'L'
  | .requestTimeoutMs => 'r'
  | .noticeQueueCapacity => 'n'
  | .resignPolicy => 'R'

inductive Flag where
  | field (f : Config.Field)
  | configPath
  deriving DecidableEq, Repr

namespace Flag

def ofName? (name : List Char) : Option Flag :=
  if name = "config-path".toList then some .configPath
  else ((Vocabulary.members : List Config.Field).find? fun f => f.longName = name).map .field

def ofLetter? (c : Char) : Option Flag :=
  ((Vocabulary.members : List Config.Field).find? fun f => f.letter = c).map .field

def ofArgument? (argument : String) : Option (Flag × Option String) :=
  match argument.toList with
  | '-' :: '-' :: body =>
    let value? := match body.dropWhile (· ≠ '=') with
      | _ :: value => some (.ofList value)
      | [] => none
    (ofName? (body.takeWhile (· ≠ '='))).map (·, value?)
  | '-' :: letter :: body =>
    let value? := match body with
      | [] => none
      | '=' :: value | value => some (.ofList value)
    (ofLetter? letter).map (·, value?)
  | _ => none

end Flag

structure Arguments where
  layer : Layer := .empty
  configPath : Option String := none

namespace Arguments

/-- Only a lone hyphen may begin with a hyphen and be the next argument's value. -/
def isValue (argument : String) : Bool :=
  argument = "-" || argument.toList.head? ≠ some '-'

def give (a : Arguments) (flag : Flag) (value : String) : Option Arguments :=
  match flag with
  | .configPath =>
    match a.configPath with
    | none => some { a with configPath := some value }
    | some _ => none
  | .field f =>
    match a.layer f with
    | some _ => none
    | none => (f.setting? value).map fun s => { a with layer := a.layer.set f s }

/-- Takes the arguments one by one. Nothing may follow a bare `--`. -/
def readOn (a : Arguments) : List String → Option Arguments
  | [] => some a
  | [argument] =>
    if argument = "--" then some a
    else match Flag.ofArgument? argument with
      | some (flag, some value) => a.give flag value
      | _ => none
  | argument :: next :: rest =>
    if argument = "--" then none
    else match Flag.ofArgument? argument with
      | some (flag, some value) => (a.give flag value).bind (·.readOn (next :: rest))
      | some (flag, none) =>
        if isValue next then (a.give flag next).bind (·.readOn rest) else none
      | none => none

def read? (arguments : List String) : Option Arguments := ({} : Arguments).readOn arguments

/-- Whether all that is said is every field's default. -/
def restatesDefaults (a : Arguments) : Bool :=
  let defaults : Config := {}
  a.configPath.isNone &&
    (Vocabulary.members : List Config.Field).all fun f => a.layer f = some (defaults.setting f)

/-- The settings that count. Arguments that only restate the defaults say nothing. -/
def effectiveLayer (a : Arguments) : Layer := if a.restatesDefaults then .empty else a.layer

end Arguments

end HlaCoordination
