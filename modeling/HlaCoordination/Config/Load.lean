import HlaCoordination.Config.Arguments
import HlaCoordination.Config.Environment
import HlaCoordination.Toml.Reader

/-!
Loading a configuration: the command line over the environment, over a file, over the defaults.
The command line names the file, or else the environment does. The file of the command line has to
be there; that of the environment need not.
-/

namespace HlaCoordination

namespace Toml

def Node.setting : Node → Setting
  | .value (.text s) => .text s
  | .value (.integer n) => if 0 ≤ n then .number n.toNat else .other
  | .value .other | .table .. | .tables _ => .other

def Document.layer (d : Document) : Layer := fun f =>
  (d.lookup? (Vocabulary.word f)).map Node.setting

/-- A file has to be complete by itself. -/
def layer? (content : String) : Option Layer :=
  (parse? content).bind fun d =>
    if (d.lookup? "extends").isSome then none else some d.layer

end Toml

structure Sources where
  arguments : List String
  environment : List (String × String) := []
  file? : String → Option String := fun _ => none

namespace Sources

/-- The content of the configuration file if there is one, and nothing if a file that has to be
there is not. -/
def content? (s : Sources) (a : Arguments) : Option (Option String) :=
  match a.configPath with
  | some path => (s.file? path).map some
  | none => some ((Environment.configPath? s.environment).bind s.file?)

def fileLayer? : Option String → Option Layer
  | some content => Toml.layer? content
  | none => some .empty

def load? (s : Sources) : Option Config := do
  let a ← Arguments.read? s.arguments
  let file ← fileLayer? (← s.content? a)
  (a.effectiveLayer.above ((Environment.layer s.environment).above file)).config?

end Sources

end HlaCoordination
