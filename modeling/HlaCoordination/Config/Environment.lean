import HlaCoordination.Config.Inline
import HlaCoordination.Text.Parts

/-!
Settings in environment variables. A field's variable is its name after `RTI_`, in any case. A
point or two underscores in the name lead to a part of the field, and no field has parts. Of
several variables for one field the last by name counts.
-/

namespace HlaCoordination

namespace Environment

def withPoints : List Char → List Char
  | '_' :: '_' :: rest => '.' :: withPoints rest
  | c :: rest => c :: withPoints rest
  | [] => []

/-- The field that a variable is about and the parts it leads to. Blanks around the name do not
count, and a name with an empty part is about nothing. -/
def path? (name : String) : Option (List String) :=
  let cs := (trimBlanks name).toList
  if (cs.take 4).map Char.toLower = "rti_".toList then
    let path := trimBlanks (.ofList (withPoints (cs.drop 4)))
    let parts := partsBetween '.' path.toList
    if parts.contains [] then none else some (parts.map fun part => asciiLowercase (.ofList part))
  else none

def setting? (f : Config.Field) (name value : String) : Option Setting :=
  match path? name with
  | some (field :: parts) =>
    if field = Vocabulary.word f then
      some (if parts = [] then Inline.setting value else .other)
    else none
  | _ => none

def layer (environment : List (String × String)) : Layer := fun f =>
  (environment.mergeSort fun a b => b.1 ≤ a.1).findSome? fun v => setting? f v.1 v.2

def configPath? (environment : List (String × String)) : Option String :=
  environment.lookup "RTI_CONFIG_PATH"

end Environment

end HlaCoordination
