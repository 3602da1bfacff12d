import HlaCoordination.Text.Lowercase
import HlaCoordination.Text.Parts

/-!
Log filters: directives separated by commas. A directive is a level, a target, or a target with the
level it is logged at.
-/

namespace HlaCoordination.LogFilter

def levels : List String :=
  ["trace", "debug", "info", "warn", "error", "off", "0", "1", "2", "3", "4", "5"]

/-- What stands after an equals sign has to be a level. Directives about spans are let through. -/
def isDirective (cs : List Char) : Bool :=
  cs.contains '[' || match cs.dropWhile (· ≠ '=') with
    | [] => true
    | _ :: level => level = [] || levels.contains (asciiLowercase (.ofList level))

def isValid (filter : String) : Bool := (partsBetween ',' filter.toList).all isDirective

end HlaCoordination.LogFilter
