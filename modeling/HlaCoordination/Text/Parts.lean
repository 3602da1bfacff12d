/-!
Text taken apart at the occurrences of one character.
-/

namespace HlaCoordination

/-- The parts of a text between the marks, of which there is one more than of marks. -/
def partsBetween (mark : Char) (cs : List Char) : List (List Char) :=
  match cs with
  | [] => [[]]
  | c :: rest =>
    match partsBetween mark rest with
    | part :: parts => if c = mark then [] :: part :: parts else (c :: part) :: parts
    | [] => [[c]]

end HlaCoordination
