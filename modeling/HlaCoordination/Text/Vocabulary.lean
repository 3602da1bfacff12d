import HlaCoordination.Text.Lowercase

/-!
Enumerations whose members are written as one word each. A word is read without regard to the
case of its Latin letters.
-/

namespace HlaCoordination

class Vocabulary (α : Type) where
  members : List α
  word : α → String

def Vocabulary.member? {α : Type} [Vocabulary α] (s : String) : Option α :=
  (members : List α).find? fun a => word a == s

/-- The member written like this up to the case of Latin letters. -/
def Vocabulary.read? {α : Type} [Vocabulary α] (s : String) : Option α :=
  member? (asciiLowercase s)

end HlaCoordination
