import HlaCoordination.Text.LowercaseTable

/-!
Names are compared without regard to case: each character is replaced by its lower-case mapping,
which may have several characters, and the results are compared as sequences.
-/

namespace HlaCoordination

def lowercase (c : Char) : List Char :=
  if c = 'İ' then ['i', '\u0307']
  else match lowercaseRuns.find? (·.covers c.toNat) with
    | some r => [Char.ofNat (c.toNat + r.shift).toNat]
    | none => [c]

/-- The lower-case form of a name, character by character. -/
def foldCase (name : String) : List Char := name.toList.flatMap lowercase

def namesCollide (a b : String) : Bool := foldCase a == foldCase b

def asciiLowercase (s : String) : String := String.ofList (s.toList.map Char.toLower)

theorem namesCollide_iff {a b : String} : namesCollide a b ↔ foldCase a = foldCase b := by
  simp [namesCollide]

end HlaCoordination
