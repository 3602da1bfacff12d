/-!
Natural numbers in decimal digits.
-/

namespace HlaCoordination

/-- A natural number in decimal digits, below the bound, with or without a plus sign. -/
def readDecimal? (bound : Nat) (cs : List Char) : Option Nat :=
  let digits := match cs with
    | '+' :: rest => rest
    | _ => cs
  if digits ≠ [] ∧ digits.all Char.isDigit then
    let n := digits.foldl (fun n c => 10 * n + (c.toNat - '0'.toNat)) 0
    if n < bound then some n else none
  else none

end HlaCoordination
