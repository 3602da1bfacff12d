/-!
What a bare word means as a value: a truth value, an integer of 64 bits, a number with a point or
an exponent, a date, a time, or both. Integers keep their value; the others are only checked.
-/

namespace HlaCoordination.Toml

inductive Value where
  | text (s : String)
  | integer (n : Int)
  | other
  deriving DecidableEq, Repr

/-- The digits of a number, without the underscores that may stand between two of them. -/
def digits? (isDigit : Char → Bool) : List Char → Option (List Char)
  | [] => none
  | [c] => if isDigit c then some [c] else none
  | c :: '_' :: rest => if isDigit c then (digits? isDigit rest).map (c :: ·) else none
  | c :: rest => if isDigit c then (digits? isDigit rest).map (c :: ·) else none

def digitValue (c : Char) : Nat :=
  if c.isDigit then c.toNat - '0'.toNat else c.toLower.toNat - 'a'.toNat + 10

def ofDigits (base : Nat) (ds : List Char) : Nat :=
  ds.foldl (fun n c => base * n + digitValue c) 0

def isDigitBelow (base : Nat) (c : Char) : Bool := c.isAlphanum && digitValue c < base

def word64? (n : Int) : Option Value :=
  if Int64.minValue.toInt ≤ n ∧ n ≤ Int64.maxValue.toInt then some (.integer n) else none

/-- Decimal digits without a needless zero in front. -/
def decimal? (cs : List Char) : Option (List Char) :=
  (digits? Char.isDigit cs).bind fun ds =>
    if 1 < ds.length && ds.head? = some '0' then none else some ds

def splitSign : List Char → Bool × List Char
  | '-' :: rest => (true, rest)
  | '+' :: rest => (false, rest)
  | cs => (false, cs)

def based? (base : Nat) (cs : List Char) : Option Value :=
  (digits? (isDigitBelow base) cs).bind fun ds => word64? (ofDigits base ds)

def integer? : List Char → Option Value
  | '0' :: 'x' :: cs => based? 16 cs
  | '0' :: 'o' :: cs => based? 8 cs
  | '0' :: 'b' :: cs => based? 2 cs
  | cs =>
    let (negative, cs) := splitSign cs
    (decimal? cs).bind fun ds =>
      let n : Int := ofDigits 10 ds
      word64? (if negative then -n else n)

/-- Whether m · 10^e is at least halfway from the largest double to the next power of two. -/
def exceedsDouble (m : Nat) (e : Int) : Bool :=
  if m = 0 then false
  else
    let magnitude := (Nat.toDigits 10 m).length + e
    if magnitude < 300 then false
    else if 320 < magnitude then true
    else
      let limit := Nat.pow 2 1024 - Nat.pow 2 970
      if 0 ≤ e then limit ≤ m * Nat.pow 10 e.toNat else limit * Nat.pow 10 (-e).toNat ≤ m

def fraction? : List Char → Option (List Char × List Char)
  | '.' :: cs =>
    let isPart := fun c : Char => c.isDigit || c = '_'
    (digits? Char.isDigit (cs.takeWhile isPart)).map (·, cs.dropWhile isPart)
  | cs => some ([], cs)

def exponent? : List Char → Option Int
  | [] => some 0
  | c :: cs =>
    if c = 'e' || c = 'E' then
      let (negative, cs) := splitSign cs
      (digits? Char.isDigit cs).map fun ds =>
        let e : Int := ofDigits 10 ds
        if negative then -e else e
    else none

/-- A number with a fraction or an exponent. No number may be too large for a double. -/
def float? (cs : List Char) : Option Value :=
  let (_, cs) := splitSign cs
  if cs = ['i', 'n', 'f'] || cs = ['n', 'a', 'n'] then some .other
  else
    let isPart := fun c : Char => c.isDigit || c = '_'
    match decimal? (cs.takeWhile isPart), cs.dropWhile isPart with
    | none, _ | _, [] => none
    | some whole, rest =>
      (fraction? rest).bind fun (places, rest) =>
        (exponent? rest).bind fun e =>
          if exceedsDouble (ofDigits 10 (whole ++ places)) (e - places.length) then none
          else some .other

def within (low high : Nat) (ds : List Char) : Bool :=
  ds.all Char.isDigit && low ≤ ofDigits 10 ds && ofDigits 10 ds ≤ high

def isLeap (year : Nat) : Bool := year % 4 = 0 && (year % 100 ≠ 0 || year % 400 = 0)

def daysIn (year month : Nat) : Nat :=
  if month = 2 then if isLeap year then 29 else 28
  else if month = 4 || month = 6 || month = 9 || month = 11 then 30
  else 31

def isDate : List Char → Bool
  | [a, b, c, d, '-', e, f, '-', g, h] =>
    [a, b, c, d].all Char.isDigit && within 1 12 [e, f]
      && within 1 (daysIn (ofDigits 10 [a, b, c, d]) (ofDigits 10 [e, f])) [g, h]
  | _ => false

def clockTime? : List Char → Option (List Char)
  | a :: b :: ':' :: c :: d :: ':' :: e :: f :: rest =>
    if within 0 23 [a, b] && within 0 59 [c, d] && within 0 60 [e, f] then
      match rest with
      | '.' :: places =>
        if places.head?.any Char.isDigit then some (places.dropWhile Char.isDigit) else none
      | _ => some rest
    else none
  | _ => none

def isOffset : List Char → Bool
  | [] | ['Z'] | ['z'] => true
  | [s, a, b, ':', c, d] => (s = '+' || s = '-') && within 0 23 [a, b] && within 0 59 [c, d]
  | _ => false

/-- Only a time with a date may have an offset. -/
def isMoment (cs : List Char) : Bool :=
  isDate cs || clockTime? cs = some []
    || match cs.drop 10 with
      | c :: time =>
        isDate (cs.take 10) && (c = 'T' || c = 't' || c = ' ')
          && ((clockTime? time).map isOffset).getD false
      | [] => false

def scalar? (w : List Char) : Option Value :=
  if w = "true".toList || w = "false".toList || isMoment w then some .other
  else (integer? w).or (float? w)

end HlaCoordination.Toml
