import HlaCoordination.Config.Setting
import HlaCoordination.Text.Blank
import HlaCoordination.Text.Decimal
import HlaCoordination.Toml.Token

/-!
Values written as the text of an environment variable. A value is read as what it looks like: a
truth value, a number, a list in brackets, a table in braces, text in double quotes or a character
in single quotes. A text with commas that begins like none of these is a list, and any other text
stands for itself, without the blanks at its ends.
-/

namespace HlaCoordination.Inline

def isGap (c : Char) : Bool := c = ' ' || c = '\t' || c = '\n' || c = '\x0c' || c = '\r'

def skipGap (cs : List Char) : List Char := cs.dropWhile isGap

def isMark (c : Char) : Bool := [',', '[', ']', '{', '}'].contains c

def isKeyChar (c : Char) : Bool := c.isAlphanum || c = '_' || c = '-'

/-! Words and numbers -/

/-- What follows a word at the beginning of a text, up to the case of Latin letters. -/
def afterWord? (word cs : List Char) : Option (List Char) :=
  if (cs.take word.length).map Char.toLower = word then some (cs.drop word.length) else none

def afterTruth? (cs : List Char) : Option (List Char) :=
  (afterWord? "true".toList cs).or (afterWord? "false".toList cs)

def isExponent : List Char → Bool
  | [] => true
  | c :: cs =>
    let digits := match cs with
      | '+' :: rest | '-' :: rest => rest
      | _ => cs
    (c = 'e' || c = 'E') && digits ≠ [] && digits.all Char.isDigit

/-- Digits with one point among them, with or without a sign and an exponent. -/
def isFraction (cs : List Char) : Bool :=
  let unsigned := match cs with
    | '+' :: rest | '-' :: rest => rest
    | _ => cs
  let whole := unsigned.takeWhile Char.isDigit
  match unsigned.dropWhile Char.isDigit with
  | '.' :: rest =>
    (whole ≠ [] || rest.takeWhile Char.isDigit ≠ []) && isExponent (rest.dropWhile Char.isDigit)
  | _ => false

def negative? : List Char → Option Nat
  | '-' :: '+' :: _ => none
  | '-' :: rest => readDecimal? (UInt64.size / 2 + 1) rest
  | _ => none

/-- Plain text is a number if it looks like one. -/
def plain (cs : List Char) : Setting :=
  let text := trimBlanks (.ofList cs)
  let word := text.toList
  if isFraction word then .other
  else match readDecimal? UInt64.size word, negative? word with
    | some n, _ => .number n
    | none, some 0 => .number 0
    | none, some _ => .other
    | none, none => .text text

/-! Quoted text -/

def splitQuoted? : List Char → Option (List Char × List Char)
  | [] => none
  | '"' :: rest => some ([], rest)
  | '\\' :: c :: rest => (splitQuoted? rest).map fun r => ('\\' :: c :: r.1, r.2)
  | c :: rest => (splitQuoted? rest).map fun r => (c :: r.1, r.2)

def numbered? (digits : List Char) : Option Char :=
  (digits.mapM Toml.hexValue?).bind fun ds =>
    let code := ds.foldl (fun n d => 16 * n + d) 0
    if code.isValidChar then some (.ofNat code) else none

def replaceEscapes? : List Char → Option (List Char)
  | [] => some []
  | '\\' :: 'u' :: a :: b :: c :: d :: rest => do
    return (← numbered? [a, b, c, d]) :: (← replaceEscapes? rest)
  | '\\' :: 'U' :: a :: b :: c :: d :: e :: f :: g :: h :: rest => do
    return (← numbered? [a, b, c, d, e, f, g, h]) :: (← replaceEscapes? rest)
  | '\\' :: c :: rest => do return (← Toml.escaped? c) :: (← replaceEscapes? rest)
  | c :: rest =>
    if c ≠ '\\' && Toml.isPlain c then (replaceEscapes? rest).map (c :: ·) else none

def fitting (room : Nat) : List Char → List Char
  | [] => []
  | c :: rest => if c.utf8Size ≤ room then c :: fitting (room - c.utf8Size) rest else []

/-- The text between two quotes. If there is an escape in it, then of the text before the first one
only as many octets are kept as there are characters. -/
def unquote? (cs : List Char) : Option (List Char) :=
  let before := cs.takeWhile (· ≠ '\\')
  match cs.dropWhile (· ≠ '\\') with
  | [] => replaceEscapes? before
  | escaped => do
    let _ ← replaceEscapes? before
    return fitting before.length before ++ (← replaceEscapes? escaped)

def quoted? (cs : List Char) : Option (String × List Char) :=
  (splitQuoted? cs).bind fun r => (unquote? r.1).map fun text => (.ofList text, r.2)

/-! Values -/

def afterKey? (cs : List Char) : Option (List Char) :=
  let rest? := match skipGap cs with
    | '"' :: rest => (quoted? rest).map Prod.snd
    | cs => if cs.takeWhile isKeyChar = [] then none else some (cs.dropWhile isKeyChar)
  match rest?.map skipGap with
  | some ('=' :: rest) => some rest
  | _ => none

mutual

/-- The value at the beginning of a text, and what follows it. Values are nested less deep than
`depth`. -/
def value? (depth : Nat) (cs : List Char) : Option (Setting × List Char) :=
  match depth with
  | 0 => none
  | depth + 1 =>
    let cs := skipGap cs
    let found : Option (Setting × List Char) := match afterTruth? cs, cs with
      | some rest, _ => some (.other, rest)
      | none, '{' :: rest => (members? depth rest).map (.other, ·)
      | none, '[' :: rest => (elements? depth rest).map (.other, ·)
      | none, '"' :: rest => (quoted? rest).map fun r => (.text r.1, r.2)
      | none, '\'' :: c :: '\'' :: rest => some (.text (.ofList [c]), rest)
      | none, '\'' :: _ => none
      | none, cs => some (plain (cs.takeWhile (!isMark ·)), cs.dropWhile (!isMark ·))
    found.map fun r => (r.1, skipGap r.2)

/-- What follows a list whose next element is due. The last one may have a comma after it. -/
def elements? (depth : Nat) (cs : List Char) : Option (List Char) :=
  match depth, cs with
  | 0, _ => none
  | _ + 1, ']' :: rest => some rest
  | depth + 1, cs =>
    match value? depth cs with
    | some (_, ',' :: rest) => elements? depth rest
    | some (_, ']' :: rest) => some rest
    | _ => none

def members? (depth : Nat) (cs : List Char) : Option (List Char) :=
  match depth, cs with
  | 0, _ => none
  | _ + 1, '}' :: rest => some rest
  | depth + 1, cs =>
    match (afterKey? cs).bind (value? depth) with
    | some (_, ',' :: rest) => members? depth rest
    | some (_, '}' :: rest) => some rest
    | _ => none

end

def isListed (cs : List Char) : Bool :=
  cs.contains ',' && !(cs.head?.map ['[', '{', '"', '\''].contains).getD false

/-- The setting that a text gives. Each bracket and each comma in it costs at most two steps. -/
def setting (value : String) : Setting :=
  let text := trimBlanks value
  let cs := text.toList
  if isListed cs then .other
  else match value? (2 * cs.length + 2) cs with
    | some (s, []) => s
    | _ => .text text

end HlaCoordination.Inline
