/-!
The tokens of TOML text. The scanner is a machine that takes one character a step. Bare keys,
numbers, truth values and times are all words; what a word means depends on where it stands.
Comments are dropped, blanks and line ends are kept.
-/

namespace HlaCoordination.Toml

inductive Token where
  | word (w : List Char)
  /-- A string in quotes; `block` if it may hold line ends. -/
  | string (s : String) (block : Bool)
  | equals
  | comma
  | openBracket
  | closeBracket
  | openBrace
  | closeBrace
  | blank
  | newline
  deriving DecidableEq, Repr

/-- How a string is quoted. Only double quotes know escapes. -/
structure Quoting where
  quote : Char
  block : Bool
  deriving DecidableEq, Repr

/-- Where the scanner stands between characters. What has been read is kept newest first. -/
inductive Scan where
  | gap
  | word (w : List Char)
  /-- A date and one blank, which a time may follow. -/
  | dateGap (w : List Char)
  | comment
  | returned
  | opened (quote : Char)
  | openedTwice (quote : Char)
  | line (quote : Char) (cs : List Char)
  | block (quote : Char) (fresh : Bool) (quotes : Nat) (cs : List Char)
  | blockReturned (quote : Char) (fresh : Bool) (cs : List Char)
  | escape (q : Quoting) (cs : List Char)
  | hex (q : Quoting) (due : Nat) (code : Nat) (cs : List Char)
  | trim (ended : Bool) (cs : List Char)
  | trimReturned (cs : List Char)
  deriving DecidableEq, Repr

def isWordChar (c : Char) : Bool :=
  c.isAlphanum || c = '_' || c = '-' || c = '+' || c = '.' || c = ':'

def isPlain (c : Char) : Bool := c = '\t' || (0x20 ≤ c.toNat && c.toNat ≠ 0x7f)

def hasDateForm (w : List Char) : Bool :=
  match w with
  | [a, b, c, d, '-', e, f, '-', g, h] => [a, b, c, d, e, f, g, h].all Char.isDigit
  | _ => false

def text (reversed : List Char) : String := .ofList reversed.reverse

def start (c : Char) : Option (Scan × List Token) :=
  if c = ' ' || c = '\t' then some (.gap, [.blank])
  else if c = '\n' then some (.gap, [.newline])
  else if c = '\r' then some (.returned, [])
  else if c = '#' then some (.comment, [])
  else if c = '=' then some (.gap, [.equals])
  else if c = ',' then some (.gap, [.comma])
  else if c = '[' then some (.gap, [.openBracket])
  else if c = ']' then some (.gap, [.closeBracket])
  else if c = '{' then some (.gap, [.openBrace])
  else if c = '}' then some (.gap, [.closeBrace])
  else if c = '"' || c = '\'' then some (.opened c, [])
  else if isWordChar c then some (.word [c], [])
  else none

def finishWith (ts : List Token) (c : Char) : Option (Scan × List Token) :=
  (start c).map fun r => (r.1, ts ++ r.2)

def Quoting.inside (q : Quoting) (cs : List Char) : Scan :=
  if q.block then .block q.quote false 0 cs else .line q.quote cs

def lineStep (quote : Char) (cs : List Char) (c : Char) : Option (Scan × List Token) :=
  if c = quote then some (.gap, [.string (text cs) false])
  else if c = '\\' && quote = '"' then some (.escape ⟨quote, false⟩ cs, [])
  else if isPlain c then some (.line quote (c :: cs), [])
  else none

/-- Up to two quotes are part of the string, and so are those before the last three of a run. A line
end right after the opening quotes is not. -/
def blockStep (quote : Char) (fresh : Bool) (quotes : Nat) (cs : List Char) (c : Char) :
    Option (Scan × List Token) :=
  if c = quote then if quotes < 5 then some (.block quote false (quotes + 1) cs, []) else none
  else if 3 ≤ quotes then
    finishWith [.string (text (List.replicate (quotes - 3) quote ++ cs)) true] c
  else
    let cs := List.replicate quotes quote ++ cs
    if c = '\n' then some (.block quote false 0 (if fresh then cs else '\n' :: cs), [])
    else if c = '\r' then some (.blockReturned quote fresh cs, [])
    else if c = '\\' && quote = '"' then some (.escape ⟨quote, true⟩ cs, [])
    else if isPlain c then some (.block quote false 0 (c :: cs), [])
    else none

def escaped? (c : Char) : Option Char :=
  if c = 'b' then some '\x08'
  else if c = 't' then some '\t'
  else if c = 'n' then some '\n'
  else if c = 'f' then some '\x0c'
  else if c = 'r' then some '\r'
  else if c = '"' || c = '\\' then some c
  else none

/-- An escaped line end takes all blanks and line ends after it along. -/
def escapeStep (q : Quoting) (cs : List Char) (c : Char) : Option Scan :=
  if c = 'u' then some (.hex q 4 0 cs)
  else if c = 'U' then some (.hex q 8 0 cs)
  else match escaped? c with
    | some e => some (q.inside (e :: cs))
    | none =>
      if !q.block then none
      else if c = ' ' || c = '\t' then some (.trim false cs)
      else if c = '\n' then some (.trim true cs)
      else if c = '\r' then some (.trimReturned cs)
      else none

def hexValue? (c : Char) : Option Nat :=
  if c.isDigit then some (c.toNat - '0'.toNat)
  else if 'a' ≤ c && c ≤ 'f' then some (c.toNat - 'a'.toNat + 10)
  else if 'A' ≤ c && c ≤ 'F' then some (c.toNat - 'A'.toNat + 10)
  else none

def hexStep (q : Quoting) (due code : Nat) (cs : List Char) (c : Char) : Option Scan :=
  (hexValue? c).bind fun d =>
    let code := 16 * code + d
    if 1 < due then some (.hex q (due - 1) code cs)
    else if code.isValidChar then some (q.inside (.ofNat code :: cs))
    else none

def trimStep (ended : Bool) (cs : List Char) (c : Char) : Option (Scan × List Token) :=
  if c = ' ' || c = '\t' then some (.trim ended cs, [])
  else if c = '\n' then some (.trim true cs, [])
  else if c = '\r' then some (.trimReturned cs, [])
  else if ended then blockStep '"' false 0 cs c
  else none

def Scan.step (s : Scan) (c : Char) : Option (Scan × List Token) :=
  match s with
  | .gap => start c
  | .word w =>
    if isWordChar c then some (.word (c :: w), [])
    else if c = ' ' && hasDateForm w.reverse then some (.dateGap w, [])
    else finishWith [.word w.reverse] c
  | .dateGap w =>
    if c.isDigit then some (.word (c :: ' ' :: w), [])
    else finishWith [.word w.reverse, .blank] c
  | .comment =>
    if c = '\n' then some (.gap, [.newline])
    else if c = '\r' then some (.returned, [])
    else if isPlain c then some (.comment, [])
    else none
  | .returned => if c = '\n' then some (.gap, [.newline]) else none
  | .opened quote => if c = quote then some (.openedTwice quote, []) else lineStep quote [] c
  | .openedTwice quote =>
    if c = quote then some (.block quote true 0 [], []) else finishWith [.string "" false] c
  | .line quote cs => lineStep quote cs c
  | .block quote fresh quotes cs => blockStep quote fresh quotes cs c
  | .blockReturned quote fresh cs => if c = '\n' then blockStep quote fresh 0 cs c else none
  | .escape q cs => (escapeStep q cs c).map (·, [])
  | .hex q due code cs => (hexStep q due code cs c).map (·, [])
  | .trim ended cs => trimStep ended cs c
  | .trimReturned cs => if c = '\n' then some (.trim true cs, []) else none

def Scan.finish : Scan → Option (List Token)
  | .gap | .comment => some []
  | .word w | .dateGap w => some [.word w.reverse]
  | .openedTwice _ => some [.string "" false]
  | .block quote _ quotes cs =>
    if 3 ≤ quotes then some [.string (text (List.replicate (quotes - 3) quote ++ cs)) true]
    else none
  | _ => none

def scan (s : Scan) : List Char → Option (List Token)
  | [] => s.finish
  | c :: rest => (s.step c).bind fun r => (scan r.1 rest).map (r.2 ++ ·)

/-- The tokens of a text, which may begin with a byte order mark. -/
def tokens? (s : String) : Option (List Token) :=
  match s.toList with
  | '\ufeff' :: rest => scan .gap rest
  | cs => scan .gap cs

end HlaCoordination.Toml
