import HlaCoordination.Text.UnprintableTable

/-!
How values are shown to a developer: a name with its parts in parentheses, or with its fields in
braces, text in quotes. A record that keeps some fields to itself ends in two dots. Quoted text
escapes the quote, the backslash, the usual controls and every unprintable character.
-/

namespace HlaCoordination

inductive Shown where
  | word (text : String)
  | quoted (text : String)
  | items (parts : List Shown)
  | tuple (name : String) (parts : List Shown)
  | record (name : String) (fields : List (String × Shown)) (complete : Bool)

def quoteChar (c : Char) : String :=
  if c = '\x00' then "\\0"
  else if c = '\t' then "\\t"
  else if c = '\n' then "\\n"
  else if c = '\r' then "\\r"
  else if c = '"' then "\\\""
  else if c = '\\' then "\\\\"
  else if c.toNat < 0x7f && 0x20 ≤ c.toNat then c.toString
  else if isUnprintable c then "\\u\x7b" ++ String.ofList (Nat.toDigits 16 c.toNat) ++ "\x7d"
  else c.toString

def quote (s : String) : String := "\"" ++ String.join (s.toList.map quoteChar) ++ "\""

mutual

def Shown.render : Shown → String
  | .word text => text
  | .quoted text => quote text
  | .items parts => "[" ++ renderParts parts ++ "]"
  | .tuple name parts => name ++ "(" ++ renderParts parts ++ ")"
  | .record name fields complete =>
    name ++ " \x7b " ++ renderFields fields ++ (if complete then " \x7d" else ", .. \x7d")

def renderParts : List Shown → String
  | [] => ""
  | [part] => part.render
  | part :: rest => part.render ++ ", " ++ renderParts rest

def renderFields : List (String × Shown) → String
  | [] => ""
  | [(field, value)] => field ++ ": " ++ value.render
  | (field, value) :: rest => field ++ ": " ++ value.render ++ ", " ++ renderFields rest

end

def Shown.nat (n : Nat) : Shown := .word (toString n)

def Shown.bool (b : Bool) : Shown := .word (if b then "true" else "false")

def Shown.option (o : Option Shown) : Shown :=
  match o with
  | none => .word "None"
  | some s => .tuple "Some" [s]

def thousandths (n : Nat) : String :=
  if n = 0 then ""
  else
    let digits := (Nat.toDigits 10 (1000 + n)).drop 1
    "." ++ String.ofList (digits.reverse.dropWhile (· == '0')).reverse

/-- A length of time given in milliseconds, in the largest unit it reaches. -/
def Shown.milliseconds (ms : Nat) : Shown :=
  .word (if ms = 0 then "0ns"
    else if ms < 1000 then toString ms ++ "ms"
    else toString (ms / 1000) ++ thousandths (ms % 1000) ++ "s")

end HlaCoordination
