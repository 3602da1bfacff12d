import HlaCoordination.Message

/-!
JSON values and the compact text written for them, as octets. A value also holds what a reader may
have to skip: a number that is not a plain natural number is `number none`, and a string whose
octets or escapes name no text is `string none`. Both have a written form, so every value does.
-/

namespace HlaCoordination

inductive Json where
  | null
  | bool (b : Bool)
  | number (n : Option Nat)
  | string (s : Option String)
  | array (items : List Json)
  | object (members : List (Option String × Json))
  deriving Inhabited

def octets (s : String) : Octets := s.toUTF8.data.toList

def text? (bs : Octets) : Option String := String.fromUTF8? ⟨bs.toArray⟩

namespace Json

def hexDigit (n : Nat) : UInt8 := (if n < 10 then '0'.toNat + n else 'a'.toNat + (n - 10)).toUInt8

/-- Quotes, backslashes and controls are escaped, every other octet stands for itself. -/
def escapeOctet (b : UInt8) : Octets :=
  if b = '"'.toUInt8 then octets "\\\""
  else if b = '\\'.toUInt8 then octets "\\\\"
  else if b = 8 then octets "\\b"
  else if b = 12 then octets "\\f"
  else if b = '\n'.toUInt8 then octets "\\n"
  else if b = '\r'.toUInt8 then octets "\\r"
  else if b = '\t'.toUInt8 then octets "\\t"
  else if b < 32 then octets "\\u00" ++ [hexDigit (b.toNat / 16), hexDigit (b.toNat % 16)]
  else [b]

def renderText (s : String) : Octets :=
  octets "\"" ++ (octets s).flatMap escapeOctet ++ octets "\""

def renderString : Option String → Octets
  | some s => renderText s
  | none => octets "\"\\ud800\""

def renderNumber : Option Nat → Octets
  | some n => (Nat.toDigits 10 n).map fun c => c.toUInt8
  | none => octets "-1"

mutual

def render : Json → Octets
  | .null => octets "null"
  | .bool b => octets (if b then "true" else "false")
  | .number n => renderNumber n
  | .string s => renderString s
  | .array items => octets "[" ++ renderItems items ++ octets "]"
  | .object members => octets "\x7b" ++ renderMembers members ++ octets "\x7d"

def renderItems : List Json → Octets
  | [] => []
  | [item] => item.render
  | item :: rest => item.render ++ octets "," ++ renderItems rest

def renderMembers : List (Option String × Json) → Octets
  | [] => []
  | [(key, value)] => renderString key ++ octets ":" ++ value.render
  | (key, value) :: rest =>
    renderString key ++ octets ":" ++ value.render ++ octets "," ++ renderMembers rest

end

def text (s : String) : Json := .string (some s)

def nat (n : Nat) : Json := .number (some n)

def record (fields : List (String × Json)) : Json :=
  .object (fields.map fun f => (some f.1, f.2))

end Json

end HlaCoordination
