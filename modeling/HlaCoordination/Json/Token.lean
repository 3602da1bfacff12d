import HlaCoordination.Json

/-!
The tokens of JSON text. The scanner is a machine that takes one octet a step: it knows what part
of a token it stands in, and gives out a token when the token is complete. A number is complete
only when the octet after it is seen.
-/

namespace HlaCoordination.Json

inductive Token where
  | openArray
  | closeArray
  | openObject
  | closeObject
  | comma
  | colon
  | null
  | bool (b : Bool)
  | number (n : Option Nat)
  | string (s : Option String)
  deriving DecidableEq, Repr

/-- A part of a string: an octet of the text, or a 16-bit code unit written as an escape. -/
inductive Piece where
  | octet (b : UInt8)
  | codeUnit (u : Nat)
  deriving DecidableEq, Repr

def isLead (u : Nat) : Bool := 0xd800 ≤ u && u < 0xdc00

def isTrail (u : Nat) : Bool := 0xdc00 ≤ u && u < 0xe000

def encodeCode (code : Nat) : Octets := String.utf8EncodeChar (Char.ofNat code)

/-- A code unit of a surrogate pair counts only together with its partner. -/
def joinPieces : List Piece → Option Octets
  | [] => some []
  | .octet b :: rest => (joinPieces rest).map (b :: ·)
  | .codeUnit u :: rest =>
    if isLead u then
      match rest with
      | .codeUnit v :: rest' =>
        if isTrail v then
          (joinPieces rest').map (encodeCode (0x10000 + (u - 0xd800) * 0x400 + (v - 0xdc00)) ++ ·)
        else none
      | _ => none
    else if isTrail u then none
    else (joinPieces rest).map (encodeCode u ++ ·)

def decodePieces (pieces : List Piece) : Option String := (joinPieces pieces).bind text?

/-- Where the scanner stands between octets. Pieces are kept newest first. -/
inductive Scan where
  | gap
  | word (due : Octets) (token : Token)
  | minus
  | zero (negative : Bool)
  | digits (negative : Bool) (value : Nat)
  | point
  | fraction
  | mark
  | sign
  | exponent
  | text (pieces : List Piece)
  | escape (pieces : List Piece)
  | hex (pieces : List Piece) (due : Nat) (value : Nat)
  deriving DecidableEq, Repr

def digit? (b : UInt8) : Option Nat :=
  if '0'.toUInt8 ≤ b && b ≤ '9'.toUInt8 then some (b.toNat - '0'.toNat) else none

def hexDigit? (b : UInt8) : Option Nat :=
  if '0'.toUInt8 ≤ b && b ≤ '9'.toUInt8 then some (b.toNat - '0'.toNat)
  else if 'a'.toUInt8 ≤ b && b ≤ 'f'.toUInt8 then some (b.toNat - 'a'.toNat + 10)
  else if 'A'.toUInt8 ≤ b && b ≤ 'F'.toUInt8 then some (b.toNat - 'A'.toNat + 10)
  else none

def isBlank (b : UInt8) : Bool :=
  b == ' '.toUInt8 || b == '\t'.toUInt8 || b == '\n'.toUInt8 || b == '\r'.toUInt8

def isExponentMark (b : UInt8) : Bool := b == 'e'.toUInt8 || b == 'E'.toUInt8

def firstDigit (negative : Bool) (b : UInt8) : Option Scan :=
  (digit? b).map fun d => if d = 0 then .zero negative else .digits negative d

def start (b : UInt8) : Option (Scan × List Token) :=
  if isBlank b then some (.gap, [])
  else if b = '['.toUInt8 then some (.gap, [.openArray])
  else if b = ']'.toUInt8 then some (.gap, [.closeArray])
  else if b = '{'.toUInt8 then some (.gap, [.openObject])
  else if b = '}'.toUInt8 then some (.gap, [.closeObject])
  else if b = ','.toUInt8 then some (.gap, [.comma])
  else if b = ':'.toUInt8 then some (.gap, [.colon])
  else if b = '"'.toUInt8 then some (.text [], [])
  else if b = 'n'.toUInt8 then some (.word (octets "ull") .null, [])
  else if b = 't'.toUInt8 then some (.word (octets "rue") (.bool true), [])
  else if b = 'f'.toUInt8 then some (.word (octets "alse") (.bool false), [])
  else if b = '-'.toUInt8 then some (.minus, [])
  else (firstDigit false b).map (·, [])

/-- The number that is complete here, if one is. Only a plain natural number has a value. -/
def Scan.number? : Scan → Option Token
  | .zero negative => some (.number (if negative then none else some 0))
  | .digits negative value => some (.number (if negative then none else some value))
  | .fraction | .exponent => some (.number none)
  | _ => none

def Scan.continueNumber (s : Scan) (b : UInt8) : Option Scan :=
  match s with
  | .zero _ =>
    if b = '.'.toUInt8 then some .point else if isExponentMark b then some .mark else none
  | .digits negative value =>
    match digit? b with
    | some d => some (.digits negative (10 * value + d))
    | none =>
      if b = '.'.toUInt8 then some .point else if isExponentMark b then some .mark else none
  | .fraction =>
    if (digit? b).isSome then some .fraction
    else if isExponentMark b then some .mark
    else none
  | .exponent => if (digit? b).isSome then some .exponent else none
  | _ => none

def escaped? (b : UInt8) : Option UInt8 :=
  if b = '"'.toUInt8 || b = '\\'.toUInt8 || b = '/'.toUInt8 then some b
  else if b = 'b'.toUInt8 then some 8
  else if b = 'f'.toUInt8 then some 12
  else if b = 'n'.toUInt8 then some 10
  else if b = 'r'.toUInt8 then some 13
  else if b = 't'.toUInt8 then some 9
  else none

/-- A digit may not follow a leading zero. -/
def Scan.endNumber (s : Scan) (b : UInt8) : Option (Scan × List Token) :=
  match s, digit? b with
  | .zero _, some _ => none
  | _, _ => s.number?.bind fun t => (start b).map fun r => (r.1, t :: r.2)

def Scan.step (s : Scan) (b : UInt8) : Option (Scan × List Token) :=
  match s with
  | .gap => start b
  | .word [] _ => none
  | .word (c :: due) token =>
    if b = c then some (if due.isEmpty then (.gap, [token]) else (.word due token, []))
    else none
  | .minus => (firstDigit true b).map (·, [])
  | .point => (digit? b).map fun _ => (.fraction, [])
  | .mark =>
    if b = '+'.toUInt8 || b = '-'.toUInt8 then some (.sign, [])
    else (digit? b).map fun _ => (.exponent, [])
  | .sign => (digit? b).map fun _ => (.exponent, [])
  | .text pieces =>
    if b = '"'.toUInt8 then some (.gap, [.string (decodePieces pieces.reverse)])
    else if b = '\\'.toUInt8 then some (.escape pieces, [])
    else if b < 32 then none
    else some (.text (.octet b :: pieces), [])
  | .escape pieces =>
    if b = 'u'.toUInt8 then some (.hex pieces 4 0, [])
    else (escaped? b).map fun c => (.text (.octet c :: pieces), [])
  | .hex pieces due value =>
    (hexDigit? b).map fun d =>
      if due ≤ 1 then (.text (.codeUnit (16 * value + d) :: pieces), [])
      else (.hex pieces (due - 1) (16 * value + d), [])
  | .zero _ | .digits .. | .fraction | .exponent =>
    match s.continueNumber b with
    | some s' => some (s', [])
    | none => s.endNumber b

def Scan.finish (s : Scan) : Option (List Token) :=
  match s with
  | .gap => some []
  | _ => s.number?.map fun t => [t]

def scan (s : Scan) : Octets → Option (List Token)
  | [] => s.finish
  | b :: rest => (s.step b).bind fun r => (scan r.1 rest).map (r.2 ++ ·)

def tokens? (bs : Octets) : Option (List Token) := scan .gap bs

end HlaCoordination.Json
