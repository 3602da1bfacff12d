import HlaCoordination.Json.Token

/-!
Reading JSON text. The builder takes one token a step and keeps the arrays and objects that are
part way through in a list of frames, innermost first. Elements and members are kept newest first.

Typed readers follow one rule for records: an object with every field exactly once, where other
members are skipped, or an array of exactly the fields in order.
-/

namespace HlaCoordination.Json

inductive Frame where
  | array (done : List Json)
  | object (done : List (Option String × Json)) (key : Option String)

inductive Build where
  | value (frames : List Frame)
  | firstItem (frames : List Frame)
  | afterItem (done : List Json) (frames : List Frame)
  | firstKey (frames : List Frame)
  | nextKey (done : List (Option String × Json)) (frames : List Frame)
  | colon (done : List (Option String × Json)) (key : Option String) (frames : List Frame)
  | afterMember (done : List (Option String × Json)) (frames : List Frame)
  | finished (value : Json)

def put (v : Json) : List Frame → Build
  | [] => .finished v
  | .array done :: frames => .afterItem (v :: done) frames
  | .object done key :: frames => .afterMember ((key, v) :: done) frames

def beginValue (t : Token) (frames : List Frame) : Option Build :=
  match t with
  | .null => some (put .null frames)
  | .bool b => some (put (.bool b) frames)
  | .number n => some (put (.number n) frames)
  | .string s => some (put (.string s) frames)
  | .openArray => some (.firstItem frames)
  | .openObject => some (.firstKey frames)
  | .closeArray | .closeObject | .comma | .colon => none

def Build.step (b : Build) (t : Token) : Option Build :=
  match b, t with
  | .value frames, t => beginValue t frames
  | .firstItem frames, .closeArray => some (put (.array []) frames)
  | .firstItem frames, t => beginValue t (.array [] :: frames)
  | .afterItem done frames, .comma => some (.value (.array done :: frames))
  | .afterItem done frames, .closeArray => some (put (.array done.reverse) frames)
  | .firstKey frames, .string key => some (.colon [] key frames)
  | .firstKey frames, .closeObject => some (put (.object []) frames)
  | .nextKey done frames, .string key => some (.colon done key frames)
  | .colon done key frames, .colon => some (.value (.object done key :: frames))
  | .afterMember done frames, .comma => some (.nextKey done frames)
  | .afterMember done frames, .closeObject => some (put (.object done.reverse) frames)
  | _, _ => none

def Build.run (b : Build) (ts : List Token) : Option Build := ts.foldlM Build.step b

def Build.result? : Build → Option Json
  | .finished v => some v
  | _ => none

/-- The one value written by these octets, with blanks around it. -/
def parse? (bs : Octets) : Option Json :=
  (tokens? bs).bind fun ts => ((Build.value []).run ts).bind Build.result?

def member? (name : String) (members : List (Option String × Json)) : Option Json :=
  match members.filter (·.1 == some name) with
  | [(_, v)] => some v
  | _ => none

def fields? (names : List String) : Json → Option (List Json)
  | .array items => if items.length = names.length then some items else none
  | .object members =>
    if members.all (·.1.isSome) then names.mapM (member? · members) else none
  | _ => none

def nat? : Json → Option Nat
  | .number n => n
  | _ => none

def text? : Json → Option String
  | .string s => s
  | _ => none

def list? {α : Type} (item? : Json → Option α) : Json → Option (List α)
  | .array items => items.mapM item?
  | _ => none

def octet? (j : Json) : Option UInt8 :=
  j.nat?.bind fun n => if n < UInt8.size then some n.toUInt8 else none

def word32? (j : Json) : Option UInt32 :=
  j.nat?.bind fun n => if n < UInt32.size then some n.toUInt32 else none

def word64? (j : Json) : Option UInt64 :=
  j.nat?.bind fun n => if n < UInt64.size then some n.toUInt64 else none

/-- A word of a vocabulary, or an object with that word as its only key and null as its value. -/
def word? {α : Type} [Vocabulary α] : Json → Option α
  | .string (some s) => Vocabulary.member? s
  | .object [(some s, .null)] => Vocabulary.member? s
  | _ => none

def ofWord {α : Type} [Vocabulary α] (a : α) : Json := .text (Vocabulary.word a)

end HlaCoordination.Json
