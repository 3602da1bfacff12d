import HlaCoordination.Toml.Document
import HlaCoordination.Toml.Token

/-!
Reading TOML text. The builder takes one token a step. Keys are gathered token by token until an
equals sign or a bracket ends them; arrays and inline tables that are part way through are kept in
a list of frames, innermost first.
-/

namespace HlaCoordination.Toml

/-- Neither values nor keys may be nested this deep. -/
def depthLimit : Nat := 80

inductive KeyPart where
  | name (s : String)
  | dot
  deriving DecidableEq, Repr

def isBareKeyChar (c : Char) : Bool := c.isAlphanum || c = '_' || c = '-'

def wordParts? : List Char → List Char → Option (List KeyPart)
  | name, [] => some (if name.isEmpty then [] else [.name (text name)])
  | name, c :: rest =>
    if c = '.' then
      (wordParts? [] rest).map fun parts =>
        if name.isEmpty then .dot :: parts else .name (text name) :: .dot :: parts
    else if isBareKeyChar c then wordParts? (c :: name) rest
    else none

def keyParts? : Token → Option (List KeyPart)
  | .word w => wordParts? [] w
  | .string s false => some [.name s]
  | _ => none

def path? : List KeyPart → Option (List String)
  | [.name s] => some [s]
  | .name s :: .dot :: rest => (path? rest).map (s :: ·)
  | _ => none

def key? (ts : List Token) : Option (List String) :=
  ((ts.mapM keyParts?).bind fun parts => path? parts.flatten).bind fun path =>
    if path.length < depthLimit then some path else none

inductive Frame where
  | array
  | inline (done : Entries) (key : List String)

/-- What the text may go on with. Tokens of a key are kept newest first. -/
inductive Phase where
  | line
  | headerStart
  | header (array : Bool) (key : List Token)
  | headerEnd (key : List Token)
  | lineKey (key : List Token)
  | value (frames : List Frame)
  | item (frames : List Frame)
  | afterItem (frames : List Frame)
  | firstMember (frames : List Frame)
  | memberKey (done : Entries) (key : List Token) (frames : List Frame)
  | afterMember (done : Entries) (frames : List Frame)
  | lineEnd

structure Build where
  document : Document := {}
  key : List String := []
  phase : Phase := .line

namespace Build

def goTo (b : Build) (p : Phase) : Option Build := some { b with phase := p }

def put (b : Build) (v : Value) : List Frame → Option Build
  | [] => (b.document.set b.key v).map fun document => { b with document, phase := .lineEnd }
  | .array :: frames => b.goTo (.afterItem frames)
  | .inline done key :: frames =>
    (done.set key v .header).bind fun done => b.goTo (.afterMember done frames)

def beginValue (b : Build) (t : Token) (frames : List Frame) : Option Build :=
  match t with
  | .word w => (scalar? w).bind (b.put · frames)
  | .string s _ => b.put (.text s) frames
  | .openBracket => if frames.length + 1 < depthLimit then b.goTo (.item frames) else none
  | .openBrace => if frames.length + 1 < depthLimit then b.goTo (.firstMember frames) else none
  | _ => none

def beginLine (b : Build) (t : Token) : Option Build :=
  match t with
  | .newline => b.goTo .line
  | .openBracket => b.goTo .headerStart
  | .word _ | .string .. => b.goTo (.lineKey [t])
  | _ => none

/-- Blanks matter only between the two brackets that open or close the header of an array. -/
def step (b : Build) (t : Token) : Option Build :=
  match b.phase, t with
  | .headerStart, .blank => b.goTo (.header false [])
  | .headerEnd _, .blank => none
  | _, .blank => some b
  | .line, t => beginLine b t
  | .headerStart, .openBracket => b.goTo (.header true [])
  | .headerStart, t => b.goTo (.header false [t])
  | .header false key, .closeBracket =>
    ((key? key.reverse).bind b.document.declare).map fun document =>
      { b with document, phase := .lineEnd }
  | .header true key, .closeBracket => b.goTo (.headerEnd key)
  | .header array key, t => b.goTo (.header array (t :: key))
  | .headerEnd key, .closeBracket =>
    ((key? key.reverse).bind b.document.append).map fun document =>
      { b with document, phase := .lineEnd }
  | .lineKey key, .equals =>
    (key? key.reverse).map fun key => { b with key, phase := .value [] }
  | .lineKey key, t => b.goTo (.lineKey (t :: key))
  | .value frames, t => b.beginValue t frames
  | .item frames, .newline => b.goTo (.item frames)
  | .item frames, .closeBracket => b.put .other frames
  | .item frames, t => b.beginValue t (.array :: frames)
  | .afterItem frames, .newline => b.goTo (.afterItem frames)
  | .afterItem frames, .comma => b.goTo (.item frames)
  | .afterItem frames, .closeBracket => b.put .other frames
  | .firstMember frames, .closeBrace => b.put .other frames
  | .firstMember frames, t => b.goTo (.memberKey [] [t] frames)
  | .memberKey done key frames, .equals =>
    (key? key.reverse).bind fun key => b.goTo (.value (.inline done key :: frames))
  | .memberKey done key frames, t => b.goTo (.memberKey done (t :: key) frames)
  | .afterMember done frames, .comma => b.goTo (.memberKey done [] frames)
  | .afterMember _ frames, .closeBrace => b.put .other frames
  | .lineEnd, .newline => b.goTo .line
  | _, _ => none

def result? (b : Build) : Option Document :=
  match b.phase with
  | .line | .lineEnd => some b.document
  | _ => none

end Build

def parse? (s : String) : Option Document :=
  (tokens? s).bind fun ts => (ts.foldlM Build.step {}).bind Build.result?

end HlaCoordination.Toml
