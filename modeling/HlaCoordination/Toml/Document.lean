import HlaCoordination.Toml.Scalar

/-!
The tables of a TOML document. A table comes into being by a header of its own, as a part of
another table's header, or by a dotted key, and only once in any of these ways: a header may
declare a table that so far was only part of a header, and a dotted key may go on through a table
that no header has declared, but a value is set only in a table made by a header or by dotted keys
alone.
-/

namespace HlaCoordination.Toml

inductive Origin where
  | header
  | headerPart
  | dotted
  deriving DecidableEq, Repr

inductive Node where
  | value (v : Value)
  | table (origin : Origin) (entries : List (String × Node))
  /-- An array of tables, the latest first. -/
  | tables (elements : List (List (String × Node)))
  deriving Inhabited

abbrev Entries := List (String × Node)

namespace Entries

def put (es : Entries) (key : String) (n : Node) : Entries :=
  if (es.lookup key).isSome then es.map fun e => if e.1 == key then (key, n) else e
  else es ++ [(key, n)]

/-- Changes the table at the end of a path. Missing tables are made on the way. A dotted path does
not enter a table that a header has declared; of an array of tables the latest is entered. -/
def modify (dotted : Bool) (change : Origin → Entries → Option Entries) (origin : Origin) :
    List String → Entries → Option Entries
  | [], es => change origin es
  | key :: path, es =>
    match es.lookup key with
    | none =>
      let origin := if dotted then .dotted else .headerPart
      (modify dotted change origin path []).map fun sub => es.put key (.table origin sub)
    | some (.table origin sub) =>
      if dotted && origin = .header then none
      else (modify dotted change origin path sub).map fun sub => es.put key (.table origin sub)
    | some (.tables (latest :: older)) =>
      (modify dotted change .header path latest).map fun sub =>
        es.put key (.tables (sub :: older))
    | some (.tables []) | some (.value _) => none

def set (key : List String) (v : Value) (origin : Origin) (es : Entries) : Option Entries :=
  let path := key.dropLast
  modify true (fun origin es =>
    match key.getLast? with
    | none => none
    | some name =>
      if (origin == .dotted) == path.isEmpty then none
      else if (es.lookup name).isSome then none
      else some (es.put name (.value v))) origin path es

def declare (key : List String) (es : Entries) : Option Entries :=
  modify false (fun _ es =>
    match key.getLast? with
    | none => none
    | some name =>
      match es.lookup name with
      | none => some (es.put name (.table .header []))
      | some (.table .headerPart sub) => some (es.put name (.table .header sub))
      | some _ => none) .header key.dropLast es

def append (key : List String) (es : Entries) : Option Entries :=
  modify false (fun _ es =>
    match key.getLast? with
    | none => none
    | some name =>
      match es.lookup name with
      | none => some (es.put name (.tables [[]]))
      | some (.tables elements) => some (es.put name (.tables ([] :: elements)))
      | some _ => none) .header key.dropLast es

end Entries

structure Document where
  root : Entries := []
  header : List String := []

namespace Document

def set (d : Document) (key : List String) (v : Value) : Option Document :=
  (Entries.modify false (fun origin es => es.set key v origin) .header d.header d.root).map
    fun root => { d with root }

def declare (d : Document) (key : List String) : Option Document :=
  (d.root.declare key).map fun root => { root, header := key }

def append (d : Document) (key : List String) : Option Document :=
  (d.root.append key).map fun root => { root, header := key }

def lookup? (d : Document) (key : String) : Option Node := d.root.lookup key

end Document

end HlaCoordination.Toml
