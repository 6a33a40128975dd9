import Gremlin.Document

set_option autoImplicit false

/-!
Tables in the making. Headers and dotted keys may add to a table that was only passed through, and
never to one that was written out.
-/

namespace Gremlin.Toml

structure Key where
  name : String
  place : Nat
deriving DecidableEq, Repr, Inhabited

/-- Part of a document that is not complete yet. -/
inductive Node where
  | leaf (value : Document)
  /-- A table. It is implicit until a header opens it or keys are put into it directly; a dotted
  one was made by a dotted key. An implicit table stands where the key does that made it. -/
  | table (implicit dotted : Bool) (place : Nat) (entries : List (String × Node))
  /-- Tables under a doubled header, the last one first. -/
  | tables (place : Nat) (elements : List Node)
deriving Inhabited

namespace Node

def empty (implicit dotted : Bool) (place : Nat) : Node := .table implicit dotted place []

/-- Puts a value under a key: in place of the one that is there, or else at the end. -/
def put (key : String) (node : Node) : List (String × Node) → List (String × Node)
  | [] => [(key, node)]
  | (other, old) :: rest =>
    if other = key then (key, node) :: rest else (other, old) :: put key node rest

def putLast (key : String) (node : Node) (entries : List (String × Node)) : List (String × Node) :=
  entries.filter (·.1 ≠ key) ++ [(key, node)]

/-- Changes the table a path of keys leads to; tables that are missing on the way are made. Fails
on a value in the way, and for dotted keys also on a table that a header has opened. -/
def descend (dotted : Bool) (edit : Node → Option Node) : List Key → Node → Option Node
  | [], node => edit node
  | key :: path, .table implicit own start entries =>
    let changed := match (entries.lookup key.name).getD (.empty true dotted key.place) with
      | .leaf _ => none
      | .table childImplicit childDotted childStart children =>
        if dotted && !childImplicit then none
        else descend dotted edit path (.table childImplicit childDotted childStart children)
      | .tables _ [] => none
      | .tables start (last :: earlier) =>
        (descend dotted edit path last).map fun last => .tables start (last :: earlier)
    changed.map fun child => .table implicit own start (put key.name child entries)
  | _ :: _, _ => none

def insertNew (parent : Node) (key : Key) (value : Node) : Option Node :=
  match parent with
  | .table implicit dotted place entries =>
    match entries.lookup key.name with
    | some _ => none
    | none => some (.table implicit dotted place (put key.name value entries))
  | _ => none

def isDotted : Node → Bool
  | .table _ dotted _ _ => dotted
  | _ => false

/-- Puts a value under a dotted key. The table that holds it is made by dotted keys exactly if the
key has more than one part. -/
def insertDotted (path : List Key) (key : Key) (value : Document) (node : Node) : Option Node :=
  node.descend true (fun table =>
    if table.isDotted == path.isEmpty then none else table.insertNew key (.leaf value)) path

mutual

def toDocument : Node → Document
  | .leaf value => value
  | .table _ _ place entries => .table place (entriesToDocuments entries)
  | .tables place elements => .list place (elementsToDocuments elements).reverse

def entriesToDocuments : List (String × Node) → List (String × Document)
  | [] => []
  | (key, node) :: rest => (key, node.toDocument) :: entriesToDocuments rest

def elementsToDocuments : List Node → List Document
  | [] => []
  | node :: rest => node.toDocument :: elementsToDocuments rest

end

end Node

end Gremlin.Toml
