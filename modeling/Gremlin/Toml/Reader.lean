import Gremlin.Toml.Value

set_option autoImplicit false

/-! Whole documents: headers that open tables, and pairs that go into the table opened last. -/

namespace Gremlin.Toml

/-- The table opened last, which the pairs that follow go into. -/
structure Section where
  path : List Key
  key : Key
  doubled : Bool
  table : Node
  place : Nat

/-- What has been read of a document: all sections but the last, and the last. -/
structure Draft where
  root : Node
  current : Option Section

/-- Puts a finished section into the document. A table that was passed through before moves behind
the others. -/
def Section.close (opened : Section) (root : Node) : Option Node :=
  root.descend false (fun parent =>
    match parent with
    | .table implicit dotted place entries =>
      let key := opened.key.name
      if opened.doubled then
        match entries.lookup key with
        | some (.tables start elements) =>
          some (.table implicit dotted place
            (Node.put key (.tables start (opened.table :: elements)) entries))
        | none =>
          some (.table implicit dotted place
            (Node.put key (.tables opened.place [opened.table]) entries))
        | some _ => none
      else some (.table implicit dotted place (Node.putLast key opened.table entries))
    | _ => none) opened.path

namespace Draft

def empty : Draft := ⟨.empty false false 0, none⟩

def closed (draft : Draft) : Option Node :=
  match draft.current with
  | none => some draft.root
  | some current => current.close draft.root

def insert (draft : Draft) (path : List Key) (key : Key) (value : Document) : Option Draft :=
  match draft.current with
  | none => (draft.root.insertDotted path key value).map fun root => { draft with root }
  | some current =>
    (current.table.insertDotted path key value).map fun table =>
      { draft with current := some { current with table } }

def entryAt : List Key → String → Node → Option (Option Node)
  | [], key, .table _ _ _ entries => some (entries.lookup key)
  | [], _, _ => none
  | step :: rest, key, .table _ _ _ entries =>
    match (entries.lookup step.name).getD (.empty true false step.place) with
    | .tables _ (last :: _) => entryAt rest key last
    | node => entryAt rest key node
  | _ :: _, _, _ => none

/-- Opens the section of a header. A plain header may open a table that was only passed through by
other headers; a doubled one adds to the tables of doubled headers. -/
def openSection (draft : Draft) (place : Nat) (doubled : Bool) (path : List Key) (key : Key) :
    Option Draft := do
  let root ← draft.closed
  let found ← entryAt path key.name root
  let table ← match found, doubled with
    | none, _ => some (.empty false false place)
    | some (.tables ..), true => some (.empty false false place)
    | some (.table true false _ entries), false => some (.table false false place entries)
    | _, _ => none
  some ⟨root, some ⟨path, key, doubled, table, place⟩⟩

end Draft

def readLineEnd (c : Cursor) : Except Fault Cursor :=
  let c := skipComment c.skipSpace
  match c.rest with
  | [] => .ok c
  | '\n' :: _ => .ok (c.skip 1)
  | '\r' :: '\n' :: _ => .ok (c.skip 2)
  | _ => c.fail

def readHeader (draft : Draft) (c : Cursor) : Except Fault (Draft × Cursor) := do
  let doubled := c.startsWith "[["
  if c.rest.length < 2 then c.fail
  else do
    let ((path, key), after) ← readKey (c.skip (if doubled then 2 else 1))
    let after ← after.expect (if doubled then "]]" else "]")
    let after ← readLineEnd after
    match draft.openSection c.place doubled path key with
    | some draft => .ok (draft, after)
    | none => c.fail

def readPair (draft : Draft) (c : Cursor) : Except Fault (Draft × Cursor) := do
  let ((path, key), after) ← readKey c
  let after ← after.expect "="
  let after := after.skipSpace
  let (value, after) ← readValue (2 * after.rest.length + 2) 0 after
  let after ← readLineEnd after
  match draft.insert path key value with
  | some draft => .ok (draft, after)
  | none => c.fail

def readLines : Nat → Draft → Cursor → Except Fault Draft
  | 0, _, c => c.fail
  | fuel + 1, draft, c =>
    let c := c.skipSpace
    match c.rest with
    | [] => .ok draft
    | '#' :: _ => do
      let after ← readLineEnd c
      readLines fuel draft after
    | '\n' :: _ => readLines fuel draft (c.skip 1)
    | '\r' :: _ => do
      let after ← c.expect "\r\n"
      readLines fuel draft after
    | '[' :: _ => do
      let (draft, after) ← readHeader draft c
      readLines fuel draft after
    | _ => do
      let (draft, after) ← readPair draft c
      readLines fuel draft after

/-- A document. A byte order mark before it does not count. -/
def readDocument (text : String) : Except Fault Document := do
  let cs := text.toList
  let start := Cursor.start cs
  let start := if start.startsWith "\uFEFF" then start.skip 1 else start
  let draft ← readLines (cs.length + 1) .empty start
  match draft.closed with
  | some root => .ok root.toDocument
  | none => faultAt cs.length

end Gremlin.Toml
