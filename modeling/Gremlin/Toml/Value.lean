import Gremlin.Toml.Number
import Gremlin.Toml.Text
import Gremlin.Toml.Tree

set_option autoImplicit false

namespace Gremlin.Toml

/-- Keys have fewer parts than this, and fewer lists and tables stand in one another. -/
abbrev depthLimit : Nat := 80

def isKeyChar (c : Char) : Bool := c.isAlphanum || c = '_' || c = '-'

def readSimpleKey (c : Cursor) : Except Fault (Key × Cursor) :=
  if c.startsWith "\"" || c.startsWith "'" then
    (readKeyText c).map fun (name, after) => (⟨name, c.place⟩, after)
  else
    let (name, after) := c.span isKeyChar
    if name.isEmpty then c.decline else .ok (⟨String.ofList name, c.place⟩, after)

/-- The parts of a key after the first, each behind a point. A point that no part follows does not
belong to the key. -/
def readKeyTail : Nat → Cursor → Except Fault (List Key × Cursor)
  | 0, c => .ok ([], c)
  | fuel + 1, c =>
    if c.startsWith "." then
      match readSimpleKey (c.skip 1).skipSpace with
      | .error fault => if fault.settled then .error fault else .ok ([], c)
      | .ok (key, after) =>
        (readKeyTail fuel after.skipSpace).map fun (keys, after) => (key :: keys, after)
    else .ok ([], c)

/-- A key: its parts but the last, and the last. Blanks around the parts do not count. -/
def readKey (c : Cursor) : Except Fault ((List Key × Key) × Cursor) := do
  let (first, after) ← readSimpleKey c.skipSpace
  let (others, after) ← readKeyTail after.rest.length after.skipSpace
  let parts := first :: others
  if depthLimit ≤ parts.length then c.decline
  else .ok ((parts.dropLast, parts.getLastD first), after)

def skipComment (c : Cursor) : Cursor :=
  if c.startsWith "#" then ((c.skip 1).span isPlain).2 else c

/-- Moves past blanks, line breaks and comments. A line must end behind its comment; the character
that stands there instead is passed before it is refused. -/
def readLinesBetween : Nat → Cursor → Except Fault Cursor
  | 0, c => .ok c
  | fuel + 1, c =>
    let c := c.skipSpace
    let behind := skipComment c
    match behind.rest with
    | '\n' :: _ => readLinesBetween fuel (behind.skip 1)
    | '\r' :: '\n' :: _ => readLinesBetween fuel (behind.skip 2)
    | '\r' :: _ => (behind.skip 1).fail
    | [] => if behind.place = c.place then .ok c else behind.fail
    | _ => if behind.place = c.place then .ok c else (behind.skip 1).fail

def readBetween (c : Cursor) : Except Fault Cursor := readLinesBetween (c.rest.length + 1) c

def insertPairs (place : Nat) (pairs : List ((List Key × Key) × Document)) : Option Node :=
  pairs.foldlM (fun node pair => node.insertDotted pair.1.1 pair.1.2 pair.2)
    (.empty false false place)

mutual

def readValue : Nat → Nat → Cursor → Except Fault (Document × Cursor)
  | 0, _, c => c.decline
  | fuel + 1, depth, c =>
    match c.rest with
    | '"' :: _ | '\'' :: _ =>
      (readText c).map fun (text, after) => (.text c.place text, after)
    | '[' :: _ =>
      if depthLimit ≤ depth + 1 then c.fail
      else (readItems fuel (depth + 1) (c.skip 1)).map fun (items, after) =>
        (.list c.place items, after)
    | '{' :: _ =>
      if depthLimit ≤ depth + 1 then c.fail
      else settle do
        let inner := c.skip 1
        let (pairs, after) ← readPairs fuel (depth + 1) inner.skipSpace inner
        match insertPairs c.place pairs with
        | none => inner.fail
        | some node => (after.expect "\x7d").map fun after => (node.toDocument, after)
    | 't' :: _ => (c.expect "true").map fun after => (.flag c.place true, after)
    | 'f' :: _ => (c.expect "false").map fun after => (.flag c.place false, after)
    | 'i' :: _ => (c.expect "inf").map fun after => (.fraction c.place, after)
    | 'n' :: _ => (c.expect "nan").map fun after => (.fraction c.place, after)
    | x :: _ => if x.isDigit || x = '+' || x = '-' then readNumber c else c.decline
    | [] => c.decline

/-- The items of a list up to its bracket; a comma may follow the last. What turns out to be no
item is refused where it starts. -/
def readItems : Nat → Nat → Cursor → Except Fault (List Document × Cursor)
  | 0, _, c => c.fail
  | fuel + 1, depth, c => settle do
    let start ← readBetween c
    if start.startsWith "]" then .ok ([], start.skip 1)
    else do
      let (item, after) ← orElse (readValue fuel depth start) fun _ => start.fail
      match readBetween after with
      | .error _ => start.fail
      | .ok after =>
        if after.startsWith "," then
          (readItems fuel depth (after.skip 1)).map fun (items, after) => (item :: items, after)
        else (after.expect "]").map fun after => ([item], after)

/-- The pairs of a table on one line. Where no key follows, reading goes back to `back`: behind the
brace and the blanks after it, or in front of the comma. -/
def readPairs : Nat → Nat → Cursor → Cursor →
    Except Fault (List ((List Key × Key) × Document) × Cursor)
  | 0, _, _, c => c.fail
  | fuel + 1, depth, back, c =>
    match readKey c with
    | .error fault => if fault.settled then .error fault else .ok ([], back)
    | .ok (key, after) => settle do
      let after ← after.expect "="
      let (value, after) ← readValue fuel depth after.skipSpace
      let after := after.skipSpace
      if after.startsWith "," then
        (readPairs fuel depth after (after.skip 1)).map fun (pairs, after) =>
          ((key, value) :: pairs, after)
      else .ok ([(key, value)], after)

end

end Gremlin.Toml
