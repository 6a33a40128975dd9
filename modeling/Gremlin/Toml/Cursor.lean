set_option autoImplicit false

namespace Gremlin.Toml

/-- What is left of a text, and how many characters have been read. -/
structure Cursor where
  place : Nat
  rest : List Char
deriving Inhabited

/-- A place at which a text cannot be read on. The fault is settled once it is known what was being
read; until then the text may still be read as something else. -/
structure Fault where
  place : Nat
  settled : Bool
deriving DecidableEq, Repr

def faultAt {α : Type} (place : Nat) : Except Fault α := .error ⟨place, true⟩

/-- What is read is known, so that every fault in it is settled. -/
def settle {α : Type} (reading : Except Fault α) : Except Fault α :=
  reading.mapError fun fault => { fault with settled := true }

/-- The first reading, or the second one if the first fails and is not settled. -/
def orElse {α : Type} (first : Except Fault α) (second : Unit → Except Fault α) :
    Except Fault α :=
  match first with
  | .ok x => .ok x
  | .error fault => if fault.settled then .error fault else second ()

namespace Cursor

def start (text : List Char) : Cursor := ⟨0, text⟩

def fail {α : Type} (c : Cursor) : Except Fault α := faultAt c.place

def decline {α : Type} (c : Cursor) : Except Fault α := .error ⟨c.place, false⟩

def skip (c : Cursor) (count : Nat) : Cursor := ⟨c.place + count, c.rest.drop count⟩

def span (p : Char → Bool) (c : Cursor) : List Char × Cursor :=
  let taken := c.rest.takeWhile p
  (taken, c.skip taken.length)

def skipSpace (c : Cursor) : Cursor := (c.span fun x => x = ' ' || x = '\t').2

def startsWith (c : Cursor) (text : String) : Bool := text.toList.isPrefixOf c.rest

def expect (c : Cursor) (text : String) : Except Fault Cursor :=
  if c.startsWith text then .ok (c.skip text.length) else c.decline

end Cursor

/-- The line and column of a place, both counted from one. Columns count characters, but the bytes
before a place where a character of several bytes stands. Beyond the end they go on from the last
character. -/
def position (text : List Char) (place : Nat) : Nat × Nat :=
  let inside := min place (text.length - 1)
  let before := text.take inside
  let line := before.count '\n'
  let left := before.reverse.takeWhile (· ≠ '\n')
  let wide := (text.drop place).head?.any (128 ≤ ·.toNat)
  let column :=
    if wide then left.foldl (fun size c => size + c.utf8Size) 0
    else left.length + (place - inside)
  (line + 1, column + 1)

end Gremlin.Toml
