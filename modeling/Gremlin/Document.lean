set_option autoImplicit false

/-!
Documents: the values that data files are made of, each with the place it stands at, and how
numbers, texts, lists and tables of columns are read from them.
-/

namespace Gremlin

/-- A value of a data file. Its place is how many characters come before it. -/
inductive Document where
  | null (place : Nat)
  | flag (place : Nat) (value : Bool)
  | whole (place : Nat) (value : Int)
  | fraction (place : Nat)
  | moment (place : Nat)
  | text (place : Nat) (value : String)
  | list (place : Nat) (items : List Document)
  /-- Entries in the order they are written, each key once. -/
  | table (place : Nat) (entries : List (String × Document))
deriving Inhabited

inductive Medium where
  /-- A file that people write. A list may run on behind the columns it gives. -/
  | file
  /-- A message of a program. A list gives no more than the columns, and within a script a number
  may stand for a name. -/
  | message
deriving DecidableEq, Repr

structure Misfit where
  place : Nat
deriving DecidableEq, Repr

namespace Document

def place : Document → Nat
  | null place | flag place _ | whole place _ | fraction place | moment place | text place _
  | list place _ | table place _ => place

def misfit {α : Type} (d : Document) : Except Misfit α := .error ⟨d.place⟩

def readNatural (bound : Nat) : Document → Except Misfit Nat
  | whole place n => if 0 ≤ n ∧ n < bound then .ok n.toNat else .error ⟨place⟩
  | d => d.misfit

def readText : Document → Except Misfit String
  | text _ s => .ok s
  | d => d.misfit

def readFlag : Document → Except Misfit Bool
  | flag _ b => .ok b
  | d => d.misfit

def readOptional {α : Type} (read : Document → Except Misfit α) :
    Document → Except Misfit (Option α)
  | null _ => .ok none
  | d => (read d).map some

def readList {α : Type} (read : Document → Except Misfit α) : Document → Except Misfit (List α)
  | list _ items => items.mapM read
  | d => d.misfit

/-- The columns of a table, or of a list that gives the first of them in the order of `names`. A
date or a time has no columns that count. -/
def columns (medium : Medium) (names : List String) :
    Document → Except Misfit (List (String × Document))
  | table _ entries => .ok entries
  | moment _ => .ok []
  | list place items =>
    if medium = .message ∧ names.length < items.length then .error ⟨place⟩
    else .ok (names.zip items)
  | d => d.misfit

/-- One of some names. Where names are numbered a number may stand for one. -/
def readName (numbered : Bool) (names : List String) : Document → Except Misfit String
  | text place name => if name ∈ names then .ok name else .error ⟨place⟩
  | whole place n =>
    match if numbered ∧ 0 ≤ n then names[n.toNat]? else none with
    | some name => .ok name
    | none => .error ⟨place⟩
  | d => d.misfit

def column? (entries : List (String × Document)) (name : String) : Option Document :=
  entries.lookup name

def readColumn {α : Type} (parent : Document) (entries : List (String × Document)) (name : String)
    (read : Document → Except Misfit α) : Except Misfit α :=
  match column? entries name with
  | some d => read d
  | none => parent.misfit

def readColumnOr {α : Type} (default : α) (entries : List (String × Document)) (name : String)
    (read : Document → Except Misfit α) : Except Misfit α :=
  match column? entries name with
  | some d => read d
  | none => .ok default

end Document

end Gremlin
