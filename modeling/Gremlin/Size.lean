import Gremlin.Name
import Gremlin.Text.LowerCase

set_option autoImplicit false

namespace Gremlin

inductive Size where
  | gnat
  | small
  | medium
  | large
  | elite
  | boss
deriving DecidableEq, Repr

namespace Size

def all : List Size := [gnat, small, medium, large, elite, boss]

def name : Size → String
  | gnat => "gnat"
  | small => "small"
  | medium => "medium"
  | large => "large"
  | elite => "elite"
  | boss => "boss"

def ordinal : Size → Nat
  | gnat => 0
  | small => 1
  | medium => 2
  | large => 3
  | elite => 4
  | boss => 5

def ofChars? (cs : List Char) : Option Size := named? all name cs

/-- Reads a category name in any case. -/
def read (s : String) : Except UnknownName Size :=
  let given := Text.lower s
  match ofChars? given.toList with
  | some size => .ok size
  | none => .error ⟨.size, given⟩

theorem ofChars?_name (size : Size) : ofChars? size.name.toList = some size := by
  cases size <;> decide

end Size

end Gremlin
