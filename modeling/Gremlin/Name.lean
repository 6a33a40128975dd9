set_option autoImplicit false

/-!
Names of the fixed vocabularies (forces, sizes, patterns, …) and the error for a name that is in
none of them.
-/

namespace Gremlin

inductive Vocabulary where
  | force
  | size
  | pattern
  | protection
  | summonPosition
  | counter
deriving DecidableEq, Repr

structure UnknownName where
  vocabulary : Vocabulary
  given : String
deriving DecidableEq, Repr

def Vocabulary.noun : Vocabulary → String
  | .force => "force type"
  | .size => "size"
  | .pattern => "move pattern"
  | .protection => "target protection"
  | .summonPosition => "summon position"
  | .counter => "observed counter"

def UnknownName.message (e : UnknownName) : String := s!"invalid {e.vocabulary.noun} {e.given}"

def named? {α : Type} (members : List α) (name : α → String) (cs : List Char) : Option α :=
  members.find? fun member => (name member).toList = cs

theorem name_of_named? {α : Type} {members : List α} {name : α → String} {cs : List Char} {a : α}
    (found : named? members name cs = some a) : (name a).toList = cs := by
  simpa using List.find?_some found

end Gremlin
