import Gremlin.Name

set_option autoImplicit false

/-!
The five forces a player holds, and values kept one per force. Forces are declared in the order
that breaks every tie.
-/

namespace Gremlin

inductive Force where
  | heat
  | precision
  | momentum
  | balance
  | entropy
deriving DecidableEq, Repr

namespace Force

def all : List Force := [heat, precision, momentum, balance, entropy]

def name : Force → String
  | heat => "heat"
  | precision => "precision"
  | momentum => "momentum"
  | balance => "balance"
  | entropy => "entropy"

def title : Force → String
  | heat => "Heat"
  | precision => "Precision"
  | momentum => "Momentum"
  | balance => "Balance"
  | entropy => "Entropy"

def index : Force → Nat
  | heat => 0
  | precision => 1
  | momentum => 2
  | balance => 3
  | entropy => 4

def ofChars? (cs : List Char) : Option Force := named? all name cs

def read (s : String) : Except UnknownName Force :=
  match ofChars? s.toList with
  | some force => .ok force
  | none => .error ⟨.force, s⟩

theorem mem_all (f : Force) : f ∈ all := by cases f <;> decide

theorem ofChars?_name (f : Force) : ofChars? f.name.toList = some f := by
  cases f <;> decide

end Force

/-- Which forces an effect touches. The largest and the smallest are taken among the forces the
player holds. -/
inductive Selector where
  | only (force : Force)
  | every
  | largest
  | smallest
  | random
deriving DecidableEq, Repr

def Selector.name : Selector → String
  | only force => force.name
  | every => "all"
  | largest => "largest"
  | smallest => "smallest"
  | random => "random"

structure ByForce (α : Type) where
  heat : α
  precision : α
  momentum : α
  balance : α
  entropy : α
deriving DecidableEq, Repr

namespace ByForce

variable {α β : Type}

def const (a : α) : ByForce α := ⟨a, a, a, a, a⟩

def get (v : ByForce α) : Force → α
  | .heat => v.heat
  | .precision => v.precision
  | .momentum => v.momentum
  | .balance => v.balance
  | .entropy => v.entropy

def set (v : ByForce α) (f : Force) (a : α) : ByForce α :=
  match f with
  | .heat => { v with heat := a }
  | .precision => { v with precision := a }
  | .momentum => { v with momentum := a }
  | .balance => { v with balance := a }
  | .entropy => { v with entropy := a }

def modify (v : ByForce α) (f : Force) (change : α → α) : ByForce α := v.set f (change (v.get f))

def map (change : α → β) (v : ByForce α) : ByForce β :=
  ⟨change v.heat, change v.precision, change v.momentum, change v.balance, change v.entropy⟩

def toList (v : ByForce α) : List α := [v.heat, v.precision, v.momentum, v.balance, v.entropy]

def ofFn (value : Force → α) : ByForce α :=
  ⟨value .heat, value .precision, value .momentum, value .balance, value .entropy⟩

@[simp] theorem get_set_same (v : ByForce α) (f : Force) (a : α) : (v.set f a).get f = a := by
  cases f <;> rfl

theorem get_set_other (v : ByForce α) {f g : Force} (a : α) (other : g ≠ f) :
    (v.set f a).get g = v.get g := by
  cases f <;> cases g <;> first | rfl | exact absurd rfl other

@[simp] theorem get_const (a : α) (f : Force) : (const a).get f = a := by cases f <;> rfl

@[simp] theorem get_map (change : α → β) (v : ByForce α) (f : Force) :
    (v.map change).get f = change (v.get f) := by
  cases f <;> rfl

@[simp] theorem get_ofFn (value : Force → α) (f : Force) : (ofFn value).get f = value f := by
  cases f <;> rfl

theorem ext_get {v w : ByForce α} (same : ∀ f, v.get f = w.get f) : v = w := by
  cases v
  cases w
  simp only [mk.injEq]
  exact ⟨same .heat, same .precision, same .momentum, same .balance, same .entropy⟩

end ByForce

end Gremlin
