import Gremlin.Pool.Basic

set_option autoImplicit false

namespace Gremlin

structure ForceSnapshot where
  amount : Nat
  hardCap : Option Nat
  softCap : Option Nat
deriving DecidableEq, Repr

def ForceSnapshot.overSoftCap (snapshot : ForceSnapshot) : Bool :=
  snapshot.softCap.any (· < snapshot.amount)

structure PoolSnapshot where
  forces : ByForce ForceSnapshot
  totalCap : Option Nat
deriving DecidableEq, Repr

def Pool.snapshot (pool : Pool) : PoolSnapshot where
  forces := .ofFn fun f => ⟨pool.amount f, pool.hardCap? f, pool.softCap? f⟩
  totalCap := pool.totalCap?

namespace PoolSnapshot

def amount (snapshot : PoolSnapshot) (f : Force) : Nat := (snapshot.forces.get f).amount

def total (snapshot : PoolSnapshot) : Nat := wrappingSum (snapshot.forces.toList.map (·.amount))

def forceText (snapshot : PoolSnapshot) (f : Force) : String :=
  let force := snapshot.forces.get f
  match force.hardCap with
  | some cap => s!"{f.name}={force.amount}/{cap}"
  | none => s!"{f.name}={force.amount}"

def text (snapshot : PoolSnapshot) : String :=
  "Resources<" ++ ", ".intercalate (Force.all.map snapshot.forceText) ++ ">"

end PoolSnapshot

end Gremlin
