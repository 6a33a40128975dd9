import Gremlin.Amounts
import Gremlin.Force
import Gremlin.Health
import Gremlin.Overlay

set_option autoImplicit false

/-!
The player's forces and the caps over them. Hard caps, each force's and the total's, are enforced
after every change; soft caps are only kept for others to read.
-/

namespace Gremlin

structure Pool where
  amounts : ByForce Nat := .const 0
  hardCaps : ByForce OverlaySet := .const {}
  softCaps : ByForce OverlaySet := .const {}
  totalCaps : OverlaySet := {}
deriving DecidableEq, Repr

namespace Pool

/-- A pool without caps that holds given amounts, the last one given for each force. -/
def new (initial : List (Force × Nat)) : Pool where
  amounts := initial.foldl (fun amounts given => amounts.set given.1 given.2) (.const 0)

def amount (pool : Pool) (f : Force) : Nat := pool.amounts.get f

def total (pool : Pool) : Nat := wrappingSum pool.amounts.toList

def hardCap? (pool : Pool) (f : Force) : Option Nat := (pool.hardCaps.get f).min?

def softCap? (pool : Pool) (f : Force) : Option Nat := (pool.softCaps.get f).min?

def totalCap? (pool : Pool) : Option Nat := pool.totalCaps.min?

def capped (cap : Option Nat) (n : Nat) : Nat :=
  match cap with
  | some cap => min n cap
  | none => n

/-- The level to which the largest of descending amounts are lowered together so that `excess`
units come off: the first group whose amounts can be lowered that far without falling below the
next amount. The group so far has `size` members that hold `held` units. -/
def level (excess : Nat) : Nat → Nat → List Nat → Nat
  | _, _, [] => 0
  | size, held, amount :: rest =>
    let size := size + 1
    let held := held + amount
    if excess ≤ held - size * rest.headD 0 then (held - excess + (size - 1)) / size
    else level excess size held rest

/-- Takes one unit each from the first `units` amounts that stand at the level, unless it is
zero. -/
def takeUnits (level : Nat) : Nat → List Nat → List Nat
  | _, [] => []
  | 0, amounts => amounts
  | units + 1, amount :: rest =>
    if 0 < level ∧ amount = level then (amount - 1) :: takeUnits level units rest
    else amount :: takeUnits level (units + 1) rest

def tabulate (default : ByForce Nat) : List Nat → ByForce Nat
  | [a, b, c, d, e] => ⟨a, b, c, d, e⟩
  | _ => default

/-- Takes `excess` units off by lowering the largest forces to a common level; units that do not
divide evenly come off the forces declared first. -/
def levelDown (excess : Nat) (amounts : ByForce Nat) : ByForce Nat :=
  let line := level excess 0 0 (amounts.toList.mergeSort fun a b => decide (b ≤ a))
  let remainder := amounts.toList.foldl (fun left n => left - (n - line)) excess
  tabulate amounts (takeUnits line remainder (amounts.toList.map (min · line)))

/-- Enforces the hard caps: first each force's, then the total's, whose excess comes off the
largest forces. -/
def clamp (pool : Pool) : Pool :=
  let amounts := ByForce.ofFn fun f => capped (pool.hardCap? f) (pool.amount f)
  match pool.totalCap? with
  | some cap =>
    let excess := wrappingSum amounts.toList - cap
    { pool with amounts := if 0 < excess then levelDown excess amounts else amounts }
  | none => { pool with amounts }

def set (pool : Pool) (f : Force) (n : Nat) : Pool :=
  clamp { pool with amounts := pool.amounts.set f n }

/-- Adds to a force under the caps, and tells by how much the total grew. -/
def gain (pool : Pool) (f : Force) (n : Nat) : Pool × Nat :=
  let after := pool.set f (saturatingAdd (pool.amount f) n)
  (after, after.total - pool.total)

/-- Takes up to `n` of a force, and tells how much was taken. -/
def drain (pool : Pool) (f : Force) (n : Nat) : Pool × Nat :=
  let taken := min n (pool.amount f)
  ({ pool with amounts := pool.amounts.set f (pool.amount f - taken) }, taken)

def spend (pool : Pool) (f : Force) (n : Nat) : Pool × Bool :=
  if pool.amount f < n then (pool, false) else ((pool.drain f n).1, true)

def present (pool : Pool) : List Force := Force.all.filter fun f => 0 < pool.amount f

def best (beats : Force → Force → Bool) : List Force → Option Force
  | [] => none
  | f :: rest =>
    match best beats rest with
    | some g => if beats g f then some g else some f
    | none => some f

/-- The largest force present; the one declared first of equals. -/
def largest? (pool : Pool) : Option Force :=
  best (fun g f => pool.amount f < pool.amount g) pool.present

def smallest? (pool : Pool) : Option Force :=
  best (fun g f => pool.amount g < pool.amount f) pool.present

def installHardCap (pool : Pool) (f : Force) (overlay : Overlay) : Pool :=
  clamp { pool with hardCaps := pool.hardCaps.modify f (·.install overlay) }

def installSoftCap (pool : Pool) (f : Force) (overlay : Overlay) : Pool :=
  { pool with softCaps := pool.softCaps.modify f (·.install overlay) }

def installTotalCap (pool : Pool) (overlay : Overlay) : Pool :=
  clamp { pool with totalCaps := pool.totalCaps.install overlay }

def mapOverlays (change : OverlaySet → OverlaySet) (pool : Pool) : Pool :=
  { pool with
    hardCaps := pool.hardCaps.map change
    softCaps := pool.softCaps.map change
    totalCaps := change pool.totalCaps }

def releaseAllPassive (pool : Pool) : Pool := pool.mapOverlays (·.releaseAllPassive)

def releasePassive (pool : Pool) (source : InstanceId) : Pool :=
  pool.mapOverlays (·.releasePassive source)

def releaseSource (pool : Pool) (source : InstanceId) : Pool :=
  pool.mapOverlays (·.releaseSource source)

def expire (pool : Pool) : Pool := pool.mapOverlays (·.expire)

end Pool

end Gremlin
