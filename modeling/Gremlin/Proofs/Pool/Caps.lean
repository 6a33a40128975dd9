import Gremlin.Proofs.Overlay
import Gremlin.Proofs.Pool.Levelling

set_option autoImplicit false

/-!
Hard caps hold after whatever is done with a pool, soft caps bear on nothing, and forces grow only
where they are set or gained. The cap of the total guards a sum in 32 bits, which says how much there
is as long as the amounts fit.
-/

namespace Gremlin

namespace OverlaySet

/-- Fewer overlays limit less. -/
theorem min?_le_of_subset {set set' : OverlaySet} (fewer : set'.values ⊆ set.values) {cap : Nat}
    (tightest : set'.min? = some cap) : ∃ tighter, set.min? = some tighter ∧ tighter ≤ cap := by
  obtain ⟨member, _⟩ := List.min?_eq_some_iff.mp tightest
  have present := fewer member
  cases least : set.values.min? with
  | none =>
    rw [List.min?_eq_none_iff] at least
    rw [least] at present
    cases present
  | some tighter => exact ⟨tighter, least, (List.min?_eq_some_iff.mp least).2 cap present⟩

theorem values_filter_subset (set : OverlaySet) (condition : Overlay → Bool) :
    (⟨set.overlays.filter condition⟩ : OverlaySet).values ⊆ set.values :=
  List.map_subset _ (List.filter_subset_self set.overlays)

theorem values_expire_subset (set : OverlaySet) : set.expire.values ⊆ set.values := by
  have values : set.expire.values =
      (⟨set.overlays.filter fun o => o.duration ≠ .ticks 0⟩ : OverlaySet).values := by
    simp only [expire, OverlaySet.values, List.map_map]
    exact List.map_congr_left fun overlay _ => countDown_value overlay
  rw [values]
  exact set.values_filter_subset _

end OverlaySet

namespace Pool

/-! ### Caps that hold -/

/-- The amounts add up in 32 bits. -/
def Fits (pool : Pool) : Prop := pool.amounts.toList.sum < Text.wordBound

instance (pool : Pool) : Decidable pool.Fits := inferInstanceAs (Decidable (_ < _))

section Fits

variable {pool pool' : Pool}

theorem Fits.total_eq (fits : pool.Fits) : pool.total = pool.amounts.toList.sum :=
  wrappingSum_of_lt fits

theorem Fits.lowered (fits : pool.Fits) (less : ∀ f, pool'.amount f ≤ pool.amount f) :
    pool'.Fits :=
  Nat.lt_of_le_of_lt (ByForce.sum_toList_le less) fits

end Fits

/-- Every force is within its hard cap. -/
def ForcesCapped (pool : Pool) : Prop :=
  ∀ f cap, pool.hardCap? f = some cap → pool.amount f ≤ cap

/-- Every force is within its hard cap, and all of them within the cap of the total. -/
structure Capped (pool : Pool) : Prop where
  force : pool.ForcesCapped
  total : ∀ cap, pool.totalCap? = some cap → pool.total ≤ cap

theorem capped_le (cap : Option Nat) (n : Nat) : capped cap n ≤ n := by
  cases cap with
  | none => exact Nat.le_refl n
  | some cap => exact Nat.min_le_left n cap

theorem capped_some_le (cap n : Nat) : capped (some cap) n ≤ cap := Nat.min_le_right n cap

section Clamp

variable (pool : Pool)

theorem clamp_hardCaps : pool.clamp.hardCaps = pool.hardCaps := by
  unfold clamp
  dsimp only
  split <;> rfl

theorem clamp_softCaps : pool.clamp.softCaps = pool.softCaps := by
  unfold clamp
  dsimp only
  split <;> rfl

theorem clamp_totalCaps : pool.clamp.totalCaps = pool.totalCaps := by
  unfold clamp
  dsimp only
  split <;> rfl

/-- First each force is brought under its cap, then the total under its own by lowering further. -/
theorem clamp_amount_le_capped (f : Force) :
    pool.clamp.amount f ≤ capped (pool.hardCap? f) (pool.amount f) := by
  have first : (ByForce.ofFn fun f => capped (pool.hardCap? f) (pool.amount f)).get f =
      capped (pool.hardCap? f) (pool.amount f) := ByForce.get_ofFn _ f
  unfold clamp amount
  dsimp only
  split
  · split
    · exact first ▸ get_levelDown_le _ _ f
    · exact Nat.le_of_eq first
  · exact Nat.le_of_eq first

theorem clamp_amount_le (f : Force) : pool.clamp.amount f ≤ pool.amount f :=
  Nat.le_trans (pool.clamp_amount_le_capped f) (capped_le _ _)

theorem clamp_total_le {cap : Nat} (limit : pool.totalCap? = some cap) : pool.clamp.total ≤ cap := by
  unfold clamp total
  rw [limit]
  dsimp only
  split
  · rw [wrappingSum_levelDown]
    exact Nat.min_le_right ..
  · omega

theorem clamp_forcesCapped : pool.clamp.ForcesCapped := by
  intro f cap limit
  rw [hardCap?, clamp_hardCaps] at limit
  refine Nat.le_trans (pool.clamp_amount_le_capped f) ?_
  rw [hardCap?, limit]
  exact capped_some_le cap _

theorem clamp_capped : pool.clamp.Capped := by
  refine ⟨pool.clamp_forcesCapped, fun cap limit => ?_⟩
  rw [totalCap?, clamp_totalCaps] at limit
  exact pool.clamp_total_le limit

end Clamp

section Held

variable {pool pool' : Pool}

/-- Where the caps hold there is nothing to enforce. -/
theorem Capped.clamp_eq_self (held : pool.Capped) : pool.clamp = pool := by
  have within : (ByForce.ofFn fun f => capped (pool.hardCap? f) (pool.amount f)) = pool.amounts := by
    refine ByForce.ext_get fun f => ?_
    rw [ByForce.get_ofFn]
    cases limit : pool.hardCap? f with
    | none => rfl
    | some cap => exact Nat.min_eq_left (held.force f cap limit)
  unfold clamp
  rw [within]
  dsimp only
  split
  · rename_i cap limit
    have fits : ¬ 0 < wrappingSum pool.amounts.toList - cap := by
      have within : wrappingSum pool.amounts.toList ≤ cap := held.total cap limit
      omega
    rw [if_neg fits]
  · rfl

theorem Capped.of_new (initial : List (Force × Nat)) : (new initial).Capped :=
  have free : ∀ f, (new initial).hardCap? f = none := fun f => by cases f <;> rfl
  ⟨fun f _ limit => (Option.some_ne_none _ (limit.symm.trans (free f))).elim,
    fun _ limit => (Option.some_ne_none _ limit.symm).elim⟩

/-- Caps still hold of less. -/
theorem ForcesCapped.lowered (held : pool.ForcesCapped) (hardCaps : pool'.hardCaps = pool.hardCaps)
    (less : ∀ f, pool'.amount f ≤ pool.amount f) : pool'.ForcesCapped := by
  intro f cap limit
  rw [hardCap?, hardCaps] at limit
  exact Nat.le_trans (less f) (held f cap limit)

/-- The sum in 32 bits of less may be more, if what there was did not fit. -/
theorem Capped.lowered (fits : pool.Fits) (held : pool.Capped)
    (hardCaps : pool'.hardCaps = pool.hardCaps) (totalCaps : pool'.totalCaps = pool.totalCaps)
    (less : ∀ f, pool'.amount f ≤ pool.amount f) : pool'.Capped := by
  refine ⟨held.force.lowered hardCaps less, fun cap limit => ?_⟩
  rw [totalCap?, totalCaps] at limit
  calc pool'.total = pool'.amounts.toList.sum := (fits.lowered less).total_eq
    _ ≤ pool.amounts.toList.sum := ByForce.sum_toList_le less
    _ = pool.total := fits.total_eq.symm
    _ ≤ cap := held.total cap limit

/-- What is within a tighter cap is within a looser one. -/
theorem ForcesCapped.loosened (held : pool.ForcesCapped) {change : OverlaySet → OverlaySet}
    (fewer : ∀ set, (change set).values ⊆ set.values) :
    (pool.mapOverlays change).ForcesCapped := by
  intro f cap limit
  rw [hardCap?, mapOverlays, ByForce.get_map] at limit
  obtain ⟨tighter, was, within⟩ := OverlaySet.min?_le_of_subset (fewer _) limit
  exact Nat.le_trans (held f tighter was) within

theorem Capped.loosened (held : pool.Capped) {change : OverlaySet → OverlaySet}
    (fewer : ∀ set, (change set).values ⊆ set.values) : (pool.mapOverlays change).Capped := by
  refine ⟨held.force.loosened fewer, fun cap limit => ?_⟩
  obtain ⟨tighter, was, within⟩ := OverlaySet.min?_le_of_subset (fewer _) limit
  exact Nat.le_trans (held.total tighter was) within

end Held

/-! ### What can be done with a pool -/

/-- What can be done with a pool. -/
inductive Operation where
  | set (f : Force) (n : Nat)
  | gain (f : Force) (n : Nat)
  | drain (f : Force) (n : Nat)
  | spend (f : Force) (n : Nat)
  | installHardCap (f : Force) (overlay : Overlay)
  | installSoftCap (f : Force) (overlay : Overlay)
  | installTotalCap (overlay : Overlay)
  | releasePassive (source : InstanceId)
  | releaseAllPassive
  | releaseSource (source : InstanceId)
  | expire
  | clamp
deriving DecidableEq, Repr

/-- What is told of an operation. -/
inductive Answer where
  | nothing
  | amount (n : Nat)
  | whether (done : Bool)
deriving DecidableEq, Repr

namespace Operation

/-- Does an operation, and tells of it. -/
def run (pool : Pool) : Operation → Pool × Answer
  | set f n => (pool.set f n, .nothing)
  | gain f n => ((pool.gain f n).1, .amount (pool.gain f n).2)
  | drain f n => ((pool.drain f n).1, .amount (pool.drain f n).2)
  | spend f n => ((pool.spend f n).1, .whether (pool.spend f n).2)
  | installHardCap f overlay => (pool.installHardCap f overlay, .nothing)
  | installSoftCap f overlay => (pool.installSoftCap f overlay, .nothing)
  | installTotalCap overlay => (pool.installTotalCap overlay, .nothing)
  | releasePassive source => (pool.releasePassive source, .nothing)
  | releaseAllPassive => (pool.releaseAllPassive, .nothing)
  | releaseSource source => (pool.releaseSource source, .nothing)
  | expire => (pool.expire, .nothing)
  | clamp => (pool.clamp, .nothing)

/-- Whether an operation installs a soft cap. -/
def isSoftCap : Operation → Bool
  | installSoftCap .. => true
  | _ => false

/-- Whether an operation may add to a force. -/
def mayAdd : Operation → Bool
  | set .. | gain .. => true
  | _ => false

end Operation

/-- Does operations in order, and tells of each. -/
def runAll (pool : Pool) : List Operation → Pool × List (Operation × Answer)
  | [] => (pool, [])
  | operation :: rest =>
    let (after, answer) := operation.run pool
    let (last, answers) := runAll after rest
    (last, (operation, answer) :: answers)

theorem amount_drain_same (pool : Pool) (f : Force) (n : Nat) :
    (pool.drain f n).1.amount f = pool.amount f - min n (pool.amount f) :=
  ByForce.get_set_same ..

theorem amount_drain_other (pool : Pool) {f g : Force} (n : Nat) (other : g ≠ f) :
    (pool.drain f n).1.amount g = pool.amount g :=
  ByForce.get_set_other _ _ other

theorem drain_amount_le (pool : Pool) (f g : Force) (n : Nat) :
    (pool.drain f n).1.amount g ≤ pool.amount g := by
  by_cases same : g = f
  · rw [same, amount_drain_same]
    exact Nat.sub_le _ _
  · exact Nat.le_of_eq (pool.amount_drain_other n same)

theorem spend_fst (pool : Pool) (f : Force) (n : Nat) :
    (pool.spend f n).1 = pool ∨ (pool.spend f n).1 = (pool.drain f n).1 := by
  unfold spend
  split
  · exact .inl rfl
  · exact .inr rfl

/-- Nothing but setting and gaining adds to a force. -/
theorem Operation.run_amount_le {operation : Operation} (still : operation.mayAdd = false)
    (pool : Pool) (f : Force) : (operation.run pool).1.amount f ≤ pool.amount f := by
  cases operation with
  | set | gain => cases still
  | drain g n => exact pool.drain_amount_le g f n
  | spend g n =>
    rcases pool.spend_fst g n with same | drained
    · exact Nat.le_of_eq (congrArg (amount · f) same)
    · exact Nat.le_trans (Nat.le_of_eq (congrArg (amount · f) drained)) (pool.drain_amount_le g f n)
  | installHardCap | installTotalCap | clamp => exact clamp_amount_le _ f
  | installSoftCap | releasePassive | releaseAllPassive | releaseSource | expire =>
    exact Nat.le_refl _

/-- What an operation comes to for the caps: it enforces them, it leaves them and lowers amounts, or
it drops some of them. -/
inductive Operated (pool : Pool) : Pool → Prop
  | enforced (changed : Pool) : Operated pool changed.clamp
  | lowered {after : Pool} (hardCaps : after.hardCaps = pool.hardCaps)
      (totalCaps : after.totalCaps = pool.totalCaps)
      (less : ∀ f, after.amount f ≤ pool.amount f) : Operated pool after
  | loosened {change : OverlaySet → OverlaySet}
      (fewer : ∀ set, (change set).values ⊆ set.values) : Operated pool (pool.mapOverlays change)

theorem Operation.run_operated (operation : Operation) (pool : Pool) :
    Operated pool (operation.run pool).1 := by
  cases operation with
  | set | gain | installHardCap | installTotalCap | clamp => exact .enforced _
  | drain f n => exact .lowered rfl rfl fun g => pool.drain_amount_le f g n
  | spend f n =>
    have spent : Operated pool (pool.spend f n).1 := by
      rcases pool.spend_fst f n with same | drained
      · rw [same]
        exact .lowered rfl rfl fun g => Nat.le_refl _
      · rw [drained]
        exact .lowered rfl rfl fun g => pool.drain_amount_le f g n
    exact spent
  | installSoftCap => exact .lowered rfl rfl fun g => Nat.le_refl _
  | releasePassive | releaseAllPassive | releaseSource =>
    exact .loosened fun set => set.values_filter_subset _
  | expire => exact .loosened fun set => set.values_expire_subset

section Operated

variable {pool pool' : Pool}

theorem ForcesCapped.operated (held : pool.ForcesCapped) (operated : Operated pool pool') :
    pool'.ForcesCapped := by
  cases operated with
  | enforced changed => exact changed.clamp_forcesCapped
  | lowered hardCaps _ less => exact held.lowered hardCaps less
  | loosened fewer => exact held.loosened fewer

theorem Capped.operated (fits : pool.Fits) (held : pool.Capped) (operated : Operated pool pool') :
    pool'.Capped := by
  cases operated with
  | enforced changed => exact changed.clamp_capped
  | lowered hardCaps totalCaps less => exact held.lowered fits hardCaps totalCaps less
  | loosened fewer => exact held.loosened fewer

end Operated

/-- By induction on the operations. -/
theorem runAll_forcesCapped {pool : Pool} (held : pool.ForcesCapped)
    (operations : List Operation) : (pool.runAll operations).1.ForcesCapped := by
  induction operations generalizing pool with
  | nil => exact held
  | cons operation rest ih => exact ih (held.operated (operation.run_operated pool))

/-- The amounts fit before the operations and after each of them. -/
def FitsThroughout (pool : Pool) : List Operation → Prop
  | [] => pool.Fits
  | operation :: rest => pool.Fits ∧ FitsThroughout (operation.run pool).1 rest

instance decidableFitsThroughout : (pool : Pool) → (operations : List Operation) →
    Decidable (pool.FitsThroughout operations)
  | pool, [] => inferInstanceAs (Decidable pool.Fits)
  | pool, operation :: rest =>
    have := decidableFitsThroughout (operation.run pool).1 rest
    inferInstanceAs (Decidable (pool.Fits ∧ _))

theorem FitsThroughout.last {pool : Pool} {operations : List Operation}
    (fits : pool.FitsThroughout operations) : (pool.runAll operations).1.Fits := by
  induction operations generalizing pool with
  | nil => exact fits
  | cons operation rest ih => exact ih fits.2

theorem runAll_capped {pool : Pool} {operations : List Operation}
    (fits : pool.FitsThroughout operations) (held : pool.Capped) :
    (pool.runAll operations).1.Capped := by
  induction operations generalizing pool with
  | nil => exact held
  | cons operation rest ih => exact ih fits.2 (held.operated fits.1 (operation.run_operated pool))

/-! ### Soft caps -/

/-- The pool without its soft caps. -/
def hardened (pool : Pool) : Pool := { pool with softCaps := .const {} }

theorem clamp_hardened (pool : Pool) : pool.hardened.clamp = pool.clamp.hardened := by
  have limit : pool.hardened.totalCap? = pool.totalCap? := rfl
  have hard : pool.hardened.hardCap? = pool.hardCap? := rfl
  have amount : pool.hardened.amount = pool.amount := rfl
  unfold clamp
  dsimp only
  rw [limit, hard, amount]
  split <;> rfl

/-- Operations do to the rest of a pool what they do without its soft caps. -/
theorem Operation.run_hardened {operation : Operation} (hard : operation.isSoftCap = false)
    (pool : Pool) : operation.run pool.hardened =
      ((operation.run pool).1.hardened, (operation.run pool).2) := by
  have set : ∀ f n, pool.hardened.set f n = (pool.set f n).hardened := fun f n =>
    clamp_hardened { pool with amounts := pool.amounts.set f n }
  cases operation with
  | installSoftCap => cases hard
  | set f n => exact congrArg (·, Answer.nothing) (set f n)
  | gain f n =>
    have gained : pool.hardened.gain f n = ((pool.gain f n).1.hardened, (pool.gain f n).2) := by
      unfold Pool.gain
      dsimp only
      rw [show pool.hardened.amount f = pool.amount f from rfl, set]
      rfl
    rw [run, gained]
    rfl
  | drain => rfl
  | spend f n =>
    have spent : pool.hardened.spend f n = ((pool.spend f n).1.hardened, (pool.spend f n).2) := by
      unfold Pool.spend
      rw [show pool.hardened.amount f = pool.amount f from rfl]
      split <;> rfl
    rw [run, spent]
    rfl
  | installHardCap f overlay =>
    exact congrArg (·, Answer.nothing)
      (clamp_hardened { pool with hardCaps := pool.hardCaps.modify f (·.install overlay) })
  | installTotalCap overlay =>
    exact congrArg (·, Answer.nothing)
      (clamp_hardened { pool with totalCaps := pool.totalCaps.install overlay })
  | clamp => exact congrArg (·, Answer.nothing) pool.clamp_hardened
  | releasePassive | releaseAllPassive | releaseSource | expire => rfl

theorem Operation.hardened_run {operation : Operation} (soft : operation.isSoftCap = true)
    (pool : Pool) : (operation.run pool).1.hardened = pool.hardened := by
  cases operation <;> first | rfl | cases soft

/-- Without the operations that install soft caps, everything else goes the same way. -/
theorem runAll_filter_hardened (pool : Pool) (operations : List Operation) :
    pool.hardened.runAll (operations.filter (!·.isSoftCap)) =
      ((pool.runAll operations).1.hardened,
        (pool.runAll operations).2.filter (!·.1.isSoftCap)) := by
  induction operations generalizing pool with
  | nil => rfl
  | cons operation rest ih =>
    cases soft : operation.isSoftCap with
    | true =>
      -- the run without it goes on from the same pool, soft caps apart
      rw [List.filter_cons_of_neg (by simp [soft]), ← operation.hardened_run soft, ih]
      simp [runAll, soft]
    | false =>
      rw [List.filter_cons_of_pos (by simp [soft])]
      simp only [runAll]
      rw [operation.run_hardened soft, ih]
      simp [soft]

/-! ### Every pool that operations lead to -/

/-- Whatever is done with a pool, the hard caps of its forces hold; if the amounts fit throughout, the
cap of the total does too and there is nothing left to enforce. Without the soft caps the amounts and
the answers are the same; and of what can be done next, only setting and gaining may add to a
force. -/
theorem hard_caps_hold (initial : List (Force × Nat)) (operations : List Operation) :
    let pool := ((new initial).runAll operations).1
    let answers := ((new initial).runAll operations).2
    let hardOnly := (new initial).runAll (operations.filter (!·.isSoftCap))
    (∀ f cap, pool.hardCap? f = some cap → pool.amount f ≤ cap) ∧
      ((new initial).FitsThroughout operations →
        (∀ cap, pool.totalCap? = some cap → pool.amounts.toList.sum ≤ cap) ∧
          pool.total = pool.amounts.toList.sum ∧ pool.clamp = pool) ∧
      (hardOnly.1.amounts = pool.amounts ∧ hardOnly.2 = answers.filter (!·.1.isSoftCap)) ∧
      ∀ operation : Operation, operation.mayAdd = false →
        ∀ f, (operation.run pool).1.amount f ≤ pool.amount f := by
  have soft := runAll_filter_hardened (new initial) operations
  refine ⟨runAll_forcesCapped (Capped.of_new initial).force operations, fun fits => ?_,
    ⟨?_, ?_⟩, ?_⟩
  · have held := runAll_capped fits (.of_new initial)
    have total := fits.last.total_eq
    exact ⟨total ▸ held.total, total, held.clamp_eq_self⟩
  · exact congrArg (·.1.amounts) soft
  · exact congrArg (·.2) soft
  · intro operation still f
    exact operation.run_amount_le still _ f

/-- A cap on heat makes room under the cap of the total, which holds on after a drain. -/
theorem hard_caps_hold_drained :
    let operations : List Operation := [.installHardCap .heat ⟨10, .permanent, none⟩,
      .installTotalCap ⟨17, .permanent, none⟩, .drain .precision 4]
    (new [(.heat, 40), (.precision, 7)]).FitsThroughout operations ∧
      ((new [(.heat, 40), (.precision, 7)]).runAll operations).1.amounts = ⟨10, 3, 0, 0, 0⟩ ∧
      ((new [(.heat, 40), (.precision, 7)]).runAll operations).1.amounts.toList.sum ≤ 17 := by
  intro operations
  have fits : (new [(.heat, 40), (.precision, 7)]).FitsThroughout operations := by decide
  obtain ⟨_, total, _⟩ := hard_caps_hold [(.heat, 40), (.precision, 7)] operations
  exact ⟨fits, by decide, (total fits).1 17 (by decide)⟩

end Pool

end Gremlin
