import Gremlin.Proofs.Encounter.Alterations

set_option autoImplicit false

/-!
The pool of a fight is changed by operations of pools alone, and only what the player gains adds to
it. So the hard caps of the forces hold in every encounter that a fight can come to, and the cap of
the total in those where the amounts have fitted all along.
-/

namespace Gremlin

namespace Pool

/-- Operations that add to no force make the second pool of the first. -/
def LeadsTo (pool pool' : Pool) : Prop :=
  ∃ operations : List Operation, (∀ operation ∈ operations, operation.mayAdd = false) ∧
    (pool.runAll operations).1 = pool'

theorem FitsThroughout.of_still {pool : Pool} {operations : List Operation} (fits : pool.Fits)
    (still : ∀ operation ∈ operations, operation.mayAdd = false) :
    pool.FitsThroughout operations := by
  induction operations generalizing pool with
  | nil => exact fits
  | cons operation rest ih =>
    obtain ⟨first, others⟩ := List.forall_mem_cons.mp still
    exact ⟨fits, ih (fits.lowered (operation.run_amount_le first pool)) others⟩

namespace LeadsTo

variable {pool pool' pool'' : Pool}

theorem refl (pool : Pool) : pool.LeadsTo pool := ⟨[], List.forall_mem_nil _, rfl⟩

theorem operation (pool : Pool) (operation : Operation) (still : operation.mayAdd = false) :
    pool.LeadsTo (operation.run pool).1 := ⟨[operation], List.forall_mem_singleton.mpr still, rfl⟩

theorem trans (first : pool.LeadsTo pool') (second : pool'.LeadsTo pool'') :
    pool.LeadsTo pool'' := by
  obtain ⟨operations, still, rfl⟩ := first
  obtain ⟨later, still', rfl⟩ := second
  refine ⟨operations ++ later, List.forall_mem_append.mpr ⟨still, still'⟩, ?_⟩
  clear still still'
  induction operations generalizing pool with
  | nil => rfl
  | cons operation rest ih => exact ih

theorem fits (leads : pool.LeadsTo pool') (fits : pool.Fits) : pool'.Fits := by
  obtain ⟨operations, still, rfl⟩ := leads
  exact (FitsThroughout.of_still fits still).last

theorem capped (leads : pool.LeadsTo pool') (fits : pool.Fits) (held : pool.Capped) :
    pool'.Capped := by
  obtain ⟨operations, still, rfl⟩ := leads
  exact runAll_capped (.of_still fits still) held

end LeadsTo

end Pool

namespace Encounter

open Pool (LeadsTo)

section Calls

variable {s s' : Encounter} {id : InstanceId}

/-! ### Effects -/

theorem takeForce_pool (event : Force → Nat → Event) (amount : Nat) (s : Encounter) (f : Force) :
    s.pool.LeadsTo (takeForce event amount s f).pool := by
  rw [takeForce_eq]
  exact .operation _ (.drain f amount) rfl

theorem Deed.pool (deed : Deed s s') : s.pool.LeadsTo s'.pool := by
  cases deed with
  | drain _ amount f | decay _ amount f => exact takeForce_pool ..
  | hardCap overlay f => exact .operation _ (.installHardCap f overlay) rfl
  | softCap overlay f => exact .operation _ (.installSoftCap f overlay) rfl
  | totalCap overlay => exact .operation _ (.installTotalCap overlay) rfl
  | release id => exact .operation _ (.releaseSource id) rfl
  | remember source _ _ => cases source <;> exact .refl _
  | draw | notify | pressure | armor | shields | reflect | request | reinstated | blocked =>
    exact .refl _

theorem Arrival.pool (arrival : Arrival s s') : s.pool.LeadsTo s'.pool := by
  cases arrival <;> exact .refl _

theorem Effected.pool (effected : Effected s s') : s.pool.LeadsTo s'.pool := by
  induction effected with
  | refl => exact .refl _
  | tail _ last so_far =>
    rcases last with deed | arrival
    · exact so_far.trans deed.pool
    · exact so_far.trans arrival.pool

theorem applyEffects_pool {source : Option InstanceId} {duration : Duration}
    {effects : List Effect} (success : s.applyEffects source duration effects = .ok s') :
    s.pool.LeadsTo s'.pool :=
  (applyEffects_effected success).pool

/-! ### Turns and burials -/

theorem foldlM_pool {α : Type} {act : Encounter → α → Except EncounterError Encounter}
    (each : ∀ {s argument s'}, act s argument = .ok s' → s.pool.LeadsTo s'.pool)
    {arguments : List α} (success : arguments.foldlM act s = .ok s') : s.pool.LeadsTo s'.pool :=
  foldlM_preserves (motive := fun after => s.pool.LeadsTo after.pool) arguments
    (fun _ _ _ _ so_far stepped => so_far.trans (each stepped)) (.refl _) success

theorem holdMove_pool (success : s.holdMove id = .ok s') : s.pool.LeadsTo s'.pool := by
  cases holdMove_holdsMove success with
  | lifeless | active => exact .refl _
  | passive gremlin move _ found alive passive done =>
    have leads := applyEffects_pool done
    exact leads

theorem fireMove_pool (success : s.fireMove id = .ok s') : s.pool.LeadsTo s'.pool := by
  cases fireMove_firesMove success with
  | lifeless | waits => exact .refl _
  | fires gremlin move _ found alive current due done =>
    have leads := applyEffects_pool done
    exact leads

theorem enterMove_pool {index : Nat} (success : s.enterMove id index = .ok s') :
    s.pool.LeadsTo s'.pool := by
  have released : s.pool.LeadsTo (s.pool.releasePassive id) :=
    .operation _ (.releasePassive id) rfl
  cases enterMove_entersMove success with
  | absent => exact released
  | enters gremlin _ found done => exact released.trans (enterPassive_effected done).pool

theorem changeMove_pool (success : s.changeMove id = .ok s') : s.pool.LeadsTo s'.pool := by
  cases changeMove_changesMove success with
  | lifeless | stays => exact .refl _
  | enters gremlin index _ found alive next done =>
    have leads := enterMove_pool done
    exact leads

theorem bury_pool (success : s.bury id = .ok s') : s.pool.LeadsTo s'.pool := by
  rcases bury_eq_ok success with ⟨_, rfl⟩ | ⟨gremlin, after, _, effects, rfl⟩
  · exact .refl _
  · have released : after.pool.LeadsTo (after.pool.releasePassive id) :=
      .operation _ (.releasePassive id) rfl
    exact (applyEffects_pool effects).trans released

theorem terminate_pool (s : Encounter) : s.pool.LeadsTo s.terminate.pool := by
  unfold terminate
  split <;> exact .refl _

theorem pruneDead_pool (success : s.pruneDead = .ok s') : s.pool.LeadsTo s'.pool := by
  obtain ⟨after, burials, ended⟩ := bind_eq_ok.mp success
  have buried : s.pool.LeadsTo after.pool := foldlM_pool bury_pool burials
  cases ended
  split
  · exact buried.trans after.terminate_pool
  · exact buried

theorem Ensues.pool {told : Encounter} {killed : Bool} (ensues : Ensues told killed s') :
    told.pool.LeadsTo s'.pool := by
  cases ensues with
  | burial _ prunes => exact pruneDead_pool prunes
  | nothing _ same => exact same ▸ .refl _

theorem advance_pool (success : s.advance = .ok s') : s.pool.LeadsTo s'.pool := by
  obtain ⟨_, held, fired, changed, holds, fires, changes, prunes⟩ := advance_eq_ok success
  have lifted : s.pool.LeadsTo s.pool.releaseAllPassive := .operation _ .releaseAllPassive rfl
  have holding : s.pool.releaseAllPassive.LeadsTo held.pool := foldlM_pool holdMove_pool holds
  have firing : held.pool.LeadsTo fired.pool := foldlM_pool fireMove_pool fires
  have changing : fired.pool.LeadsTo changed.pool := foldlM_pool changeMove_pool changes
  have expiring : changed.pool.LeadsTo changed.pool.expire := .operation _ .expire rfl
  exact ((((lifted.trans holding).trans firing).trans changing).trans expiring).trans
    (pruneDead_pool prunes)

/-! ### Operations -/

theorem spawn_pool {templateId : String} {joined : InstanceId}
    (success : s.spawn templateId = .ok (s', joined)) : s.pool.LeadsTo s'.pool :=
  (spawn_effected success).pool

/-- Nothing adds to the player's forces but a gain. -/
theorem Operation.pool {operation : Operation} (success : operation.run s = .ok s') :
    s.pool.LeadsTo s'.pool ∨ ∃ f n, s'.pool = (s.pool.gain f n).1 := by
  cases operation with
  | spawn templateId =>
    obtain ⟨joined, spawned⟩ := map_fst_eq_ok.mp success
    exact .inl (spawn_pool spawned)
  | effect source duration given => exact .inl (applyEffect_effected success).pool
  | gain f n =>
    cases success
    exact .inr ⟨f, n, rfl⟩
  | spend f n =>
    cases success
    exact .inl (.operation _ (.spend f n) rfl)
  | hit id given =>
    obtain ⟨gremlin, _, ensues⟩ := Operation.run_hit_eq_ok success
    exact .inl ensues.pool
  | execute id =>
    obtain ⟨gremlin, _, ensues⟩ := Operation.run_execute_eq_ok success
    exact .inl ensues.pool
  | heal id amount =>
    obtain ⟨_, _, rfl⟩ := heal_eq_ok success
    exact .inl (.refl _)
  | terminate =>
    cases success
    exact .inl s.terminate_pool
  | advance => exact .inl (advance_pool success)
  | observe _ | notify _ | reseed _ | nest _ =>
    cases success
    exact .inl (.refl _)

end Calls

/-! ### Every encounter -/

theorem foldl_set_capped (amounts : List (Force × Nat)) {pool : Pool} (held : pool.Capped) :
    (amounts.foldl (fun pool entry => pool.set entry.1 entry.2) pool).Capped := by
  induction amounts generalizing pool with
  | nil => exact held
  | cons entry rest ih => exact ih (Pool.clamp_capped _)

theorem laidOut_capped (scenario : Scenario) (bestiary : Bestiary) (amounts : List (Force × Nat)) :
    (laidOut scenario bestiary amounts).pool.Capped :=
  foldl_set_capped amounts (.of_new [])

theorem ofScenario_pool {scenario : Scenario} {bestiary : Bestiary} {s : Encounter}
    (success : ofScenario scenario bestiary = .ok s) :
    ∃ amounts, readResources scenario.resources = .ok amounts ∧
      (laidOut scenario bestiary amounts).pool.LeadsTo s.pool := by
  obtain ⟨_, _, _, amounts, given, spawns⟩ := ofScenario_eq_ok success
  refine ⟨amounts, given, foldlM_pool (fun success => ?_) spawns⟩
  obtain ⟨joined, spawned⟩ := map_fst_eq_ok.mp success
  exact spawn_pool spawned

/-- The encounters over a bestiary that a fight can come to while the amounts of the forces, at the
start and after each operation, add up in 32 bits. -/
inductive FitsSoFar (bestiary : Bestiary) : Encounter → Prop
  | fresh (seed : Nat) : FitsSoFar bestiary (new bestiary seed)
  | arranged {scenario : Scenario} {amounts : List (Force × Nat)} {s : Encounter}
      (given : readResources scenario.resources = .ok amounts)
      (fits : (laidOut scenario bestiary amounts).pool.Fits)
      (success : ofScenario scenario bestiary = .ok s) : FitsSoFar bestiary s
  | step {s s' : Encounter} (so_far : FitsSoFar bestiary s) (operation : Operation)
      (success : operation.run s = .ok s') (fits : s'.pool.Fits) : FitsSoFar bestiary s'

theorem FitsSoFar.capped {bestiary : Bestiary} {s : Encounter}
    (fitted : FitsSoFar bestiary s) : s.pool.Fits ∧ s.pool.Capped := by
  induction fitted with
  | fresh seed =>
    have none : (Pool.new []).Fits := by decide
    exact ⟨none, .of_new []⟩
  | @arranged scenario amounts s given fits success =>
    obtain ⟨amounts', given', leads⟩ := ofScenario_pool success
    obtain rfl : amounts = amounts' := Except.ok.inj (given.symm.trans given')
    exact ⟨leads.fits fits, leads.capped fits (laidOut_capped _ _ amounts)⟩
  | step _ operation success fits held =>
    refine ⟨fits, ?_⟩
    rcases Operation.pool success with leads | ⟨f, n, gained⟩
    · exact leads.capped held.1 held.2
    · rw [gained]
      exact Pool.clamp_capped _

end Encounter

end Gremlin
