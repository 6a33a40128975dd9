import Gremlin.Proofs.Encounter.Reach

set_option autoImplicit false

/-!
Scripts as operations: what a scripted action does can be done from outside, one operation after
another. Which operations these are depends on the board they find.
-/

namespace Gremlin

/-- Whether a scripted action can cost anyone its life. -/
def ScriptedAction.isBlow : ScriptedAction → Bool
  | hit .. | execute _ => true
  | _ => false

namespace Encounter

/-- A failure that does not end a run is told to the listeners. -/
theorem report_eq_ok {s s' : Encounter} {reason : EncounterError} :
    s.report reason = .ok s' ↔ reason ≠ .endlessSummons ∧ s.notify (.failed reason) = s' := by
  unfold report
  by_cases endless : reason = .endlessSummons
  · rw [if_pos endless]
    exact iff_of_false (fun failed => by cases failed) fun both => both.1 endless
  · rw [if_neg endless, Except.ok.injEq, and_iff_right endless]

/-! ### What scripted actions come to -/

/-- Hitting gremlins in order. -/
def hitOperations (hit : Hit) (force : Option Force) :
    List InstanceId → Encounter → List Operation
  | [], _ => []
  | id :: rest, s =>
    if (s.board.get? id).any (·.isAlive) then
      match s.applyHit id hit with
      | .ok (s, outcome) =>
        .hit id hit :: .observe (.damage force outcome.applied) ::
          hitOperations hit force rest (s.observe (.damage force outcome.applied))
      | .error reason => [.notify (.failed reason)]
    else hitOperations hit force rest s

/-- Executing gremlins in order. -/
def executeOperations : List InstanceId → Encounter → List Operation
  | [], _ => []
  | id :: rest, s =>
    .observe .executionAttempt ::
      match (s.observe .executionAttempt).execute id with
      | .ok (s, _) => .execute id :: executeOperations rest s
      | .error reason => [.notify (.failed reason)]

/-- Healing gremlins in order. -/
def healOperations (amount : Nat) : List InstanceId → Encounter → List Operation
  | [], _ => []
  | id :: rest, s =>
    match s.heal id amount with
    | .ok s => .heal id amount :: healOperations amount rest s
    | .error reason => [.notify (.failed reason)]

/-- Warning of a target that stands for nobody. -/
def warning (s : Encounter) (target : String) : List Operation :=
  if (s.targets target).isEmpty then [.notify (.noTarget target s.now)] else []

/-- What a scripted action comes to, apart from telling of it. -/
def steps (s : Encounter) : ScriptedAction → List Operation
  | .gain force amount => [.gain force amount]
  | .spend force amount =>
    .spend force amount ::
      if (s.spend force amount).2 then [] else [.notify (.unableToSpend amount force)]
  | .hit target damage pierce force =>
    s.warning target ++
      hitOperations ⟨damage, pierce⟩ force (s.targets target) (s.warnIfNone target)
  | .execute target =>
    s.warning target ++ executeOperations (s.targets target) (s.warnIfNone target)
  | .heal target amount =>
    s.warning target ++ healOperations amount (s.targets target) (s.warnIfNone target)
  | .playCard => [.observe .cardPlayed]
  | .observe action => [.observe action]

/-- The operations that a scripted action comes to. -/
def operations (s : Encounter) (action : ScriptedAction) : List Operation :=
  .notify (.scripted action) :: (s.notify (.scripted action)).steps action

/-- Whether a script can come to an operation. -/
def Operation.isScripted : Operation → Bool
  | gain _ _ | spend _ _ | hit _ _ | execute _ | heal _ _ | observe _ | notify _ => true
  | spawn _ | effect _ _ _ | terminate | advance | reseed _ | nest _ => false

theorem Operation.ne_advance_of_isScripted {operation : Operation}
    (scripted : operation.isScripted = true) : operation ≠ .advance := by
  rintro rfl
  cases scripted

/-- Whether an operation can cost anyone its life. -/
def Operation.isBlow : Operation → Bool
  | hit _ _ | execute _ => true
  | _ => false

theorem Operation.victim_of_not_blow {operation : Operation} (harmless : operation.isBlow = false)
    (s : Encounter) : operation.victim s = none := by
  cases operation with
  | hit | execute => cases harmless
  | spawn | effect | gain | spend | heal | observe | notify | terminate | advance | reseed | nest =>
    rfl

section Operations

variable {motive : Operation → Prop} (tells : ∀ notice, motive (.notify notice))
  (sees : ∀ action, motive (.observe action))

include tells

theorem forall_mem_healOperations {amount : Nat} (heals : ∀ id, motive (.heal id amount))
    (ids : List InstanceId) (s : Encounter) :
    ∀ operation ∈ healOperations amount ids s, motive operation := by
  induction ids generalizing s with
  | nil => exact List.forall_mem_nil _
  | cons id rest ih =>
    rw [healOperations]
    split
    · exact List.forall_mem_cons.mpr ⟨heals id, ih _⟩
    · exact List.forall_mem_singleton.mpr (tells _)

include sees

theorem forall_mem_hitOperations {hit : Hit} (hits : ∀ id, motive (.hit id hit))
    (force : Option Force) (ids : List InstanceId) (s : Encounter) :
    ∀ operation ∈ hitOperations hit force ids s, motive operation := by
  induction ids generalizing s with
  | nil => exact List.forall_mem_nil _
  | cons id rest ih =>
    rw [hitOperations]
    split
    · split
      · exact List.forall_mem_cons.mpr ⟨hits id, List.forall_mem_cons.mpr ⟨sees _, ih _⟩⟩
      · exact List.forall_mem_singleton.mpr (tells _)
    · exact ih s

theorem forall_mem_executeOperations (executes : ∀ id, motive (.execute id))
    (ids : List InstanceId) (s : Encounter) :
    ∀ operation ∈ executeOperations ids s, motive operation := by
  induction ids generalizing s with
  | nil => exact List.forall_mem_nil _
  | cons id rest ih =>
    rw [executeOperations]
    refine List.forall_mem_cons.mpr ⟨sees _, ?_⟩
    split
    · exact List.forall_mem_cons.mpr ⟨executes id, ih _⟩
    · exact List.forall_mem_singleton.mpr (tells _)

/-- What holds of the operations that a script can come to holds of those that an action comes
to; blows among them come of blows alone. -/
theorem forall_mem_operations (gains : ∀ force amount, motive (.gain force amount))
    (spends : ∀ force amount, motive (.spend force amount))
    (heals : ∀ id amount, motive (.heal id amount)) (s : Encounter) {action : ScriptedAction}
    (blows : action.isBlow = true → (∀ id given, motive (.hit id given)) ∧
      ∀ id, motive (.execute id)) :
    ∀ operation ∈ s.operations action, motive operation := by
  refine List.forall_mem_cons.mpr ⟨tells _, ?_⟩
  generalize s.notify (.scripted action) = told
  have warned : ∀ (target : String) {rest : List Operation},
      (∀ operation ∈ rest, motive operation) →
      ∀ operation ∈ told.warning target ++ rest, motive operation := by
    intro target rest holds
    refine List.forall_mem_append.mpr ⟨?_, holds⟩
    unfold warning
    split
    · exact List.forall_mem_singleton.mpr (tells _)
    · exact List.forall_mem_nil _
  cases action with
  | gain force amount => exact List.forall_mem_singleton.mpr (gains force amount)
  | spend force amount =>
    refine List.forall_mem_cons.mpr ⟨spends force amount, ?_⟩
    split
    · exact List.forall_mem_nil _
    · exact List.forall_mem_singleton.mpr (tells _)
  | hit target damage pierce force =>
    exact warned target
      (forall_mem_hitOperations tells sees (fun id => (blows rfl).1 id _) force _ _)
  | execute target =>
    exact warned target (forall_mem_executeOperations tells sees (blows rfl).2 _ _)
  | heal target amount =>
    exact warned target (forall_mem_healOperations tells (fun id => heals id amount) _ _)
  | playCard => exact List.forall_mem_singleton.mpr (sees _)
  | observe action => exact List.forall_mem_singleton.mpr (sees action)

end Operations

theorem operations_scripted (s : Encounter) (action : ScriptedAction) :
    ∀ operation ∈ s.operations action, operation.isScripted = true :=
  forall_mem_operations (fun _ => rfl) (fun _ => rfl) (fun _ _ => rfl) (fun _ _ => rfl)
    (fun _ _ => rfl) s fun _ => ⟨fun _ _ => rfl, fun _ => rfl⟩

/-- A scripted action that is no blow comes to none. -/
theorem operations_harmless (s : Encounter) {action : ScriptedAction}
    (harmless : action.isBlow = false) :
    ∀ operation ∈ s.operations action, operation.isBlow = false := by
  refine forall_mem_operations (fun _ => rfl) (fun _ => rfl) (fun _ _ => rfl) (fun _ _ => rfl)
    (fun _ _ => rfl) s fun blow => ?_
  rw [harmless] at blow
  cases blow

section Perform

variable {s s' : Encounter}

theorem hitEach_runs {hit : Hit} {force : Option Force} {ids : List InstanceId}
    (success : hitEach hit force ids s = .ok s') :
    Operation.runAll s (hitOperations hit force ids s) = .ok s' := by
  induction ids generalizing s with
  | nil => exact success
  | cons id rest ih =>
    rw [hitEach] at success
    rw [hitOperations]
    split at success
    · rename_i alive
      rw [if_pos alive]
      cases struck : s.applyHit id hit with
      | ok result =>
        obtain ⟨after, outcome⟩ := result
        rw [struck] at success
        have ran : (Operation.hit id hit).run s = .ok after := map_fst_eq_ok.mpr ⟨outcome, struck⟩
        exact Operation.runAll_cons.mpr ⟨after, ran, Operation.runAll_cons.mpr ⟨_, rfl, ih success⟩⟩
      | error reason =>
        rw [struck] at success
        obtain ⟨_, rfl⟩ := report_eq_ok.mp success
        rfl
    · rename_i gone
      rw [if_neg gone]
      exact ih success

theorem executeEach_runs {ids : List InstanceId} (success : executeEach ids s = .ok s') :
    Operation.runAll s (executeOperations ids s) = .ok s' := by
  induction ids generalizing s with
  | nil => exact success
  | cons id rest ih =>
    rw [executeEach] at success
    rw [executeOperations]
    refine Operation.runAll_cons.mpr ⟨s.observe .executionAttempt, rfl, ?_⟩
    cases struck : (s.observe .executionAttempt).execute id with
    | ok result =>
      obtain ⟨after, landed⟩ := result
      rw [struck] at success
      have ran : (Operation.execute id).run (s.observe .executionAttempt) = .ok after :=
        map_fst_eq_ok.mpr ⟨landed, struck⟩
      exact Operation.runAll_cons.mpr ⟨after, ran, ih success⟩
    | error reason =>
      rw [struck] at success
      obtain ⟨_, rfl⟩ := report_eq_ok.mp success
      rfl

theorem healEach_runs {amount : Nat} {ids : List InstanceId}
    (success : healEach amount ids s = .ok s') :
    Operation.runAll s (healOperations amount ids s) = .ok s' := by
  induction ids generalizing s with
  | nil => exact success
  | cons id rest ih =>
    rw [healEach] at success
    rw [healOperations]
    cases healed : s.heal id amount with
    | ok after =>
      rw [healed] at success
      exact Operation.runAll_cons.mpr ⟨after, healed, ih success⟩
    | error reason =>
      rw [healed] at success
      obtain ⟨_, rfl⟩ := report_eq_ok.mp success
      rfl

theorem warning_runs (s : Encounter) (target : String) :
    Operation.runAll s (s.warning target) = .ok (s.warnIfNone target) := by
  unfold warning warnIfNone
  split <;> rfl

/-- A scripted action does what its operations do. -/
theorem perform_runs {action : ScriptedAction} (success : s.perform action = .ok s') :
    Operation.runAll s (s.operations action) = .ok s' := by
  refine Operation.runAll_cons.mpr ⟨s.notify (.scripted action), rfl, ?_⟩
  unfold perform at success
  generalize s.notify (.scripted action) = told at success
  have warned : ∀ (target : String) {rest : List Operation},
      Operation.runAll (told.warnIfNone target) rest = .ok s' →
      Operation.runAll told (told.warning target ++ rest) = .ok s' :=
    fun target _ ran => Operation.runAll_append.mpr ⟨_, told.warning_runs target, ran⟩
  cases action with
  | gain force amount => exact success
  | spend force amount =>
    refine Operation.runAll_cons.mpr ⟨_, rfl, ?_⟩
    rw [← success]
    dsimp only
    split <;> rfl
  | hit target damage pierce force => exact warned target (hitEach_runs success)
  | execute target => exact warned target (executeEach_runs success)
  | heal target amount => exact warned target (healEach_runs success)
  | playCard => exact success
  | observe action => exact success

end Perform

end Encounter

end Gremlin
