import Gremlin.Encounter.Run
import Gremlin.Proofs.Encounter.Unfolding

set_option autoImplicit false

/-!
What can fail in the middle of a fight. Effects, ticks, scripts and whole runs fail in no other way
than by summons that open one another without end: whatever else is refused is told to the
listeners, and a run does not ask a stopped clock for a tick.
-/

namespace Gremlin

namespace Encounter

/-- Something fails in no other way than by summons without end. -/
structure AtMostEndless {α : Type} (result : Except EncounterError α) : Prop where
  only : ∀ reason, result = .error reason → reason = .endlessSummons

namespace AtMostEndless

variable {α β : Type}

theorem ok (value : α) : AtMostEndless (.ok value) := by
  refine ⟨fun reason failed => ?_⟩
  cases failed

theorem endless : AtMostEndless (.error .endlessSummons : Except EncounterError α) := by
  refine ⟨fun reason failed => ?_⟩
  cases failed
  rfl

theorem bind {first : Except EncounterError α} {next : α → Except EncounterError β}
    (early : AtMostEndless first) (late : ∀ value, AtMostEndless (next value)) :
    AtMostEndless (first >>= next) := by
  refine ⟨fun reason failed => ?_⟩
  cases ran : first with
  | error other =>
    rw [ran] at failed
    cases failed
    exact early.only reason ran
  | ok value =>
    rw [ran] at failed
    exact (late value).only reason failed

theorem map {first : Except EncounterError α} {f : α → β} (early : AtMostEndless first) :
    AtMostEndless (first.map f) := by
  refine ⟨fun reason failed => ?_⟩
  cases ran : first with
  | error other =>
    rw [ran] at failed
    cases failed
    exact early.only reason ran
  | ok value =>
    rw [ran] at failed
    cases failed

theorem foldlM {step : β → α → Except EncounterError β}
    (each : ∀ state argument, AtMostEndless (step state argument)) (steps : List α) (start : β) :
    AtMostEndless (steps.foldlM step start) := by
  refine ⟨fun reason failed => ?_⟩
  obtain ⟨state, argument, _, stepped⟩ := exists_of_foldlM_eq_error failed
  exact (each state argument).only reason stepped

end AtMostEndless

/-! ### Effects -/

theorem applyWith_atMostEndless
    {enter : InstanceId → Encounter → Except EncounterError Encounter}
    (opens : ∀ id s, AtMostEndless (enter id s)) (source : Option InstanceId) (duration : Duration)
    (s : Encounter) (effect : Effect) : AtMostEndless (s.applyWith enter source duration effect) := by
  unfold applyWith
  split
  · rename_i spec
    have way := summon_summoning enter source spec s
    generalize s.summon enter source spec = result at way
    cases way with
    | blocked | missing => exact .ok _
    | joins after template position allowed drawn => exact opens _ _
  · exact .ok _
  · exact .ok _

/-- An opening fails in no other way than by going too deep. -/
theorem enterPassive_atMostEndless (nesting : Nat) (id : InstanceId) (s : Encounter) :
    AtMostEndless (enterPassive nesting id s) := by
  induction nesting generalizing id s with
  | zero => exact .endless
  | succ nesting ih =>
    rw [enterPassive]
    split
    · exact .foldlM (applyWith_atMostEndless ih _ _) _ s
    · exact .ok s

theorem applyEffect_atMostEndless (s : Encounter) (source : Option InstanceId)
    (duration : Duration) (effect : Effect) :
    AtMostEndless (s.applyEffect source duration effect) :=
  applyWith_atMostEndless (enterPassive_atMostEndless s.nesting) source duration s effect

theorem applyEffects_atMostEndless (s : Encounter) (source : Option InstanceId)
    (duration : Duration) (effects : List Effect) :
    AtMostEndless (s.applyEffects source duration effects) :=
  .foldlM (fun after effect => applyEffect_atMostEndless after source duration effect) effects s

/-! ### Ticks -/

theorem ifAlive_atMostEndless (s : Encounter) (id : InstanceId)
    {act : Instance → Except EncounterError Encounter} (each : ∀ gremlin, AtMostEndless (act gremlin)) :
    AtMostEndless (s.ifAlive id act) := by
  unfold ifAlive
  split
  · split
    · exact each _
    · exact .ok s
  · exact .ok s

theorem holdMove_atMostEndless (s : Encounter) (id : InstanceId) :
    AtMostEndless (s.holdMove id) := by
  refine ifAlive_atMostEndless s id fun gremlin => ?_
  dsimp only
  split
  · exact applyEffects_atMostEndless ..
  · exact .ok _

theorem fireMove_atMostEndless (s : Encounter) (id : InstanceId) :
    AtMostEndless (s.fireMove id) := by
  refine ifAlive_atMostEndless s id fun gremlin => ?_
  dsimp only
  split
  · split
    · exact applyEffects_atMostEndless ..
    · exact .ok _
  · exact .ok _

theorem enterMove_atMostEndless (s : Encounter) (id : InstanceId) (index : Nat) :
    AtMostEndless (s.enterMove id index) := by
  unfold enterMove
  dsimp only
  split
  · exact enterPassive_atMostEndless ..
  · exact .ok _

theorem changeMove_atMostEndless (s : Encounter) (id : InstanceId) :
    AtMostEndless (s.changeMove id) := by
  refine ifAlive_atMostEndless s id fun gremlin => ?_
  dsimp only
  split
  · exact enterMove_atMostEndless ..
  · exact .ok _

theorem bury_atMostEndless (s : Encounter) (id : InstanceId) : AtMostEndless (s.bury id) := by
  unfold bury
  split
  · exact .ok s
  · exact (applyEffects_atMostEndless ..).bind fun _ => .ok _

theorem pruneDead_atMostEndless (s : Encounter) : AtMostEndless s.pruneDead :=
  (AtMostEndless.foldlM bury_atMostEndless _ s).bind fun _ => .ok _

/-- A tick on a running clock fails in no other way than by summons without end. -/
theorem advance_atMostEndless {s : Encounter} (running : s.clock.terminated = false) :
    AtMostEndless s.advance := by
  unfold advance
  split
  · rename_i stopped
    rw [Clock.advance?, running, if_neg Bool.false_ne_true] at stopped
    cases stopped
  · exact (AtMostEndless.foldlM holdMove_atMostEndless _ _).bind fun held =>
      (AtMostEndless.foldlM fireMove_atMostEndless _ held).bind fun fired =>
        (AtMostEndless.foldlM changeMove_atMostEndless _ fired).bind fun changed =>
          pruneDead_atMostEndless changed.expire

/-! ### Scripts and runs -/

theorem report_atMostEndless (s : Encounter) (reason : EncounterError) :
    AtMostEndless (s.report reason) := by
  unfold report
  split
  · rename_i endless
    rw [endless]
    exact .endless
  · exact .ok _

theorem hitEach_atMostEndless (hit : Hit) (force : Option Force) (ids : List InstanceId)
    (s : Encounter) : AtMostEndless (hitEach hit force ids s) := by
  induction ids generalizing s with
  | nil => exact .ok s
  | cons id rest ih =>
    rw [hitEach]
    split
    · split
      · exact ih _
      · exact report_atMostEndless s _
    · exact ih s

theorem executeEach_atMostEndless (ids : List InstanceId) (s : Encounter) :
    AtMostEndless (executeEach ids s) := by
  induction ids generalizing s with
  | nil => exact .ok s
  | cons id rest ih =>
    rw [executeEach]
    split
    · exact ih _
    · exact report_atMostEndless ..

theorem healEach_atMostEndless (amount : Nat) (ids : List InstanceId) (s : Encounter) :
    AtMostEndless (healEach amount ids s) := by
  induction ids generalizing s with
  | nil => exact .ok s
  | cons id rest ih =>
    rw [healEach]
    split
    · exact ih _
    · exact report_atMostEndless s _

theorem perform_atMostEndless (s : Encounter) (action : ScriptedAction) :
    AtMostEndless (s.perform action) := by
  unfold perform
  cases action with
  | gain force amount => exact .ok _
  | spend force amount => exact .ok _
  | hit target damage pierce force => exact hitEach_atMostEndless ..
  | execute target => exact executeEach_atMostEndless ..
  | heal target amount => exact healEach_atMostEndless ..
  | playCard => exact .ok _
  | observe action => exact .ok _

theorem performAll_atMostEndless (actions : List ScriptedAction) (s : Encounter) :
    AtMostEndless (performAll actions s) := by
  induction actions generalizing s with
  | nil => exact .ok s
  | cons action rest ih =>
    rw [performAll]
    split
    · exact .ok s
    · split
      · exact ih _
      · rename_i failed
        rw [(perform_atMostEndless s action).only _ failed]
        exact .endless

/-- A run that is under way fails in no other way than by summons without end; above all it never
asks a stopped clock for a tick. -/
theorem drive_atMostEndless (ticks : Nat) (s : Encounter) : AtMostEndless (drive ticks s) := by
  induction ticks generalizing s with
  | zero => exact .ok s
  | succ ticks ih =>
    rw [drive]
    split
    · exact .ok s
    · rename_i running
      split
      · split
        · exact ih _
        · rename_i failed
          rw [(performAll_atMostEndless _ _).only _ failed]
          exact .endless
      · rename_i failed
        rw [(advance_atMostEndless (Bool.eq_false_iff.mpr running)).only _ failed]
        exact .endless

theorem finish_atMostEndless (s : Encounter) : AtMostEndless s.finish :=
  (performAll_atMostEndless _ s.introduce).bind fun after => drive_atMostEndless _ after

end Encounter

end Gremlin
