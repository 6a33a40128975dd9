import Gremlin.Proofs.Encounter.Laying

set_option autoImplicit false

/-!
What all effects do to overlays, with all the openings of the gremlins they summon: whoever joins
is in step by the time its opening is done.
-/

namespace Gremlin

namespace Encounter

/-- What effects selected from a move make of the overlays of whoever holds it. -/
def heldFate (select : Move → List Effect) (held : Option Move) (slot : Slot) : Fate :=
  match held with
  | some move => Effect.fates slot (select move)
  | none => .keeps

/-- Effects of a move that lay all it is certain to lay. -/
structure Renews (select : Move → List Effect) : Prop where
  own : ∀ move, select move ⊆ move.effects
  lays : ∀ move slot value, Move.draws slot move = false → Move.standing? slot move = some value →
    Effect.fates slot (select move) = .lays value

theorem entryEffects_renews : Renews entryEffects := by
  refine ⟨fun move effect => mem_effects_of_mem_entryEffects,
    fun move slot value certain stands => ?_⟩
  rw [entryEffects, Effect.fates_append, Move.fates_filter certain fun _ stands => stands, stands]
  · rfl
  · intro effect stands
    cases effect <;> first | rfl | cases stands

section Nested

variable {id : InstanceId} {duration : Duration} {s s' : Encounter}

/-- Whoever had no passive overlays is in step once the effects of its move have renewed them. -/
theorem InStep.of_renewed {select : Move → List Effect} (renews : Renews select)
    (held : s'.held? id = s.held? id)
    (own : ∀ slot, (heldFate select (s.held? id) slot).Holds .passive id (s.overlay? slot id)
      (s'.overlay? slot id))
    (lifted : ∀ slot overlay, s.overlay? slot id = some overlay → overlay.duration ≠ .passive) :
    s'.InStep id := by
  refine ⟨fun slot overlay found passive => ?_, fun slot move value holds certain stands => ?_⟩
  · have fared := own slot
    rw [found] at fared
    have stale : ¬ some overlay = s.overlay? slot id := fun same =>
      lifted slot overlay same.symm passive
    cases holds : s.held? id with
    | none =>
      rw [holds] at fared
      exact absurd fared stale
    | some move =>
      refine ⟨move, held.trans holds, ?_⟩
      rw [holds, heldFate] at fared
      by_contra misses
      have unreached : ∀ effect ∈ select move, effect.reaches slot = false := fun effect member =>
        Bool.eq_false_iff.mpr fun lays =>
          misses (List.any_eq_true.mpr ⟨effect, renews.own move member, lays⟩)
      rcases Effect.fates_of_unreached unreached with keeps | lifts
      · rw [keeps] at fared
        exact stale fared
      · rw [lifts] at fared
        cases fared
  · rw [held] at holds
    have fared := own slot
    rw [holds, heldFate, renews.lays move slot value certain stands] at fared
    exact fared

/-- Remembered caps may come back in the slots of caps alone. -/
theorem foldl_caps_laid (tidy : Tidy s) (joined : id.value < s.board.next) {caps : List Effect}
    (only : ∀ effect ∈ caps, effect.isCap = true) :
    Laid id duration (Effect.fate · .reinstateConstraints) s
      (caps.foldl (applyPlain (some id) duration) s) := by
  induction caps generalizing s with
  | nil =>
    refine (Laid.of_undisturbed tidy (.refl s) fun _ => rfl).mono fun slot => ?_
    cases slot <;> first | exact .inr rfl | exact .inl rfl
  | cons effect rest ih =>
    have first : Laid id duration (effect.fate ·) s _ := applyPlain_laid tidy joined effect
    have others := ih first.spares.tidy (Nat.lt_of_lt_of_le joined first.spares.next)
      fun other member => only other (List.mem_cons_of_mem _ member)
    refine (first.trans others joined).mono fun slot => ?_
    have cap := only effect List.mem_cons_self
    cases slot with
    | hardCap | softCap | totalCap => exact .inr rfl
    | pressure kind =>
      have keeps : effect.fate (.pressure kind) = .keeps := by
        cases effect <;>
          first | exact Effect.fate_of_continuous rfl (Effect.draws_pressure kind _) | cases cap
      rw [keeps]
      exact .inl rfl

theorem reinstate_laid (tidy : Tidy s) (joined : id.value < s.board.next) :
    Laid id duration (Effect.fate · .reinstateConstraints) s (s.reinstate (some id) duration) := by
  have laid : ∀ caps : List Effect, (∀ effect ∈ caps, effect.isCap = true) →
      Laid id duration (Effect.fate · .reinstateConstraints) s
        ((caps.foldl (applyPlain (some id) duration) s).record
          (.constraintsReinstated id caps.length)) := by
    intro caps only
    have installed : Laid id duration (Effect.fate · .reinstateConstraints) s _ :=
      foldl_caps_laid tidy joined only
    exact (installed.trans (.of_undisturbed installed.spares.tidy
      (Deed.reinstated _ id _).undisturbed fun slot => rfl) joined).mono fun slot => .inl rfl
  unfold reinstate
  dsimp only
  split
  · rename_i gremlin found
    exact laid _ (tidy.caps id gremlin found).caps
  · exact laid [] (List.forall_mem_nil _)

/-- If each effect does to overlays what its fate says, all of them do what their fates say. -/
theorem foldlM_laid {act : Encounter → Effect → Except EncounterError Encounter}
    (each : ∀ {s effect s'}, Tidy s → id.value < s.board.next → act s effect = .ok s' →
      Laid id duration (effect.fate ·) s s')
    {effects : List Effect} (tidy : Tidy s) (joined : id.value < s.board.next)
    (success : effects.foldlM act s = .ok s') : Laid id duration (Effect.fates · effects) s s' := by
  induction effects generalizing s with
  | nil =>
    cases success
    exact .of_undisturbed tidy (.refl _) fun _ => rfl
  | cons effect rest ih =>
    rw [List.foldlM_cons, bind_eq_ok] at success
    obtain ⟨after, done, success⟩ := success
    have first := each tidy joined done
    exact first.trans (ih first.spares.tidy (Nat.lt_of_lt_of_le joined first.spares.next) success)
      joined

/-- A gremlin joins and opens its move; nobody else is concerned. -/
theorem Spares.of_arrival {template : Template} (tidy : Tidy s)
    (known : template ∈ s.bestiary.templates) (position : SummonPosition)
    (summoner : Option InstanceId) (event : Event) (still : event.mover? = none)
    (opened : ∀ {joined : Encounter},
      { s with board := (s.board.spawn template s.now position summoner).1 }.record event = joined →
      Tidy joined → s.board.next < joined.board.next →
      Laid ⟨s.board.next⟩ .passive (heldFate entryEffects (joined.held? ⟨s.board.next⟩)) joined s') :
    Spares [] s s' := by
  generalize arrives :
    ({ s with board := (s.board.spawn template s.now position summoner).1 } : Encounter).record event =
      joined at opened
  have phase : Phase (fun _ _ _ => True) [] s joined :=
    arrives ▸ .of_spawn tidy.orderly known position summoner still
  have overlays : ∀ slot, joined.overlays slot = s.overlays slot :=
    fun slot => arrives ▸ overlays_congr rfl rfl rfl rfl slot
  have grown : joined.board.next = s.board.next + 1 := arrives ▸ rfl
  have held : ∀ id : InstanceId, id ≠ ⟨s.board.next⟩ → joined.held? id = s.held? id := by
    intro id apart
    rw [← arrives]
    exact congrArg (Option.bind · (·.passiveMove?))
      (Board.Numbered.get?_spawn_other template s.now position summoner apart)
  have keeps : Keeps s joined := .of_overlays_eq phase.next overlays
  have tidy' : Tidy joined := ⟨phase.orderly, phase.caps tidy.caps, keeps.single tidy.single⟩
  have laid := opened rfl tidy' (by omega)
  have others : ∀ id : InstanceId, id.value < s.board.next →
      id ∉ [(⟨s.board.next⟩ : InstanceId)] ∧ id ≠ ⟨s.board.next⟩ ∧ id.value < joined.board.next := by
    intro id old
    have apart : id ≠ ⟨s.board.next⟩ := by
      rintro rfl
      exact Nat.lt_irrefl _ old
    exact ⟨by rwa [List.mem_singleton], apart, by omega⟩
  refine ⟨laid.spares.tidy, Nat.le_trans phase.next laid.spares.next, ?_, ?_,
    fun tagged => laid.spares.tagged (keeps.tagged tagged), ?_⟩
  · intro id _ old
    obtain ⟨outside, apart, below⟩ := others id old
    exact (laid.spares.held id outside below).trans (held id apart)
  · intro id _ old slot
    obtain ⟨outside, _, below⟩ := others id old
    exact (laid.spares.overlay id outside below slot).trans
      (congrArg (OverlaySet.of? · (some id)) (overlays slot))
  · intro tagged id fresh
    -- whoever came first, and those its opening has summoned
    by_cases own : id = ⟨s.board.next⟩
    · subst own
      refine .of_renewed entryEffects_renews laid.held laid.own fun slot overlay found => ?_
      have none : s.overlay? slot ⟨s.board.next⟩ = none :=
        tagged.overlay?_of_le (Nat.le_refl _) slot
      rw [overlay?, overlays] at found
      exact absurd (found.symm.trans none) (Option.some_ne_none _)
    · refine laid.spares.newborn (keeps.tagged tagged) id ?_
      have apart : id.value ≠ s.board.next := fun same => own (by rw [← same])
      omega

variable {enter : InstanceId → Encounter → Except EncounterError Encounter}
  (opens : ∀ {id s s'}, Tidy s → id.value < s.board.next → enter id s = .ok s' →
    Laid id .passive (heldFate entryEffects (s.held? id)) s s')

include opens

theorem summon_spares {source : Option InstanceId} {spec : SummonSpec} (tidy : Tidy s)
    (success : s.summon enter source spec = .ok s') : Spares [] s s' := by
  rw [summon] at success
  split at success
  · rename_i id _
    dsimp only at success
    have told : Spares [] s (s.record (.summonBlocked id spec)) :=
      .of_undisturbed tidy (Deed.blocked s id spec).undisturbed fun slot => rfl
    split at success <;> cases success
    · exact told.trans (.of_undisturbed told.tidy (Deed.notify _ _).undisturbed fun slot => rfl)
        fun _ none => by cases none
    · exact told
  · dsimp only at success
    have drawn : Spares [] s
        (s.summonTemplate ((source.bind s.board.get?).map (·.template)) spec).2 :=
      .of_undisturbed tidy (s.summonTemplate_deeds _ spec).undisturbed
        fun slot => by cases spec <;> rfl
    have bestiary := summonTemplate_bestiary s ((source.bind s.board.get?).map (·.template)) spec
    split at success
    · rename_i after found
      rw [found] at drawn
      cases success
      exact drawn.trans (.of_undisturbed drawn.tidy (Deed.notify _ _).undisturbed fun slot => rfl)
        fun _ none => by cases none
    · rename_i template after found
      have known := summonTemplate_known (congrArg Prod.fst found)
      rw [found] at drawn bestiary
      rw [← bestiary] at known
      obtain ⟨position, success⟩ : ∃ position,
          enter (after.board.spawn template after.now position source).2 ({ after with
            board := (after.board.spawn template after.now position source).1 }.record
              (.summoned source (after.board.spawn template after.now position source).2)) =
                .ok s' := ⟨_, success⟩
      refine drawn.trans (.of_arrival drawn.tidy known position source
        (.summoned source ⟨after.board.next⟩) rfl ?_) fun _ none => by cases none
      rintro joined rfl ordered below
      exact opens ordered below success

theorem applyWith_laid {effect : Effect} (tidy : Tidy s) (joined : id.value < s.board.next)
    (success : s.applyWith enter (some id) duration effect = .ok s') :
    Laid id duration (effect.fate ·) s s' := by
  unfold applyWith at success
  split at success
  · refine (Laid.of_spares (summon_spares opens tidy success) joined).mono fun slot => .inl ?_
    cases slot <;> rfl
  · cases success
    exact reinstate_laid tidy joined
  · cases success
    exact applyPlain_laid tidy joined effect

end Nested

/-- By induction on how deep the openings may still be nested. -/
theorem enterPassive_laid {nesting : Nat} {id : InstanceId} {s s' : Encounter} (tidy : Tidy s)
    (joined : id.value < s.board.next) (success : enterPassive nesting id s = .ok s') :
    Laid id .passive (heldFate entryEffects (s.held? id)) s s' := by
  induction nesting generalizing id s s' with
  | zero => cases success
  | succ nesting ih =>
    rw [enterPassive] at success
    unfold held?
    split at success
    · rename_i move held
      rw [held]
      exact foldlM_laid (applyWith_laid ih) tidy joined success
    · rename_i idle
      cases success
      rw [idle]
      exact .of_undisturbed tidy (.refl _) fun _ => rfl

theorem applyEffects_laid {id : InstanceId} {duration : Duration} {effects : List Effect}
    {s s' : Encounter} (tidy : Tidy s) (joined : id.value < s.board.next)
    (success : s.applyEffects (some id) duration effects = .ok s') :
    Laid id duration (Effect.fates · effects) s s' :=
  foldlM_laid (applyWith_laid enterPassive_laid) tidy joined success

theorem spawn_spares {templateId : String} {s s' : Encounter} {id : InstanceId} (tidy : Tidy s)
    (success : s.spawn templateId = .ok (s', id)) : Spares [] s s' := by
  obtain ⟨template, found, _, entered⟩ := spawn_eq_ok success
  refine .of_arrival tidy (Bestiary.mem_of_get? found) .bottom none
    (.spawned ⟨s.board.next⟩ templateId) rfl ?_
  rintro joined rfl ordered below
  exact enterPassive_laid ordered below entered

end Encounter

end Gremlin
