import Gremlin.Proofs.Encounter.Handling

set_option autoImplicit false

/-!
Fit gremlins: those in the state that the rest of a fight takes for granted. Newborns are fit, and
nothing that is done to a track makes its gremlin unfit.
-/

namespace Gremlin

namespace Instance

/-- A gremlin is of a known kind, alive, in a move it has, and counts the firings of each move. -/
structure Fit (bestiary : Bestiary) (gremlin : Instance) : Prop where
  known : gremlin.template ∈ bestiary.templates
  health : gremlin.health.Fit
  full : gremlin.health.max = gremlin.template.stats.maxHealth
  counted : gremlin.triggers.length = gremlin.template.moves.length
  placed : gremlin.move < gremlin.template.moves.length ∨
    gremlin.template.moves = [] ∧ gremlin.move = 0

namespace Fit

variable {bestiary : Bestiary} {gremlin gremlin' : Instance}

theorem spawn {template : Template} (id : InstanceId) (now : Ticks) (summoner : Option InstanceId)
    (known : template ∈ bestiary.templates) (sound : template.Sound) :
    (Instance.spawn id template now summoner).Fit bestiary := by
  refine ⟨known, ⟨sound.healthy, Nat.le_refl _⟩, rfl, List.length_replicate, ?_⟩
  change 0 < template.moves.length ∨ template.moves = [] ∧ 0 = 0
  rw [List.length_pos_iff, and_iff_left rfl]
  exact (Decidable.em (template.moves = [])).symm

/-- Only the health, the counts and the move decide whether a gremlin is fit. -/
theorem of_eq (fit : gremlin.Fit bestiary) (template : gremlin'.template = gremlin.template)
    (health : gremlin'.health = gremlin.health)
    (counted : gremlin'.triggers.length = gremlin.triggers.length)
    (move : gremlin'.move = gremlin.move) : gremlin'.Fit bestiary := by
  refine ⟨?_, ?_, ?_, ?_, ?_⟩
  · rw [template]
    exact fit.known
  · rw [health]
    exact fit.health
  · rw [health, template]
    exact fit.full
  · rw [counted, template]
    exact fit.counted
  · rw [move, template]
    exact fit.placed

theorem handled (fit : gremlin.Fit bestiary) (handled : gremlin.Handled gremlin') :
    gremlin'.Fit bestiary := by
  have template : gremlin'.template = gremlin.template :=
    (congrArg Instance.template handled.course :)
  have triggers : gremlin'.triggers = gremlin.triggers :=
    (congrArg Instance.triggers handled.course :)
  have move : gremlin'.move = gremlin.move := (congrArg Instance.move handled.course :)
  refine ⟨?_, handled.fit fit.health, ?_, ?_, ?_⟩
  · rw [template]
    exact fit.known
  · rw [handled.max, template]
    exact fit.full
  · rw [triggers, template]
    exact fit.counted
  · rw [move, template]
    exact fit.placed

theorem countTrigger (fit : gremlin.Fit bestiary) : gremlin.countTrigger.Fit bestiary :=
  fit.of_eq rfl rfl (List.length_modify ..) rfl

theorem age (fit : gremlin.Fit bestiary) : gremlin.age.Fit bestiary := fit.of_eq rfl rfl rfl rfl

theorem nextMove (fit : gremlin.Fit bestiary) (generator : Random.Generator) :
    (gremlin.nextMove generator).2.1.Fit bestiary := by
  obtain ⟨observed, same⟩ := gremlin.nextMove_gremlin generator
  rw [same]
  exact fit.of_eq rfl rfl rfl rfl

theorem enterMove (fit : gremlin.Fit bestiary) {index : Nat}
    (inside : index < gremlin.template.moves.length) : (gremlin.enterMove index).Fit bestiary :=
  ⟨fit.known, fit.health, fit.full, (List.length_set ..).trans fit.counted, .inl inside⟩

end Fit

end Instance

namespace Encounter

namespace Track

variable {bestiary : Bestiary}

theorem Newborn.gremlin_fit {now : Ticks} {track : Track}
    (sound : ∀ template ∈ bestiary.templates, template.Sound)
    (born : Newborn bestiary now track) : track.gremlin.Fit bestiary := by
  obtain ⟨id, template, summoner, known⟩ := born
  exact (Instance.Fit.spawn id now summoner known (sound template known)).of_eq rfl rfl rfl rfl

theorem hold_fit {track : Track} (fit : track.gremlin.Fit bestiary) :
    track.hold.gremlin.Fit bestiary := by
  unfold hold
  split
  · exact fit.countTrigger
  · exact fit

theorem fire_fit {track : Track} (fit : track.gremlin.Fit bestiary) (now : Ticks) :
    (track.fire now).gremlin.Fit bestiary := by
  unfold fire
  split
  · split
    · exact fit.age.countTrigger
    · exact fit.age
  · exact fit

theorem Changed.fit {now : Ticks} {track track' : Track}
    (sound : ∀ template ∈ bestiary.templates, template.Sound) (changed : Changed now track track')
    (fit : track.gremlin.Fit bestiary) : track'.gremlin.Fit bestiary := by
  cases changed with
  | lifeless lifeless => exact fit
  | stays generator alive next => exact fit.nextMove generator
  | enters generator index alive next =>
    refine (fit.nextMove generator).enterMove ?_
    have inside := Instance.nextMove_lt (sound _ fit.known) next
    rw [track.gremlin.nextMove_view (·.template) generator fun _ => rfl]
    exact inside

end Track

end Encounter

end Gremlin
