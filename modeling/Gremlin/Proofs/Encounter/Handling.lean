import Gremlin.Encounter.Death
import Gremlin.Proofs.Encounter.Ticks

set_option autoImplicit false

/-!
What the player can do between ticks, as seen from the tracks. Nothing the player does touches
the schedule of a gremlin; a gremlin is gone once a hit kills it or an execute lands, and nobody
else is.
-/

namespace Gremlin

namespace Instance

/-- A gremlin without what effects and the player change on it. -/
def course (gremlin : Instance) : Instance :=
  { gremlin.bare with health := ⟨0, 0⟩, barrier := 0, observed := {} }

/-- The player has done something to a gremlin and left it alive. -/
structure Handled (gremlin gremlin' : Instance) : Prop where
  course : gremlin'.course = gremlin.course
  max : gremlin'.health.max = gremlin.health.max
  fit : gremlin.health.Fit → gremlin'.health.Fit

namespace Handled

variable {gremlin gremlin' gremlin'' : Instance}

theorem refl (gremlin : Instance) : Handled gremlin gremlin := ⟨rfl, rfl, fun fit => fit⟩

theorem trans (first : Handled gremlin gremlin') (second : Handled gremlin' gremlin'') :
    Handled gremlin gremlin'' :=
  ⟨second.course.trans first.course, second.max.trans first.max,
    fun fit => second.fit (first.fit fit)⟩

theorem bare (handled : Handled gremlin gremlin') : Handled gremlin.bare gremlin'.bare :=
  ⟨handled.course, handled.max, handled.fit⟩

theorem observe (gremlin : Instance) (action : PlayerAction) :
    Handled gremlin (gremlin.observe action) :=
  ⟨rfl, rfl, fun fit => fit⟩

theorem heal (gremlin : Instance) (amount : Nat) : Handled gremlin (gremlin.heal amount) := by
  unfold Instance.heal
  split
  · refine ⟨rfl, rfl, fun fit => ⟨?_, Nat.min_le_right _ _⟩⟩
    have positive := fit.positive
    have within := fit.within
    have bound : 0 < Text.wordBound - 1 := by decide
    change 0 < min (min (gremlin.health.current + amount) (Text.wordBound - 1)) gremlin.health.max
    omega
  · exact .refl gremlin

/-- A hit that does not kill leaves a gremlin alive. -/
theorem applyHit {hit : Hit} (survived : (gremlin.applyHit hit).2.killed = false) :
    Handled gremlin (gremlin.applyHit hit).1 := by
  unfold Instance.applyHit at survived ⊢
  dsimp only at survived ⊢
  split
  · exact .refl gremlin
  · rename_i some
    rw [if_neg some] at survived
    split
    · exact ⟨rfl, rfl, fun fit => fit⟩
    · rename_i unguarded
      rw [if_neg unguarded] at survived
      unfold takeDamage at survived ⊢
      dsimp only at survived ⊢
      refine ⟨rfl, rfl, fun fit => ⟨?_, ?_⟩⟩
      · exact Nat.pos_of_ne_zero (beq_eq_false_iff_ne.mp survived)
      · exact Nat.le_trans (Nat.sub_le _ _) fit.within

end Handled

/-- A hit that kills leaves no health. -/
theorem applyHit_lifeless {gremlin : Instance} {hit : Hit}
    (killed : (gremlin.applyHit hit).2.killed = true) :
    (gremlin.applyHit hit).1.isAlive = false := by
  unfold applyHit at killed ⊢
  dsimp only at killed ⊢
  split
  · rename_i idle
    rw [if_pos idle] at killed
    cases killed
  · rename_i some
    rw [if_neg some] at killed
    split
    · rename_i guarded
      rw [if_pos guarded] at killed
      cases killed
    · rename_i unguarded
      rw [if_neg unguarded] at killed
      exact congrArg Bool.not killed

theorem applyHit_id (gremlin : Instance) (hit : Hit) : (gremlin.applyHit hit).1.id = gremlin.id := by
  unfold applyHit
  dsimp only
  split
  · rfl
  · split <;> rfl

theorem applyHit_installedCaps (gremlin : Instance) (hit : Hit) :
    (gremlin.applyHit hit).1.installedCaps = gremlin.installedCaps := by
  unfold applyHit
  dsimp only
  split
  · rfl
  · split <;> rfl

/-- An execute that lands leaves no health. -/
theorem execute_lifeless {gremlin : Instance} (lands : gremlin.execute.2 = true) :
    gremlin.execute.1.isAlive = false := by
  unfold execute at lands ⊢
  split
  · rfl
  · rename_i above
    rw [if_neg above] at lands
    cases lands

/-- An execute that does not land does nothing. -/
theorem execute_of_not_landed {gremlin : Instance} (misses : gremlin.execute.2 = false) :
    gremlin.execute.1 = gremlin := by
  unfold execute at misses ⊢
  split
  · rename_i below
    rw [if_pos below] at misses
    cases misses
  · rfl

theorem execute_id (gremlin : Instance) : gremlin.execute.1.id = gremlin.id := by
  unfold execute
  split <;> rfl

theorem execute_installedCaps (gremlin : Instance) :
    gremlin.execute.1.installedCaps = gremlin.installedCaps := by
  unfold execute
  split <;> rfl

/-- What does not look at a gremlin's health stays as it is. -/
theorem heal_view {β : Type} (view : Instance → β) (gremlin : Instance) (amount : Nat)
    (blind : ∀ health, view { gremlin with health } = view gremlin) :
    view (gremlin.heal amount) = view gremlin := by
  unfold heal
  split
  · exact blind _
  · rfl

theorem heal_id (gremlin : Instance) (amount : Nat) : (gremlin.heal amount).id = gremlin.id :=
  gremlin.heal_view (·.id) amount fun _ => rfl

theorem heal_installedCaps (gremlin : Instance) (amount : Nat) :
    (gremlin.heal amount).installedCaps = gremlin.installedCaps :=
  gremlin.heal_view (·.installedCaps) amount fun _ => rfl

end Instance

namespace Encounter

/-- The player has done something to a gremlin and left it alive; of its moves nothing is heard. -/
structure Track.Handled (track track' : Track) : Prop where
  gremlin : track.gremlin.Handled track'.gremlin
  turns : track'.turns = track.turns

namespace Track.Handled

theorem refl (track : Track) : Track.Handled track track := ⟨.refl _, rfl⟩

theorem trans {track track' track'' : Track} (first : Track.Handled track track')
    (second : Track.Handled track' track'') : Track.Handled track track'' :=
  ⟨first.gremlin.trans second.gremlin, second.turns.trans first.turns⟩

end Track.Handled

/-- Between ticks the player has done something; it may have cost some gremlins their lives. -/
structure Played (gone : List InstanceId) (s s' : Encounter) : Prop where
  now : s'.now = s.now
  bestiary : s'.bestiary = s.bestiary
  next : s.board.next ≤ s'.board.next
  orderly : Orderly s'
  kept : ∀ id, id ∉ gone → ∀ track, s.track? id = some track →
    ∃ track', s'.track? id = some track' ∧ Track.Handled track track'
  joined : ∀ id, id ∉ gone → ∀ track, s.track? id = none → s'.track? id = some track →
    s.board.next ≤ id.value ∧ ∃ born, Track.Newborn s.bestiary s.now born ∧ Track.Handled born track
  caps : s.CapsSound → s'.CapsSound

namespace Played

variable {gone : List InstanceId} {s s' s'' : Encounter}

theorem mono {more : List InstanceId} (played : Played gone s s') (fewer : gone ⊆ more) :
    Played more s s' :=
  ⟨played.now, played.bestiary, played.next, played.orderly,
    fun id outside => played.kept id fun member => outside (fewer member),
    fun id outside => played.joined id fun member => outside (fewer member), played.caps⟩

theorem trans (first : Played gone s s') (second : Played gone s' s'') : Played gone s s'' := by
  refine ⟨second.now.trans first.now, second.bestiary.trans first.bestiary,
    Nat.le_trans first.next second.next, second.orderly, ?_, ?_,
    fun sound => second.caps (first.caps sound)⟩
  · intro id outside track found
    obtain ⟨track', between, handled⟩ := first.kept id outside track found
    obtain ⟨track'', after, later⟩ := second.kept id outside track' between
    exact ⟨track'', after, handled.trans later⟩
  · intro id outside track absent found
    cases between : s'.track? id with
    | none =>
      obtain ⟨fresh, born, newborn, handled⟩ := second.joined id outside track between found
      rw [first.bestiary, first.now] at newborn
      exact ⟨Nat.le_trans first.next fresh, born, newborn, handled⟩
    | some early =>
      obtain ⟨fresh, born, newborn, handled⟩ := first.joined id outside early absent between
      obtain ⟨track', after, later⟩ := second.kept id outside early between
      rw [found] at after
      cases after
      exact ⟨fresh, born, newborn, handled.trans later⟩

theorem of_phase {turn : Ticks → Track → Track → Prop} (phase : Phase turn [] s s') :
    Played [] s s' := by
  refine ⟨phase.now_eq, phase.bestiary, phase.next, phase.orderly, ?_, ?_, phase.caps⟩
  · intro id outside track found
    exact ⟨track, phase.kept id outside track found, .refl track⟩
  · intro id _ track absent found
    obtain ⟨fresh, born⟩ := phase.joined id track absent found
    exact ⟨fresh, track, born, .refl track⟩

theorem of_effected (effected : Effected s s') (orderly : Orderly s) : Played [] s s' :=
  of_phase (show Phase (fun _ _ _ => True) [] s s' from effected.phase orderly)

theorem of_undisturbed (same : Undisturbed s s') (orderly : Orderly s) : Played [] s s' :=
  of_phase (show Phase (fun _ _ _ => True) [] s s' from .of_undisturbed orderly same)

theorem of_concluded (concluded : Concluded s s') (orderly : Orderly s) : Played [] s s' := by
  refine ⟨concluded.now, concluded.bestiary, Nat.le_of_eq (concluded.board ▸ rfl),
    concluded.orderly orderly, ?_, ?_, concluded.caps⟩
  · intro id _ track found
    exact ⟨track, (concluded.track?_eq id).trans found, .refl track⟩
  · intro id _ track absent found
    rw [concluded.track?_eq, absent] at found
    cases found

/-- A change of one gremlin that says nothing of its moves. -/
theorem of_touched {id : InstanceId} (touched : Touched id s s') (orderly : Orderly s)
    (quiet : s'.turns id = s.turns id) : Played [id] s s' := by
  have phase : Phase (fun _ _ _ => True) [id] s s' := by
    refine touched.phase orderly ?_ fun _ => quiet
    intro track found
    obtain ⟨gremlin, present⟩ := Board.mem_ids_iff.mp (touched.ids ▸ mem_ids_of_track? found)
    exact ⟨_, track?_of_get? present, trivial⟩
  refine ⟨phase.now_eq, phase.bestiary, phase.next, phase.orderly, ?_, ?_, phase.caps⟩
  · intro other outside track found
    exact ⟨track, phase.kept other outside track found, .refl track⟩
  · intro other _ track absent found
    obtain ⟨fresh, born⟩ := phase.joined other track absent found
    exact ⟨fresh, track, born, .refl track⟩

/-- A change of one gremlin that leaves it alive. -/
theorem of_handled {id : InstanceId} {gremlin gremlin' : Instance} (touched : Touched id s s')
    (orderly : Orderly s) (quiet : s'.turns id = s.turns id)
    (before : s.board.get? id = some gremlin) (after : s'.board.get? id = some gremlin')
    (handled : gremlin.Handled gremlin') : Played [] s s' := by
  have others := of_touched touched orderly quiet
  refine ⟨others.now, others.bestiary, others.next, others.orderly, ?_, ?_, others.caps⟩
  · intro other _ track found
    by_cases same : other = id
    · subst same
      rw [track?_of_get? before] at found
      cases found
      exact ⟨_, track?_of_get? after, handled.bare, quiet⟩
    · exact others.kept other (by rwa [List.mem_singleton]) track found
  · intro other _ track absent found
    by_cases same : other = id
    · subst same
      rw [track?_of_get? before] at absent
      cases absent
    · exact others.joined other (by rwa [List.mem_singleton]) track absent found

end Played

end Encounter

end Gremlin
