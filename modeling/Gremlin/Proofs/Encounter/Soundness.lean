import Gremlin.Catalog
import Gremlin.Proofs.Encounter.Reach

set_option autoImplicit false

/-!
What is true of every board a fight can come to: who is on it, in what state, and how anyone leaves.
-/

namespace Gremlin

namespace Encounter

/-- What is true of the board of an encounter over a bestiary. -/
structure BoardSound (bestiary : Bestiary) (s : Encounter) : Prop where
  known : s.bestiary = bestiary
  distinct : s.board.ids.Nodup
  below : ∀ id ∈ s.board.ids, id.value < s.board.next
  alive : ∀ gremlin ∈ s.board.gremlins, gremlin.isAlive = true
  fit : ∀ gremlin ∈ s.board.gremlins, gremlin.Fit bestiary
  caps : ∀ gremlin ∈ s.board.gremlins, gremlin.CapsSound
  ended : 0 < s.board.next → s.board.isEmpty = true → s.clock.terminated = true

/-- The encounters that operations lead to from an encounter. -/
abbrev Later : Encounter → Encounter → Prop :=
  Relation.ReflTransGen fun s s' => ∃ operation : Operation, operation.run s = .ok s'

theorem Reachable.later {bestiary : Bestiary} {s s' : Encounter} (reachable : Reachable bestiary s)
    (later : Later s s') : Reachable bestiary s' := by
  induction later with
  | refl => exact reachable
  | tail _ last so_far =>
    obtain ⟨operation, success⟩ := last
    exact so_far.step operation success

theorem later_of_runAll {s s' : Encounter} {operations : List Operation}
    (success : Operation.runAll s operations = .ok s') : Later s s' :=
  foldlM_preserves (motive := Later s) operations
    (fun _ operation _ _ so_far ran => so_far.tail ⟨operation, ran⟩) .refl success

theorem Reachable.boardSound {bestiary : Bestiary} {s : Encounter}
    (sound : ∀ template ∈ bestiary.templates, template.Sound) (reachable : Reachable bestiary s) :
    BoardSound bestiary s := by
  have standing := reachable.standing sound
  have numbered := standing.orderly.numbered
  have found : ∀ gremlin ∈ s.board.gremlins, s.board.get? gremlin.id = some gremlin :=
    fun gremlin present => Board.get?_of_mem numbered.distinct present
  have fit : ∀ gremlin ∈ s.board.gremlins, gremlin.Fit bestiary := by
    intro gremlin present
    have bare : gremlin.bare.Fit bestiary :=
      standing.fit gremlin.id _ (track?_of_get? (found gremlin present))
    exact bare.of_eq rfl rfl rfl rfl
  refine ⟨standing.known, numbered.distinct, numbered.below, ?_, fit, ?_, ?_⟩
  · intro gremlin present
    exact Instance.isAlive_iff.mpr (fit gremlin present).health.positive
  · intro gremlin present
    exact standing.caps gremlin.id gremlin (found gremlin present)
  · intro some empty
    exact standing.settled some (isEmpty_iff.mp empty)

section Sound

variable {bestiary : Bestiary} (sound : ∀ template ∈ bestiary.templates, template.Sound)
  {s s' : Encounter}

include sound

/-- Identities that have been handed out do not come back. -/
theorem Reachable.not_mem_of_step (reachable : Reachable bestiary s) {operation : Operation}
    (success : operation.run s = .ok s') :
    s.board.next ≤ s'.board.next ∧
      ∀ id : InstanceId, id.value < s.board.next → id ∉ s.board.ids → id ∉ s'.board.ids := by
  have standing := reachable.standing sound
  have fresh : ∀ id : InstanceId, id.value < s.board.next → id ∉ s.board.ids →
      ∀ track, s'.track? id = some track → False := by
    intro id used absent track found
    rw [← track?_eq_none_iff] at absent
    rcases operation.cases_run sound standing success with ⟨_, advanced⟩ | ⟨_, struck⟩
    · rcases advanced.origin found with ⟨old, before, _⟩ | ⟨fresh, _⟩
      · rw [absent] at before
        cases before
      · exact Nat.not_le.mpr used fresh
    · rcases struck.origin found with ⟨old, before, _⟩ | ⟨fresh, _⟩
      · rw [absent] at before
        cases before
      · exact Nat.not_le.mpr used fresh
  refine ⟨?_, fun id used absent member => ?_⟩
  · rcases operation.cases_run sound standing success with ⟨_, advanced⟩ | ⟨_, struck⟩
    · exact advanced.next
    · exact struck.played.next
  · obtain ⟨gremlin, found⟩ := Board.mem_ids_iff.mp member
    exact fresh id used absent _ (track?_of_get? found)

theorem Reachable.not_mem_of_later (reachable : Reachable bestiary s) (later : Later s s') :
    s.board.next ≤ s'.board.next ∧
      ∀ id : InstanceId, id.value < s.board.next → id ∉ s.board.ids → id ∉ s'.board.ids := by
  induction later with
  | refl => exact ⟨Nat.le_refl _, fun _ _ absent => absent⟩
  | tail steps last so_far =>
    obtain ⟨operation, success⟩ := last
    obtain ⟨next, gone⟩ := (reachable.later steps).not_mem_of_step sound success
    exact ⟨Nat.le_trans so_far.1 next, fun id used absent =>
      gone id (Nat.lt_of_lt_of_le used so_far.1) (so_far.2 id used absent)⟩

/-- Nobody leaves the board but the victim of an operation. -/
theorem Reachable.not_mem_iff_victim (reachable : Reachable bestiary s) {operation : Operation}
    (success : operation.run s = .ok s') {id : InstanceId} (present : id ∈ s.board.ids) :
    id ∉ s'.board.ids ↔ operation.victim s = some id := by
  have standing := reachable.standing sound
  obtain ⟨gremlin, found⟩ := Board.mem_ids_iff.mp present
  rcases operation.cases_run sound standing success with ⟨rfl, advanced⟩ | ⟨_, struck⟩
  · obtain ⟨track, after, _⟩ := advanced.aged id _ (track?_of_get? found)
    exact iff_of_false (fun absent => absent (mem_ids_of_track? after)) (by rintro ⟨⟩)
  · refine ⟨fun absent => ?_, struck.absent id⟩
    by_cases outside : id ∈ (operation.victim s).toList
    · exact Option.mem_toList.mp outside
    · obtain ⟨track, after, _⟩ := struck.played.kept id outside _ (track?_of_get? found)
      exact absurd (mem_ids_of_track? after) absent

/-- A tick costs nobody any health. -/
theorem Reachable.health_of_advance (reachable : Reachable bestiary s)
    (success : s.advance = .ok s') {id : InstanceId} {gremlin : Instance}
    (found : s.board.get? id = some gremlin) :
    ∃ gremlin', s'.board.get? id = some gremlin' ∧ gremlin'.health = gremlin.health := by
  have standing := reachable.standing sound
  obtain ⟨_, advanced⟩ := advance_advanced standing.orderly (standing.known ▸ sound)
    standing.living success
  obtain ⟨track, after, changed⟩ := advanced.aged id _ (track?_of_get? found)
  obtain ⟨gremlin', present, rfl⟩ := get?_of_track? after
  have health : gremlin'.bare.health = gremlin.bare.health := by
    rw [changed.health, Track.fire_health, Track.hold_health]
  exact ⟨gremlin', present, health⟩

end Sound

/-- Whatever is done with an encounter, its board stays sound, an identity is used once, only the
victim of a hit or an execute leaves, and a tick leaves everyone's health alone. -/
theorem board_invariant {records : List Record} {s : Encounter}
    (reachable : Reachable (Bestiary.load records).1 s) :
    BoardSound (Bestiary.load records).1 s ∧
      (∀ s', Later s s' → ∀ id : InstanceId, id.value < s.board.next → id ∉ s.board.ids →
        id ∉ s'.board.ids) ∧
      (∀ (operation : Operation) (s' : Encounter), operation.run s = .ok s' →
        ∀ id ∈ s.board.ids, id ∉ s'.board.ids ↔ operation.victim s = some id) ∧
      ∀ s', s.advance = .ok s' → ∀ id gremlin, s.board.get? id = some gremlin →
        ∃ gremlin', s'.board.get? id = some gremlin' ∧ gremlin'.health = gremlin.health := by
  have sound : ∀ template ∈ (Bestiary.load records).1.templates, template.Sound :=
    fun _ member => Bestiary.sound_of_mem_load member
  refine ⟨reachable.boardSound sound, ?_, ?_, ?_⟩
  · intro s' later
    exact (reachable.not_mem_of_later sound later).2
  · intro operation s' success id present
    exact reachable.not_mem_iff_victim sound success present
  · intro s' success id gremlin found
    exact reachable.health_of_advance sound success found

/-- A gnat breeds, and is killed by a hit: its young is left on a sound board. -/
theorem board_invariant_breeding : ∃ s,
    Operation.runAll (new (Bestiary.load Catalog.gnats).1 7)
      (.spawn "breeding_gnat" :: List.replicate 13 .advance ++ [.hit ⟨0⟩ ⟨5, false⟩]) = .ok s ∧
    s.board.ids = [⟨1⟩] ∧ BoardSound (Bestiary.load Catalog.gnats).1 s ∧
    ∀ s', Later s s' → ⟨0⟩ ∉ s'.board.ids := by
  have ran : ((Operation.runAll (new (Bestiary.load Catalog.gnats).1 7)
      (.spawn "breeding_gnat" :: List.replicate 13 .advance ++ [.hit ⟨0⟩ ⟨5, false⟩])).toOption.map
        fun s => (s.board.ids, s.board.next)) = some ([⟨1⟩], 2) := by
    decide +kernel
  obtain ⟨s, success, shown⟩ := toOption_map_eq_some.mp ran
  obtain ⟨ids, next⟩ := Prod.mk.inj shown
  obtain ⟨sound, gone, _⟩ := board_invariant ((Reachable.fresh 7).runAll success)
  refine ⟨s, success, ids, sound, fun s' later => gone s' later ⟨0⟩ ?_ ?_⟩
  · rw [next]
    decide
  · rw [ids]
    decide

end Encounter

end Gremlin
