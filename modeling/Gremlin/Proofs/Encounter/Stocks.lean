import Gremlin.Proofs.Encounter.Burials
import Gremlin.Proofs.Encounter.Upkeep

set_option autoImplicit false

/-!
Boards with known gremlins. Everyone on the board is of a template of the bestiary, in the middle of
a tick and of a burial as well.
-/

namespace Gremlin

namespace Encounter

/-- An encounter is over a bestiary, its board is in order, and everyone on it is of a template of the
bestiary. -/
structure Stocked (bestiary : Bestiary) (s : Encounter) : Prop where
  known : s.bestiary = bestiary
  orderly : Orderly s
  listed : ∀ id gremlin, s.board.get? id = some gremlin → gremlin.template ∈ bestiary.templates

namespace Stocked

variable {bestiary : Bestiary} {s s' : Encounter}

theorem of_standing (standing : Standing bestiary s) : Stocked bestiary s :=
  ⟨standing.known, standing.orderly, fun id _ found =>
    (standing.fit id _ (track?_of_get? found)).known⟩

/-- Turns that leave a gremlin's template alone keep a board stocked. -/
theorem of_phase {turn : Ticks → Track → Track → Prop} {ids : List InstanceId}
    (stocked : Stocked bestiary s) (phase : Phase turn ids s s')
    (keeps : ∀ now track track', turn now track track' →
      track'.gremlin.template = track.gremlin.template) : Stocked bestiary s' := by
  refine ⟨phase.bestiary.trans stocked.known, phase.orderly, fun id gremlin found => ?_⟩
  have after := track?_of_get? found
  cases before : s.track? id with
  | none =>
    obtain ⟨_, born⟩ := phase.joined id _ before after
    generalize joins : (⟨gremlin.bare, s'.turns id⟩ : Track) = track at born
    cases born with
    | mk other template summoner known =>
      have same : gremlin.template = template := congrArg (·.gremlin.template) joins
      exact same ▸ stocked.known ▸ known
  | some old =>
    obtain ⟨early, present, rfl⟩ := get?_of_track? before
    have same : gremlin.template = early.template := by
      by_cases member : id ∈ ids
      · obtain ⟨track, later, turned⟩ := phase.taken id member _ before
        rw [after] at later
        cases later
        exact keeps _ _ _ turned
      · have later := phase.kept id member _ before
        rw [after] at later
        exact congrArg (·.gremlin.template) (Option.some.inj later)
    exact same ▸ stocked.listed id early present

theorem effected (stocked : Stocked bestiary s) (effected : Effected s s') :
    Stocked bestiary s' := by
  have phase : Phase (fun _ track track' => track' = track) [] s s' :=
    effected.phase stocked.orderly
  exact stocked.of_phase phase fun _ _ _ same => congrArg (·.gremlin.template) same

theorem undisturbed (stocked : Stocked bestiary s) (same : Undisturbed s s') :
    Stocked bestiary s' := by
  have phase : Phase (fun _ track track' => track' = track) [] s s' :=
    .of_undisturbed stocked.orderly same
  exact stocked.of_phase phase fun _ _ _ same => congrArg (·.gremlin.template) same

/-- A change that leaves a gremlin's identity and template alone keeps a board stocked. -/
theorem modify (stocked : Stocked bestiary s) {id : InstanceId} {change : Instance → Instance}
    (keeps : ∀ gremlin, gremlin.id = id → (change gremlin).id = id)
    (same : ∀ gremlin, s.board.get? id = some gremlin →
      (change gremlin).template = gremlin.template) : Stocked bestiary (s.modify id change) := by
  refine ⟨stocked.known, ⟨?_, stocked.orderly.silent⟩, fun other gremlin found => ?_⟩
  · exact stocked.orderly.numbered.of_ids_eq (Board.ids_modify keeps) (Nat.le_refl _)
  · change (s.board.modify id change).get? other = some gremlin at found
    by_cases own : other = id
    · subst own
      rw [Board.get?_modify_same keeps] at found
      obtain ⟨early, present, rfl⟩ := Option.map_eq_some_iff.mp found
      rw [same early present]
      exact stocked.listed other early present
    · rw [Board.get?_modify_other own keeps] at found
      exact stocked.listed other gremlin found

/-- Events of those who have joined keep a board stocked. -/
theorem record (stocked : Stocked bestiary s) {event : Event}
    (joined : ∀ id, event.mover? = some id → id.value < s.board.next) :
    Stocked bestiary (s.record event) := by
  refine ⟨stocked.known, ⟨stocked.orderly.numbered, fun id fresh => ?_⟩, stocked.listed⟩
  rw [turns_record, stocked.orderly.silent id fresh, if_neg fun moved =>
    Nat.not_lt.mpr fresh (joined id moved), List.append_nil]

theorem holdMove (stocked : Stocked bestiary s) {id : InstanceId}
    (success : s.holdMove id = .ok s') : Stocked bestiary s' := by
  refine stocked.of_phase (holdMove_phase stocked.orderly success) ?_
  rintro now track _ rfl
  exact track.hold_template

theorem fireMove (stocked : Stocked bestiary s) {id : InstanceId}
    (success : s.fireMove id = .ok s') : Stocked bestiary s' := by
  refine stocked.of_phase (fireMove_phase stocked.orderly success) ?_
  rintro now track _ rfl
  exact track.fire_template now

theorem changeMove (stocked : Stocked bestiary s) {id : InstanceId}
    (success : s.changeMove id = .ok s') : Stocked bestiary s' :=
  stocked.of_phase (changeMove_phase stocked.orderly success) fun _ _ _ changed => changed.template

theorem lifted (stocked : Stocked bestiary s) : Stocked bestiary s.lifted :=
  stocked.undisturbed (.of_board_eq rfl rfl rfl fun _ => rfl)

theorem begun (stocked : Stocked bestiary s) : Stocked bestiary s.begun :=
  ⟨stocked.known, begun_orderly stocked.orderly, stocked.listed⟩

theorem foldlM {act : Encounter → InstanceId → Except EncounterError Encounter}
    (keeps : ∀ {s id s'}, Stocked bestiary s → act s id = .ok s' → Stocked bestiary s')
    {ids : List InstanceId} (stocked : Stocked bestiary s) (success : ids.foldlM act s = .ok s') :
    Stocked bestiary s' :=
  foldlM_preserves (motive := Stocked bestiary) ids (fun _ _ _ _ so_far acted => keeps so_far acted)
    stocked success

theorem applyPassives (stocked : Stocked bestiary s) (success : s.applyPassives = .ok s') :
    Stocked bestiary s' :=
  stocked.lifted.foldlM (fun so_far => so_far.holdMove) success

theorem fireMoves (stocked : Stocked bestiary s) (success : s.fireMoves = .ok s') :
    Stocked bestiary s' :=
  stocked.foldlM (fun so_far => so_far.fireMove) success

theorem runTransitions (stocked : Stocked bestiary s) (success : s.runTransitions = .ok s') :
    Stocked bestiary s' :=
  stocked.foldlM (fun so_far => so_far.changeMove) success

theorem expire (stocked : Stocked bestiary s) : Stocked bestiary s.expire :=
  stocked.undisturbed s.expire_undisturbed

theorem bury (stocked : Stocked bestiary s) {id : InstanceId} (success : s.bury id = .ok s') :
    Stocked bestiary s' := by
  have played := (bury_played stocked.orderly success).1
  refine ⟨played.bestiary.trans stocked.known, played.orderly, fun other gremlin found => ?_⟩
  rcases bury_eq_ok success with ⟨_, rfl⟩ | ⟨victim, avenged, _, avenges, rfl⟩
  · exact stocked.listed other gremlin found
  · rw [parting_board, Board.get?_observe] at found
    obtain ⟨early, present, rfl⟩ := Option.map_eq_some_iff.mp found
    have apart : other ≠ id := by
      rintro rfl
      rw [Board.get?_remove_same] at present
      cases present
    rw [Board.get?_remove_other apart] at present
    exact (stocked.effected (applyEffects_effected avenges)).listed other early present

end Stocked

/-- Whatever effects lead to, a gremlin on the board stays there and offers what it did. -/
theorem Offers.effected {s s' : Encounter} {id : InstanceId} {spec : SummonSpec}
    (offers : s.Offers id spec) (orderly : Orderly s) (effected : Effected s s') :
    s'.Offers id spec := by
  obtain ⟨gremlin, found, member⟩ := offers
  obtain ⟨later, present, bare⟩ := effected.bare_kept orderly found
  have template : later.template = gremlin.template :=
    congrArg Kin.template (Instance.kin_of_bare bare)
  exact ⟨later, present, template.symm ▸ member⟩

end Encounter

end Gremlin
