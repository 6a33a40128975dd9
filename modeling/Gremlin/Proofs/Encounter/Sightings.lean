import Gremlin.Proofs.Encounter.Burials
import Gremlin.Proofs.Encounter.Soundness

set_option autoImplicit false

/-!
What everyone on the board sees of an operation: the player's action, if it is one to be seen, and
the kill of whoever leaves. Newcomers see what the others see, and nobody sees anything else.
-/

namespace Gremlin

namespace Instance

theorem applyHit_observed (gremlin : Instance) (hit : Hit) :
    (gremlin.applyHit hit).1.observed = gremlin.observed := by
  unfold applyHit
  dsimp only
  split
  · rfl
  · split <;> rfl

theorem heal_observed (gremlin : Instance) (amount : Nat) :
    (gremlin.heal amount).observed = gremlin.observed :=
  gremlin.heal_view (·.observed) amount fun _ => rfl

end Instance

namespace Encounter

theorem Track.Newborn.observed {bestiary : Bestiary} {now : Ticks} {track : Track}
    (born : Newborn bestiary now track) : track.gremlin.observed = {} := by
  obtain ⟨id, template, summoner, known⟩ := born
  rfl

/-- Whoever is there at `s'` has seen some actions since `s`, newcomers included. -/
def Sees (actions : List PlayerAction) (s s' : Encounter) : Prop :=
  ∀ id gremlin', s'.board.get? id = some gremlin' →
    (∃ gremlin, s.board.get? id = some gremlin ∧
      gremlin'.observed = actions.foldl Observation.add gremlin.observed) ∨
    s.board.next ≤ id.value ∧ gremlin'.observed = actions.foldl Observation.add {}

section Sees

variable {s s' : Encounter}

theorem sees_of_board_eq (board : s'.board = s.board) : Sees [] s s' := by
  intro id gremlin' found
  rw [board] at found
  exact .inl ⟨gremlin', found, rfl⟩

/-- Nobody sees anything of effects. -/
theorem Effected.sees (effected : Effected s s') (orderly : Orderly s) : Sees [] s s' := by
  intro id gremlin' found
  have phase : Phase (fun _ _ _ => True) [] s s' := effected.phase orderly
  cases before : s.board.get? id with
  | some gremlin =>
    obtain ⟨later, after, bare⟩ := effected.bare_kept orderly before
    rw [found] at after
    cases after
    exact .inl ⟨gremlin, rfl, (congrArg Instance.observed bare :)⟩
  | none =>
    have absent : s.track? id = none := by rw [track?, before, Option.map_none]
    obtain ⟨fresh, born⟩ := phase.joined id _ absent (track?_of_get? found)
    exact .inr ⟨fresh, born.observed⟩

theorem modify_sees {change : Instance → Instance} {id : InstanceId}
    (keeps : ∀ gremlin, gremlin.id = id → (change gremlin).id = id)
    (blind : ∀ gremlin, s.board.get? id = some gremlin →
      (change gremlin).observed = gremlin.observed)
    (board : s'.board = s.board.modify id change) : Sees [] s s' := by
  intro other gremlin' found
  rw [board] at found
  by_cases own : other = id
  · subst own
    rw [Board.get?_modify_same keeps] at found
    obtain ⟨gremlin, before, rfl⟩ := Option.map_eq_some_iff.mp found
    exact .inl ⟨gremlin, before, blind gremlin before⟩
  · rw [Board.get?_modify_other own keeps] at found
    exact .inl ⟨gremlin', found, rfl⟩

theorem observe_sees (s : Encounter) (action : PlayerAction) :
    Sees [action] s (s.observe action) := by
  intro id gremlin' found
  change (s.board.map (·.observe action)).get? id = some gremlin' at found
  rw [Board.get?_observe] at found
  obtain ⟨gremlin, before, rfl⟩ := Option.map_eq_some_iff.mp found
  exact .inl ⟨gremlin, before, rfl⟩

/-- Whoever is left sees the victim go, and so do the victim's last summons. -/
theorem Killing.sees {id : InstanceId} {gremlin dead : Instance} {struck avenged : Encounter}
    (killing : Killing id gremlin dead s struck avenged s') : Sees [.gremlinKilled] s s' := by
  intro other gremlin' found
  rw [killing.watched, Board.get?_observe] at found
  obtain ⟨bystander, present, rfl⟩ := Option.map_eq_some_iff.mp found
  have apart : other ≠ id := by
    rintro rfl
    rw [Board.get?_remove_same] at present
    cases present
  rw [Board.get?_remove_other apart] at present
  have blind := (applyEffects_effected killing.avenges).sees killing.orderly other bystander present
  rcases blind with ⟨early, before, same⟩ | ⟨fresh, same⟩
  · rw [killing.board, Board.get?_modify_other apart fun _ _ => killing.named] at before
    exact .inl ⟨early, before, congrArg (·.add .gremlinKilled) same⟩
  · rw [killing.board] at fresh
    exact .inr ⟨fresh, congrArg (·.add .gremlinKilled) same⟩

end Sees

/-- Those who have left the board. -/
def removed (s s' : Encounter) : List InstanceId := s.board.ids.filter (· ∉ s'.board.ids)

/-- What everyone on the board sees of an operation from `s` to `s'`: what the player does, and the
kill of everyone who leaves. -/
def Operation.shown (s s' : Encounter) : Operation → List PlayerAction
  | observe action => [action]
  | _ => (s.removed s').map fun _ => .gremlinKilled

theorem Operation.shown_of_kills {s s' : Encounter} {operation : Operation}
    (unseen : ∀ action, operation ≠ .observe action) :
    operation.shown s s' = (s.removed s').map fun _ => .gremlinKilled := by
  cases operation with
  | observe action => exact absurd rfl (unseen action)
  | spawn | effect | gain | spend | hit | execute | heal | notify | terminate | advance | reseed
  | nest => rfl

theorem Operation.found_of_victim {s : Encounter} {operation : Operation} {id : InstanceId}
    (kills : operation.victim s = some id) : ∃ gremlin, s.board.get? id = some gremlin := by
  cases operation with
  | hit target given =>
    obtain ⟨struck, same⟩ := Option.ite_none_right_eq_some.mp kills
    cases same
    obtain ⟨gremlin, found, _⟩ := (Option.any_eq_true ..).mp struck
    exact ⟨gremlin, found⟩
  | execute target =>
    obtain ⟨struck, same⟩ := Option.ite_none_right_eq_some.mp kills
    cases same
    obtain ⟨gremlin, found, _⟩ := (Option.any_eq_true ..).mp struck
    exact ⟨gremlin, found⟩
  | spawn | effect | gain | spend | heal | observe | notify | terminate | advance | reseed | nest =>
    cases kills

section Survived

variable {s s' : Encounter} {id : InstanceId}

theorem board_of_survived_hit {given : Hit} (kills : (Operation.hit id given).victim s = none)
    (success : (Operation.hit id given).run s = .ok s') :
    ∃ gremlin, s.board.get? id = some gremlin ∧
      s'.board = s.board.modify id fun _ => (gremlin.applyHit given).1 := by
  obtain ⟨gremlin, found, ensues⟩ := Operation.run_hit_eq_ok success
  rw [Operation.victim, found, Option.any_some, ite_eq_right_iff] at kills
  cases ensues with
  | burial killed => exact absurd (kills killed) (Option.some_ne_none id)
  | nothing _ same => exact ⟨gremlin, found, congrArg board same⟩

theorem board_of_missed_execute (kills : (Operation.execute id).victim s = none)
    (success : (Operation.execute id).run s = .ok s') :
    ∃ gremlin, s.board.get? id = some gremlin ∧ s'.board = s.board.modify id fun _ => gremlin := by
  obtain ⟨gremlin, found, ensues⟩ := Operation.run_execute_eq_ok success
  rw [Operation.victim, found, Option.any_some, ite_eq_right_iff] at kills
  cases ensues with
  | burial lands => exact absurd (kills lands) (Option.some_ne_none id)
  | nothing misses same =>
    rw [Instance.execute_of_not_landed misses] at same
    exact ⟨gremlin, found, congrArg board same⟩

theorem board_of_heal {amount : Nat} (success : s.heal id amount = .ok s') :
    s'.board = s.board.modify id (·.heal amount) := by
  obtain ⟨_, _, rfl⟩ := heal_eq_ok success
  rfl

end Survived

section Sound

variable {bestiary : Bestiary} (sound : ∀ template ∈ bestiary.templates, template.Sound)
  {s s' : Encounter}

include sound

theorem Reachable.removed_eq (reachable : Reachable bestiary s) {operation : Operation}
    (success : operation.run s = .ok s') : s.removed s' = (operation.victim s).toList := by
  have distinct : (s.removed s').Nodup :=
    (reachable.standing sound).orderly.numbered.distinct.filter _
  have nodup : (operation.victim s).toList.Nodup := by
    cases operation.victim s <;> simp
  have same : (s.removed s').Perm (operation.victim s).toList := by
    refine (List.perm_ext_iff_of_nodup distinct nodup).mpr fun id => ?_
    rw [removed, List.mem_filter, decide_eq_true_eq, Option.mem_toList]
    constructor
    · rintro ⟨present, left⟩
      exact (reachable.not_mem_iff_victim sound success present).mp left
    · intro kills
      have present : id ∈ s.board.ids := Board.mem_ids_iff.mpr (Operation.found_of_victim kills)
      exact ⟨present, (reachable.not_mem_iff_victim sound success present).mpr kills⟩
  cases kills : operation.victim s with
  | none =>
    rw [kills] at same
    exact List.perm_nil.mp same
  | some id =>
    rw [kills] at same
    exact List.perm_singleton.mp same

/-- Everyone sees what the player does and who is killed. -/
theorem Reachable.sees (reachable : Reachable bestiary s) {operation : Operation}
    (between : operation ≠ .advance) (success : operation.run s = .ok s') :
    Sees (operation.shown s s') s s' := by
  have standing := reachable.standing sound
  have removed := reachable.removed_eq sound success
  cases kills : operation.victim s with
  | some id =>
    obtain ⟨gremlin, found⟩ := Operation.found_of_victim kills
    obtain ⟨dead, struck, avenged, killing⟩ :=
      operation.killing standing.orderly standing.living kills found success
    have unseen : ∀ action, operation ≠ .observe action := by
      rintro action rfl
      cases kills
    rw [Operation.shown_of_kills unseen, removed, kills]
    exact killing.sees
  | none =>
    rw [kills] at removed
    have blind : (∀ action, operation ≠ .observe action) → operation.shown s s' = [] := by
      intro unseen
      rw [Operation.shown_of_kills unseen, removed]
      rfl
    cases operation with
    | spawn templateId =>
      obtain ⟨id, spawned⟩ := map_fst_eq_ok.mp success
      rw [blind fun _ same => by cases same]
      exact (spawn_effected spawned).sees standing.orderly
    | effect source duration given =>
      rw [blind fun _ same => by cases same]
      exact (applyEffect_effected success).sees standing.orderly
    | hit id given =>
      rw [blind fun _ same => by cases same]
      obtain ⟨gremlin, found, board⟩ := board_of_survived_hit kills success
      refine modify_sees (fun _ _ => ?_) (fun other before => ?_) board
      · exact (gremlin.applyHit_id given).trans (Board.id_of_get? found)
      · rw [found] at before
        cases before
        exact gremlin.applyHit_observed given
    | execute id =>
      rw [blind fun _ same => by cases same]
      obtain ⟨gremlin, found, board⟩ := board_of_missed_execute kills success
      refine modify_sees (fun _ _ => Board.id_of_get? found) (fun other before => ?_) board
      rw [found] at before
      cases before
      rfl
    | heal id amount =>
      rw [blind fun _ same => by cases same]
      exact modify_sees (fun gremlin named => (gremlin.heal_id amount).trans named)
        (fun gremlin _ => gremlin.heal_observed amount) (board_of_heal success)
    | observe action =>
      cases success
      exact observe_sees s action
    | terminate =>
      cases success
      rw [blind fun _ same => by cases same]
      exact sees_of_board_eq s.terminate_concluded.2.1
    | advance => exact absurd rfl between
    | gain _ _ | spend _ _ | notify _ | reseed _ | nest _ =>
      cases success
      rw [blind fun _ same => by cases same]
      exact sees_of_board_eq rfl

end Sound

end Encounter

end Gremlin
