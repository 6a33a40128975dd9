import Gremlin.Proofs.Encounter.Phases

set_option autoImplicit false

/-!
Broods: the live summons of a gremlin. Deeds leave every brood alone, and whoever joins the board
belongs to the brood of its summoner. So what the effects of a gremlin lead to adds to its own brood
and to those of newcomers, and to no other.
-/

namespace Gremlin

/-- What of a gremlin bears on broods. -/
structure Kin where
  id : InstanceId
  template : Template
  summoner : Option InstanceId
  alive : Bool

/-- The same gremlin, which may have lost its life in the meantime. -/
structure Kin.Fades (kin kin' : Kin) : Prop where
  id : kin'.id = kin.id
  template : kin'.template = kin.template
  summoner : kin'.summoner = kin.summoner
  alive : kin'.alive = true → kin.alive = true

theorem Kin.Fades.refl (kin : Kin) : kin.Fades kin := ⟨rfl, rfl, rfl, fun alive => alive⟩

namespace Instance

/-- A gremlin as far as broods are concerned. -/
def kin (gremlin : Instance) : Kin :=
  ⟨gremlin.id, gremlin.template, gremlin.summoner, gremlin.isAlive⟩

theorem kin_of_bare {gremlin gremlin' : Instance} (same : gremlin'.bare = gremlin.bare) :
    gremlin'.kin = gremlin.kin :=
  (congrArg kin same :)

theorem rememberCap_kin (gremlin : Instance) (effect : Effect) :
    (gremlin.rememberCap effect).kin = gremlin.kin :=
  gremlin.rememberCap_view kin effect fun _ => rfl

theorem spawn_isAlive (id : InstanceId) (template : Template) (now : Ticks)
    (summoner : Option InstanceId) :
    (spawn id template now summoner).isAlive = decide (0 < template.stats.maxHealth) := by
  rw [isAlive, Health.isDepleted]
  change (!(template.stats.maxHealth == 0)) = _
  by_cases none : template.stats.maxHealth = 0
  · simp [none]
  · simp [none, Nat.pos_of_ne_zero none]

end Instance

namespace Board

/-- Everyone on the board as far as broods are concerned. -/
def kin (board : Board) : List Kin := board.gremlins.map (·.kin)

section Kin

variable {board board' : Board}

theorem liveSummons_eq (board : Board) (id : InstanceId) :
    board.liveSummons id = board.kin.countP fun kin => kin.alive && kin.summoner = some id := by
  rw [liveSummons, alive, List.filter_filter, ← List.countP_eq_length_filter, kin, List.countP_map]
  refine List.countP_congr fun gremlin _ => ?_
  simp [Instance.kin, and_comm]

theorem ids_eq (board : Board) : board.ids = board.kin.map (·.id) := by
  rw [ids, kin, List.map_map]
  rfl

theorem map_kin_get? (board : Board) (id : InstanceId) :
    (board.get? id).map (·.kin) = board.kin.find? (·.id = id) := by
  rw [get?, kin, List.find?_map]
  rfl

theorem canSummon_iff {id : InstanceId} :
    board.canSummon id = true ↔ ∃ gremlin, board.get? id = some gremlin ∧
      gremlin.template.HasRoom (board.liveSummons id) := by
  unfold canSummon Template.HasRoom
  split
  · rename_i gremlin found
    simp only [found, Option.some.injEq, exists_eq_left']
    split
    · rename_i cap capped
      simp [capped]
    · rename_i uncapped
      simp [uncapped]
  · rename_i absent
    simp [absent]

variable (same : board'.kin = board.kin)

include same

theorem liveSummons_congr (id : InstanceId) : board'.liveSummons id = board.liveSummons id := by
  rw [liveSummons_eq, liveSummons_eq, same]

theorem kin_get?_congr (id : InstanceId) :
    (board'.get? id).map (·.kin) = (board.get? id).map (·.kin) := by
  rw [map_kin_get?, map_kin_get?, same]

end Kin

section Changes

variable {board : Board} {id : InstanceId}

theorem kin_modify {change : Instance → Instance}
    (keeps : ∀ gremlin ∈ board.gremlins, gremlin.id = id → (change gremlin).kin = gremlin.kin) :
    (board.modify id change).kin = board.kin := by
  rw [kin, modify, List.map_map]
  refine List.map_congr_left fun gremlin present => ?_
  by_cases own : gremlin.id = id
  · rw [Function.comp_apply, if_pos own, keeps gremlin present own]
  · rw [Function.comp_apply, if_neg own]

/-- Whoever joins alive belongs to the brood of its summoner. -/
theorem liveSummons_spawn (board : Board) (template : Template) (now : Ticks)
    (position : SummonPosition) (summoner : Option InstanceId) (id : InstanceId) :
    (board.spawn template now position summoner).1.liveSummons id =
      board.liveSummons id +
        if 0 < template.stats.maxHealth ∧ summoner = some id then 1 else 0 := by
  have born : (Instance.spawn ⟨board.next⟩ template now summoner).kin =
      ⟨⟨board.next⟩, template, summoner, decide (0 < template.stats.maxHealth)⟩ := by
    rw [Instance.kin, Instance.spawn_isAlive]
    rfl
  rw [liveSummons_eq, liveSummons_eq]
  cases position with
  | top =>
    rw [kin, spawn, List.map_cons, born, List.countP_cons]
    simp [kin]
  | bottom =>
    rw [kin, spawn, List.map_append, List.map_singleton, born, List.countP_append,
      List.countP_singleton]
    simp [kin]

/-- Whoever leaves alive is missing from the brood of its summoner. -/
theorem liveSummons_remove (distinct : board.ids.Nodup) {gremlin : Instance}
    (found : board.get? id = some gremlin) (parent : InstanceId) :
    board.liveSummons parent = (board.remove id).liveSummons parent +
      if gremlin.isAlive ∧ gremlin.summoner = some parent then 1 else 0 := by
  obtain ⟨gremlins, next⟩ := board
  rw [liveSummons_eq, liveSummons_eq]
  simp only [kin, remove, ids, get?] at distinct found ⊢
  induction gremlins with
  | nil => cases found
  | cons first rest ih =>
    rw [List.map_cons, List.nodup_cons] at distinct
    by_cases own : first.id = id
    · rw [List.find?_cons_of_pos (by simpa using own)] at found
      cases found
      have others : rest.filter (fun other => decide (other.id ≠ id)) = rest := by
        refine List.filter_eq_self.mpr fun other member => decide_eq_true ?_
        rintro rfl
        exact distinct.1 (own ▸ List.mem_map_of_mem member)
      rw [List.filter_cons_of_neg (by simpa using own), others, List.map_cons, List.countP_cons]
      by_cases raised : gremlin.summoner = some parent <;> simp [Instance.kin, raised]
    · rw [List.find?_cons_of_neg (by simpa using own)] at found
      rw [List.filter_cons_of_pos (by simpa using own), List.map_cons, List.map_cons,
        List.countP_cons, List.countP_cons, ih distinct.2 found]
      omega

end Changes

end Board

namespace Encounter

/-! ### What effects do to broods -/

theorem takeForce_board (event : Force → Nat → Event) (amount : Nat) (s : Encounter)
    (force : Force) : (takeForce event amount s force).board = s.board := by
  rw [takeForce_eq]

theorem Deed.kin {s s' : Encounter} (deed : Deed s s') : s'.board.kin = s.board.kin := by
  cases deed with
  | drain source amount force => rw [takeForce_board]
  | decay source amount force => rw [takeForce_board]
  | remember source effect cap =>
    cases source with
    | none => rfl
    | some id => exact Board.kin_modify fun gremlin _ _ => gremlin.rememberCap_kin effect
  | armor n id | shields n id | reflect gain id => exact Board.kin_modify fun _ _ _ => rfl
  | draw generator | notify notice | hardCap overlay force | softCap overlay force
  | totalCap overlay | pressure kind overlay | request source request | release id
  | reinstated id count | blocked id spec => rfl

theorem Deeds.kin {s s' : Encounter} (deeds : Deeds s s') : s'.board.kin = s.board.kin := by
  induction deeds with
  | refl => rfl
  | tail _ deed so_far => exact deed.kin.trans so_far

/-- Whoever is there keeps all that effects on others do not change. -/
theorem Effected.bare_kept {s s' : Encounter} (effected : Effected s s') (orderly : Orderly s)
    {id : InstanceId} {gremlin : Instance} (found : s.board.get? id = some gremlin) :
    ∃ gremlin', s'.board.get? id = some gremlin' ∧ gremlin'.bare = gremlin.bare := by
  have phase : Phase (fun _ _ _ => True) [] s s' := effected.phase orderly
  obtain ⟨gremlin', present, same⟩ :=
    get?_of_track? (phase.kept id List.not_mem_nil _ (track?_of_get? found))
  exact ⟨gremlin', present, (congrArg Track.gremlin same).symm⟩

theorem Arrival.liveSummons_le {s s' : Encounter} (arrival : Arrival s s') (id : InstanceId) :
    s.board.liveSummons id ≤ s'.board.liveSummons id := by
  cases arrival with
  | spawned template known =>
    exact Board.liveSummons_spawn s.board template s.now .bottom none id ▸ Nat.le_add_right _ _
  | summoned template position summoner known allowed =>
    exact Board.liveSummons_spawn s.board template s.now position summoner id ▸ Nat.le_add_right _ _

/-- No brood gets smaller by effects. -/
theorem Effected.liveSummons_le {s s' : Encounter} (effected : Effected s s') (id : InstanceId) :
    s.board.liveSummons id ≤ s'.board.liveSummons id := by
  induction effected with
  | refl => exact Nat.le_refl _
  | tail _ last so_far =>
    rcases last with deed | arrival
    · exact Nat.le_trans so_far (Nat.le_of_eq (Board.liveSummons_congr deed.kin id).symm)
    · exact Nat.le_trans so_far (arrival.liveSummons_le id)

/-- Of all that have joined so far, nobody but the source has got another brood. -/
structure Rears (source : Option InstanceId) (s s' : Encounter) : Prop where
  next : s.board.next ≤ s'.board.next
  others : ∀ id : InstanceId, source ≠ some id → id.value < s.board.next →
    s'.board.liveSummons id = s.board.liveSummons id

namespace Rears

variable {source : Option InstanceId} {s s' s'' : Encounter}

theorem trans (first : Rears source s s') (second : Rears source s' s'') : Rears source s s'' :=
  ⟨Nat.le_trans first.next second.next, fun id apart old =>
    (second.others id apart (Nat.lt_of_lt_of_le old first.next)).trans (first.others id apart old)⟩

theorem of_deeds (deeds : Deeds s s') : Rears source s s' :=
  ⟨Nat.le_of_eq deeds.undisturbed.next.symm, fun id _ _ => Board.liveSummons_congr deeds.kin id⟩

theorem refl (s : Encounter) : Rears source s s := of_deeds .refl

theorem welcome (s : Encounter) (template : Template) (position : SummonPosition) :
    Rears source s (s.welcome template position source) := by
  refine ⟨Nat.le_succ _, fun id apart _ => ?_⟩
  refine (Board.liveSummons_spawn s.board template s.now position source id).trans ?_
  rw [if_neg fun own => apart own.2, Nat.add_zero]

/-- What a newcomer does on joining adds to no brood of those that were there before. -/
theorem then_newcomer (first : Rears source s s') {id : InstanceId}
    (newcomer : s.board.next ≤ id.value) (second : Rears (some id) s' s'') :
    Rears source s s'' := by
  refine ⟨Nat.le_trans first.next second.next, fun other apart old => ?_⟩
  refine (second.others other ?_ (Nat.lt_of_lt_of_le old first.next)).trans
    (first.others other apart old)
  rintro ⟨⟩
  exact Nat.not_lt.mpr newcomer old

end Rears

theorem Unfolds.rears {offered : SummonSpec → Prop} {source : Option InstanceId}
    {s s' : Encounter} (unfolds : Unfolds offered source s s') : Rears source s s' := by
  induction unfolds with
  | refl _ _ s => exact .refl s
  | @plain _ source _ s' _ duration effect ih =>
    exact ih.trans (.of_deeds (applyPlain_deeds source duration s' effect))
  | @reinstated _ source _ s' _ duration ih =>
    exact ih.trans (.of_deeds (reinstate_deeds source duration s'))
  | @blocked _ id _ s' _ spec refused ih => exact ih.trans (.of_deeds (s'.turnAway_deeds id spec))
  | @missing _ source _ s' after _ spec among drawn ih =>
    exact ih.trans (.of_deeds ((drawn_deeds drawn).tail (.notify _ _)))
  | @joined _ source _ s' after _ _ spec template position allowed drawn _ ih later =>
    have deeds := drawn_deeds drawn
    have welcomed : Rears source s' (after.welcome template position source) :=
      (Rears.of_deeds deeds).trans (.welcome after template position)
    exact ih.trans (welcomed.then_newcomer (Nat.le_of_eq deeds.undisturbed.next.symm) later)

theorem enterPassive_rears {nesting : Nat} {id : InstanceId} {s s' : Encounter}
    (success : enterPassive nesting id s = .ok s') : Rears (some id) s s' :=
  (enterPassive_unfolds success).rears

theorem applyEffects_rears {source : Option InstanceId} {duration : Duration}
    {effects : List Effect} {s s' : Encounter}
    (success : s.applyEffects source duration effects = .ok s') : Rears source s s' := by
  have unfolds : Unfolds (fun _ => True) source s s' :=
    applyEffects_unfolds (fun _ _ => trivial) success
  exact unfolds.rears

end Encounter

end Gremlin
