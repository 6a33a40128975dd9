import Gremlin.Catalog
import Gremlin.Proofs.Encounter.Synced

set_option autoImplicit false

/-!
Passive overlays of every encounter that play comes to: each belongs to a gremlin on the board that
holds a passive move, and no gremlin that holds one lacks any of the overlays its move is certain
to lay. From one tick to the next those stay that the move lays itself.
-/

namespace Gremlin

namespace Encounter

/-- The encounters over a bestiary that play comes to: whatever is done, effects are done by
gremlins in their turns alone. -/
inductive ByPlay (bestiary : Bestiary) : Encounter → Prop
  | fresh (seed : Nat) : ByPlay bestiary (new bestiary seed)
  | arranged {scenario : Scenario} {s : Encounter}
      (success : ofScenario scenario bestiary = .ok s) : ByPlay bestiary s
  | step {s s' : Encounter} (so_far : ByPlay bestiary s) (operation : Operation)
      (plays : operation.isEffect = false) (success : operation.run s = .ok s') :
      ByPlay bestiary s'

namespace ByPlay

variable {bestiary : Bestiary} {s s' : Encounter}

theorem reachable (play : ByPlay bestiary s) : Reachable bestiary s := by
  induction play with
  | fresh seed => exact .fresh seed
  | arranged success => exact .arranged success
  | step _ operation _ success ih => exact ih.step operation success

theorem runAll {operations : List Operation} (play : ByPlay bestiary s)
    (plays : ∀ operation ∈ operations, operation.isEffect = false)
    (success : Operation.runAll s operations = .ok s') : ByPlay bestiary s' :=
  foldlM_preserves (motive := ByPlay bestiary) operations
    (fun _ operation _ member so_far ran => so_far.step operation (plays operation member) ran)
    play success

end ByPlay

/-! ### What everything starts from -/

theorem pool_foldl_set (amounts : List (Force × Nat)) (pool : Pool) :
    let filled := amounts.foldl (fun pool entry => pool.set entry.1 entry.2) pool
    filled.hardCaps = pool.hardCaps ∧ filled.softCaps = pool.softCaps ∧
      filled.totalCaps = pool.totalCaps := by
  induction amounts generalizing pool with
  | nil => exact ⟨rfl, rfl, rfl⟩
  | cons entry rest ih =>
    obtain ⟨hard, soft, total⟩ := ih (pool.set entry.1 entry.2)
    exact ⟨hard.trans (Pool.clamp_hardCaps _), soft.trans (Pool.clamp_softCaps _),
      total.trans (Pool.clamp_totalCaps _)⟩

theorem overlays_new (bestiary : Bestiary) (seed : Nat) (slot : Slot) :
    (new bestiary seed).overlays slot = {} := by
  rcases slot with f | f | _ | kind
  · exact ByForce.get_const _ f
  · exact ByForce.get_const _ f
  · rfl
  · cases kind <;> rfl

/-- A scenario puts gremlins on an empty board, with no overlays on the player. -/
theorem ofScenario_spawns {scenario : Scenario} {bestiary : Bestiary} {s : Encounter}
    (success : ofScenario scenario bestiary = .ok s) :
    ∃ start, Blank bestiary start ∧ (∀ slot, start.overlays slot = {}) ∧
      scenario.gremlins.foldlM (fun s id => (s.spawn id).map (·.1)) start = .ok s := by
  obtain ⟨_, _, _, amounts, _, spawns⟩ := ofScenario_eq_ok success
  refine ⟨_, ⟨rfl, rfl, rfl⟩, fun slot => ?_, spawns⟩
  obtain ⟨hard, soft, total⟩ := pool_foldl_set amounts {}
  rw [← overlays_new bestiary (scenario.seed.getD defaultSeed) slot]
  refine overlays_congr ?_ ?_ ?_ ?_ slot
  · exact hard
  · exact soft
  · exact total
  · rfl

theorem Blank.synced {bestiary : Bestiary} {s : Encounter} (blank : Blank bestiary s)
    (overlays : ∀ slot, s.overlays slot = {}) : Synced s := by
  have standing := blank.standing
  have none : ∀ slot id, s.overlay? slot id = none := fun slot id => by
    rw [overlay?, overlays]
    rfl
  refine ⟨⟨standing.orderly, standing.caps, fun slot => ?_⟩, fun slot source member => ?_,
    fun id => ⟨fun slot overlay found => ?_, fun slot move value held => ?_⟩⟩
  · rw [overlays]
    exact List.nodup_nil
  · rw [overlays] at member
    cases member
  · rw [none] at found
    cases found
  · rw [held?, blank.board] at held
    cases held

theorem synced_of_ofScenario {scenario : Scenario} {bestiary : Bestiary} {s : Encounter}
    (success : ofScenario scenario bestiary = .ok s) : Synced s := by
  obtain ⟨start, blank, bare, spawns⟩ := ofScenario_spawns success
  refine foldlM_preserves _ (fun state id next _ synced success => ?_) (blank.synced bare) spawns
  obtain ⟨joined, spawned⟩ := map_fst_eq_ok.mp success
  exact (Steady.of_bystanders (spawn_spares synced.tidy spawned)).synced synced

theorem ByPlay.synced {bestiary : Bestiary} (sound : ∀ template ∈ bestiary.templates, template.Sound)
    {s : Encounter} (play : ByPlay bestiary s) : Synced s := by
  induction play with
  | fresh seed => exact (new_blank bestiary seed).synced (overlays_new bestiary seed)
  | arranged success => exact synced_of_ofScenario success
  | step so_far operation plays success ih =>
    exact (operation.steady ih.tidy sound (so_far.reachable.standing sound) plays success).synced ih

theorem Reachable.tidy {bestiary : Bestiary} (sound : ∀ template ∈ bestiary.templates, template.Sound)
    {s : Encounter} (reachable : Reachable bestiary s) : Tidy s := by
  induction reachable with
  | fresh seed => exact ((new_blank bestiary seed).synced (overlays_new bestiary seed)).tidy
  | arranged success => exact (synced_of_ofScenario success).tidy
  | step so_far operation success ih =>
    exact operation.tidy ih sound (so_far.standing sound) success

/-! ### No passive overlay is leaked, and none is missing -/

/-- The overlays of a gremlin in a slot are the one that is found there. -/
theorem Tidy.filter_source {s : Encounter} (tidy : Tidy s) (slot : Slot) (id : InstanceId) :
    (s.overlays slot).overlays.filter (·.source = some id) = (s.overlay? slot id).toList :=
  OverlaySet.overlays_filter_source (tidy.single slot)

theorem Tidy.mem_iff {s : Encounter} (tidy : Tidy s) {slot : Slot} {id : InstanceId}
    {overlay : Overlay} (own : overlay.source = some id) :
    overlay ∈ (s.overlays slot).overlays ↔ s.overlay? slot id = some overlay := by
  rw [OverlaySet.mem_overlays_iff (tidy.single slot), own]
  rfl

/-- In every slot each passive overlay is one of a gremlin on the board that holds a passive move
with an effect for that slot; and where such a move is certain to lay one, its gremlin has exactly
the one that the last of its effects for the slot lays. -/
theorem passive_overlays_in_step {records : List Record} {s : Encounter}
    (play : ByPlay (Bestiary.load records).1 s) (slot : Slot) :
    (∀ overlay ∈ (s.overlays slot).overlays, overlay.duration = .passive →
      ∃ id gremlin move, overlay.source = some id ∧ s.board.get? id = some gremlin ∧
        gremlin.passiveMove? = some move ∧ move.reaches slot = true) ∧
    ∀ id gremlin move value, s.board.get? id = some gremlin → gremlin.passiveMove? = some move →
      move.draws slot = false → move.standing? slot = some value →
      (s.overlays slot).overlays.filter (·.source = some id) = [⟨value, .passive, some id⟩] := by
  have synced := play.synced fun _ member => Bestiary.sound_of_mem_load member
  refine ⟨fun overlay present passive => ?_, fun id gremlin move value found passive certain stands => ?_⟩
  · obtain ⟨id, own, _⟩ := synced.tagged slot _ (List.mem_map_of_mem present)
    rw [synced.tidy.mem_iff own] at present
    obtain ⟨move, held, reaches⟩ := (synced.inStep id).sourced slot overlay present passive
    obtain ⟨gremlin, found, passive⟩ := Option.bind_eq_some_iff.mp held
    exact ⟨id, gremlin, move, own, found, passive, reaches⟩
  · have held : s.held? id = some move := (held?_of_get? found).trans passive
    rw [synced.tidy.filter_source, (synced.inStep id).stands slot move value held certain stands]
    rfl

/-- The soft caps of a paradox in its last move. -/
theorem passive_overlays_in_step_paradox : ∃ s,
    Operation.runAll (new (Bestiary.load (Catalog.elites.filter
      (·.templateId = "balanced_paradox"))).1 7)
      (.spawn "balanced_paradox" :: List.replicate 10 .advance) = .ok s ∧
    (s.overlays (.softCap .heat)).overlays.filter (·.source = some ⟨0⟩) =
      [⟨8, .passive, some ⟨0⟩⟩] := by
  have ran : ((Operation.runAll (new (Bestiary.load (Catalog.elites.filter
      (·.templateId = "balanced_paradox"))).1 7)
      (.spawn "balanced_paradox" :: List.replicate 10 .advance)).toOption.map fun s =>
        (s.held? ⟨0⟩).map fun move =>
          (move.draws (.softCap .heat), move.standing? (.softCap .heat))) =
      some (some (false, some 8)) := by
    decide +kernel
  obtain ⟨s, success, shown⟩ := toOption_map_eq_some.mp ran
  obtain ⟨move, held, told⟩ := Option.map_eq_some_iff.mp shown
  obtain ⟨certain, stands⟩ := Prod.mk.inj told
  obtain ⟨gremlin, found, passive⟩ := Option.bind_eq_some_iff.mp held
  have play := (ByPlay.fresh 7).runAll (by decide +kernel) success
  exact ⟨s, success, (passive_overlays_in_step play _).2 ⟨0⟩ gremlin move 8 found passive certain
    stands⟩

/-! ### From one tick to the next -/

/-- What another gremlin does in its turn leaves alone what one holds and what that keeps up. -/
theorem Spares.holds {u next : Encounter} {id other : InstanceId} {move : Move}
    (spares : Spares [other] u next) (apart : other ≠ id) (held : u.held? id = some move)
    (joined : id.value < u.board.next) :
    next.held? id = some move ∧ ∀ slot, next.overlay? slot id = u.overlay? slot id := by
  have outside : id ∉ [other] := fun single => apart (List.mem_singleton.mp single).symm
  exact ⟨(spares.held id outside joined).trans held, spares.overlay id outside joined⟩

/-- Whoever holds a passive move through the firing of moves keeps its overlays. -/
theorem fireMoves_keeps {s s' : Encounter} {id : InstanceId} {move : Move} (tidy : Tidy s)
    (held : s.held? id = some move) (success : s.fireMoves = .ok s') :
    Tidy s' ∧ s'.held? id = some move ∧ ∀ slot, s'.overlay? slot id = s.overlay? slot id := by
  refine foldlM_preserves (motive := fun u => Tidy u ∧ u.held? id = some move ∧
    ∀ slot, u.overlay? slot id = s.overlay? slot id) _ ?_ ⟨tidy, held, fun _ => rfl⟩ success
  rintro u other next - ⟨tidy, held, kept⟩ stepped
  have spares := fireMove_spares tidy stepped
  by_cases same : other = id
  · subst same
    rcases ifAlive_eq_ok stepped with ⟨gremlin, found, alive, _⟩ | ⟨rfl, _⟩
    · rcases fireMove_laid tidy found alive stepped with laid | ⟨idle, _⟩
      · exact ⟨spares.tidy, laid.held.trans held, fun slot => (laid.own slot).trans (kept slot)⟩
      · rw [idle] at held
        cases held
    · exact ⟨tidy, held, kept⟩
  · obtain ⟨gremlin, found, _⟩ := Option.bind_eq_some_iff.mp held
    obtain ⟨holds, keeps⟩ := spares.holds same held (tidy.joined found)
    exact ⟨spares.tidy, holds, fun slot => (keeps slot).trans (kept slot)⟩

theorem Track.Changed.turns_subset {now : Ticks} {track track' : Track}
    (changed : Track.Changed now track track') : track.turns ⊆ track'.turns := by
  cases changed with
  | lifeless | stays => exact List.Subset.refl _
  | enters => exact List.subset_append_left ..

/-- Whoever enters no move while moves are changed keeps its move and its overlays. -/
theorem runTransitions_keeps {s s' : Encounter} {id : InstanceId} {move : Move} (tidy : Tidy s)
    (held : s.held? id = some move) (success : s.runTransitions = .ok s')
    (stays : ∀ index, ⟨s.now, .moveEntered id index⟩ ∉ s'.turns id) :
    Tidy s' ∧ s'.held? id = some move ∧ ∀ slot, s'.overlay? slot id = s.overlay? slot id := by
  have kept : Tidy s' ∧ id ∈ s'.board.ids ∧ s'.now = s.now ∧
      ((s'.held? id = some move ∧ ∀ slot, s'.overlay? slot id = s.overlay? slot id) ∨
        ∃ index, ⟨s.now, .moveEntered id index⟩ ∈ s'.turns id) := by
    obtain ⟨gremlin, found, _⟩ := Option.bind_eq_some_iff.mp held
    -- once it has entered a move the journal keeps the entry, whatever becomes of its overlays
    refine foldlM_preserves (motive := fun u => Tidy u ∧ id ∈ u.board.ids ∧ u.now = s.now ∧
      ((u.held? id = some move ∧ ∀ slot, u.overlay? slot id = s.overlay? slot id) ∨
        ∃ index, ⟨s.now, .moveEntered id index⟩ ∈ u.turns id)) _ ?_
      ⟨tidy, Board.mem_ids_iff.mpr ⟨gremlin, found⟩, rfl, .inl ⟨held, fun _ => rfl⟩⟩ success
    rintro u other next - ⟨tidy, present, now, so_far⟩ stepped
    have phase := changeMove_phase tidy.orderly stepped
    obtain ⟨spares, turn⟩ := changeMove_spares tidy stepped
    refine ⟨spares.tidy, phase.stays present, phase.now_eq.trans now, ?_⟩
    rcases so_far with ⟨held, kept⟩ | ⟨index, entered⟩
    · by_cases same : other = id
      · subst same
        rcases turn with laid | ⟨_, index, entered⟩
        · exact .inl ⟨laid.held.trans held, fun slot => (laid.own slot).trans (kept slot)⟩
        · exact .inr ⟨index, now ▸ entered⟩
      · obtain ⟨holds, keeps⟩ := spares.holds same held (tidy.orderly.numbered.below id present)
        exact .inl ⟨holds, fun slot => (keeps slot).trans (kept slot)⟩
    · obtain ⟨gremlin, found⟩ := Board.mem_ids_iff.mp present
      have before := track?_of_get? found
      refine .inr ⟨index, ?_⟩
      by_cases same : id ∈ [other]
      · obtain ⟨track, after, changed⟩ := phase.taken id same _ before
        obtain ⟨_, _, rfl⟩ := get?_of_track? after
        exact changed.turns_subset entered
      · obtain ⟨_, _, alike⟩ := get?_of_track? (phase.kept id same _ before)
        exact (Track.mk.inj alike).2 ▸ entered
  obtain ⟨tidy', _, _, same | ⟨index, entered⟩⟩ := kept
  · exact ⟨tidy', same⟩
  · exact absurd entered (stays index)

/-- After the passive phase nothing touches the passive overlays of whoever enters no move. -/
theorem Stations.overlay?_iff {s held fired changed s' : Encounter} {id : InstanceId}
    {move : Move} (stations : Stations s held fired changed s') (tidy : Tidy held)
    (holds : held.held? id = some move)
    (stays : ∀ index, ⟨s'.now, .moveEntered id index⟩ ∉ s'.turns id) :
    s'.held? id = some move ∧ ∀ slot overlay, overlay.duration = .passive →
      (s'.overlay? slot id = some overlay ↔ held.overlay? slot id = some overlay) := by
  obtain ⟨tidyFired, heldFired, keptFired⟩ := fireMoves_keeps tidy holds stations.fires
  have ends : s'.now = changed.now ∧ s'.board = changed.board ∧
      (∀ id, s'.turns id = changed.turns id) ∧
      ∀ slot, s'.overlays slot = changed.expire.overlays slot := by
    have last := stations.ends
    rw [pruneDead, stations.nobody] at last
    rw [← Except.ok.inj last]
    split
    · obtain ⟨now, board, _, turns, _⟩ := changed.expire.terminate_concluded
      exact ⟨now, board, turns, changed.expire.overlays_terminate⟩
    · exact ⟨rfl, rfl, fun _ => rfl, fun _ => rfl⟩
  obtain ⟨now, board, turns, overlays⟩ := ends
  have time : changed.now = fired.now :=
    (runTransitions_phase tidyFired.orderly stations.changes).now_eq
  obtain ⟨tidyChanged, heldChanged, keptChanged⟩ := runTransitions_keeps tidyFired heldFired
    stations.changes fun index => by
      rw [← time, ← now, ← turns]
      exact stays index
  refine ⟨?_, fun slot overlay passive => ?_⟩
  · rw [held?, board]
    exact heldChanged
  · rw [← keptFired, ← keptChanged, ← overlay?_expire_passive tidyChanged passive]
    exact Eq.to_iff (congrArg (OverlaySet.of? · (some id) = some overlay) (overlays slot))

/-- From one tick to the next a passive overlay of whoever holds its move stays only in a slot that an
effect of the move lays one in; and if none of them draws its force, exactly if the last of them lays
its value. -/
theorem passive_overlay_stays_iff {records : List Record} {s s' : Encounter}
    (reachable : Reachable (Bestiary.load records).1 s) (success : s.advance = .ok s')
    {id : InstanceId} {move : Move} (holds : s.held? id = some move)
    (stays : ∀ index, ⟨s'.now, .moveEntered id index⟩ ∉ s'.journal.toList) (slot : Slot)
    {overlay : Overlay} (own : overlay.source = some id) (passive : overlay.duration = .passive) :
    (overlay ∈ (s'.overlays slot).overlays → move.reaches slot = true) ∧
      (move.draws slot = false →
        (overlay ∈ (s'.overlays slot).overlays ↔ move.standing? slot = some overlay.value)) := by
  have sound : ∀ template ∈ (Bestiary.load records).1.templates, template.Sound :=
    fun _ member => Bestiary.sound_of_mem_load member
  have standing := reachable.standing sound
  have tidy := reachable.tidy sound
  have tidy' := (reachable.step .advance success).tidy sound
  obtain ⟨held, fired, changed, stations⟩ := advance_stations tidy.orderly
    (standing.known ▸ sound) standing.living success
  have begun := begun_tidy tidy
  have living := begun_living standing.living
  obtain ⟨holding, _⟩ := applyPassives_synced begun living stations.holds
  obtain ⟨gremlin, found, _⟩ := Option.bind_eq_some_iff.mp holds
  obtain ⟨same, renewed⟩ := renews_in_turn begun living begun.orderly.numbered.distinct
    (List.Subset.refl _) stations.holds (Board.mem_ids_iff.mpr ⟨gremlin, found⟩)
  have renewal : held.InStep id := .of_renewed continuousEffects_renews
    (show held.held? id = s.begun.lifted.held? id from same) renewed
    fun slot overlay present => not_passive_of_lifted begun present
  rw [show s.begun.held? id = some move from holds] at same renewed
  -- what is in force after the passive phase is what is in force after the tick
  have after : overlay ∈ (s'.overlays slot).overlays ↔ held.overlay? slot id = some overlay := by
    rw [tidy'.mem_iff own]
    exact (stations.overlay?_iff holding same fun index member =>
      stays index (List.mem_filter.mp member).1).2 slot overlay passive
  rw [after]
  refine ⟨fun present => ?_, fun certain => ?_⟩
  · obtain ⟨other, known, reaches⟩ := renewal.sourced slot overlay present passive
    rw [same, Option.some.injEq] at known
    exact known ▸ reaches
  · cases stands : move.standing? slot with
    | some value =>
      rw [renewal.stands slot move value same certain stands]
      obtain ⟨laid, duration, source⟩ := overlay
      cases passive
      cases own
      simp
    | none =>
      have bare := renewed slot
      rw [heldFate, fates_continuousEffects certain, stands] at bare
      refine iff_of_false (fun present => ?_) fun none => by cases none
      exact not_passive_of_lifted begun ((bare : _ = _).symm.trans present) passive

/-- A gremlin that caps heat in passing, and then holds a passive move that installs the caps it
remembers and one of its own. -/
def warden : Record where
  templateId := "warden"
  sizeCategory := "small"
  maxHealth := 10
  moves := "ticks=1,heat_hard_cap=3|ticks=0,all_previous_constraints,precision_hard_cap=2"
  movePattern := "sequence"

/-- Through its second tick a warden holds its passive move, and loses the cap that it remembered. -/
theorem warden_run : ∃ s s' move,
    Operation.runAll (new (Bestiary.load [warden]).1 7) [.spawn "warden", .advance] = .ok s ∧
    s.advance = .ok s' ∧ s.held? ⟨0⟩ = some move ∧
    (∀ index, ⟨s'.now, .moveEntered ⟨0⟩ index⟩ ∉ s'.journal.toList) ∧
    (move.draws (.hardCap .heat) = false ∧ move.draws (.hardCap .precision) = false) ∧
    (move.standing? (.hardCap .heat) = none ∧ move.standing? (.hardCap .precision) = some 2) ∧
    (s.overlays (.hardCap .heat)).overlays = [⟨3, .passive, some ⟨0⟩⟩] ∧
    (s.overlays (.hardCap .precision)).overlays = [⟨2, .passive, some ⟨0⟩⟩] ∧
    (s'.overlays (.hardCap .heat)).overlays = [] := by
  have ran : ((Operation.runAll (new (Bestiary.load [warden]).1 7)
      [.spawn "warden", .advance]).toOption.map fun s => s.advance.toOption.map fun s' =>
        (s.held? ⟨0⟩).map fun move => decide (
          (∀ event ∈ s'.journal.toList, event.now = s'.now → event.event.mover? = none) ∧
          (move.draws (.hardCap .heat) = false ∧ move.draws (.hardCap .precision) = false) ∧
          (move.standing? (.hardCap .heat) = none ∧
            move.standing? (.hardCap .precision) = some 2) ∧
          (s.overlays (.hardCap .heat)).overlays = [⟨3, .passive, some ⟨0⟩⟩] ∧
          (s.overlays (.hardCap .precision)).overlays = [⟨2, .passive, some ⟨0⟩⟩] ∧
          (s'.overlays (.hardCap .heat)).overlays = [])) = some (some (some true)) := by
    decide +kernel
  obtain ⟨s, success, shown⟩ := toOption_map_eq_some.mp ran
  obtain ⟨s', advanced, shown⟩ := toOption_map_eq_some.mp shown
  obtain ⟨move, held, shown⟩ := Option.map_eq_some_iff.mp shown
  obtain ⟨still, told⟩ := of_decide_eq_true shown
  refine ⟨s, s', move, success, advanced, held, fun index entered => ?_, told⟩
  cases still _ entered rfl

/-- A warden's own cap stays, and the cap that it remembered does not. -/
theorem passive_overlay_stays_iff_warden : ∃ s s',
    Operation.runAll (new (Bestiary.load [warden]).1 7) [.spawn "warden", .advance] = .ok s ∧
    s.advance = .ok s' ∧
    ((s.overlays (.hardCap .precision)).overlays = [⟨2, .passive, some ⟨0⟩⟩] ∧
      ⟨2, .passive, some ⟨0⟩⟩ ∈ (s'.overlays (.hardCap .precision)).overlays) ∧
    ((s.overlays (.hardCap .heat)).overlays = [⟨3, .passive, some ⟨0⟩⟩] ∧
      ⟨3, .passive, some ⟨0⟩⟩ ∉ (s'.overlays (.hardCap .heat)).overlays) := by
  obtain ⟨s, s', move, success, advanced, held, stays, ⟨heat, precision⟩, ⟨bare, stands⟩,
    hot, precise, _⟩ := warden_run
  have reachable := (Reachable.fresh 7).runAll success
  refine ⟨s, s', success, advanced, ⟨precise, ?_⟩, hot, fun member => ?_⟩
  · exact ((passive_overlay_stays_iff reachable advanced held stays _ rfl rfl).2 precision).mpr stands
  · have laid := ((passive_overlay_stays_iff reachable advanced held stays _ rfl rfl).2 heat).mp member
    rw [bare] at laid
    cases laid

/-- Not every passive overlay of whoever holds its move stays. -/
theorem not_all_passive_overlays_stay : ¬ ∀ (records : List Record) (s s' : Encounter)
    (id : InstanceId) (move : Move), Reachable (Bestiary.load records).1 s → s.advance = .ok s' →
    s.held? id = some move → (∀ index, ⟨s'.now, .moveEntered id index⟩ ∉ s'.journal.toList) →
    ∀ slot, ∀ overlay ∈ (s.overlays slot).overlays, overlay.source = some id →
      overlay.duration = .passive → overlay ∈ (s'.overlays slot).overlays := by
  intro stay
  obtain ⟨s, s', move, success, advanced, held, stays, _, _, hot, _, gone⟩ := warden_run
  have reachable := (Reachable.fresh 7).runAll success
  have stayed := stay [warden] s s' ⟨0⟩ move reachable advanced held stays (.hardCap .heat)
    ⟨3, .passive, some ⟨0⟩⟩ (hot ▸ List.mem_singleton.mpr rfl) rfl rfl
  rw [gone] at stayed
  cases stayed

end Encounter

end Gremlin
