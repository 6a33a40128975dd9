import Gremlin.Proofs.Encounter.Reach
import Gremlin.Proofs.Encounter.Upkeep
import Mathlib.Data.List.TakeWhile

set_option autoImplicit false

/-!
Everyone stays in step with the move it holds, through every phase of a tick, through deaths, and
whatever the player does.
-/

namespace Gremlin

namespace Encounter

/-- In `s'` there is as much to rely on as in `s`; and if everyone is in step in `s`, everyone is in
`s'`. -/
structure Steady (s s' : Encounter) : Prop where
  tidy : Tidy s'
  synced : Synced s → Synced s'

namespace Steady

variable {s s' s'' : Encounter} {id : InstanceId}

theorem refl (tidy : Tidy s) : Steady s s := ⟨tidy, fun synced => synced⟩

theorem trans (first : Steady s s') (second : Steady s' s'') : Steady s s'' :=
  ⟨second.tidy, fun synced => second.synced (first.synced synced)⟩

/-- Nobody's moves or overlays are touched. -/
theorem of_eq (tidy : Tidy s) (orderly : Orderly s') (caps : s'.CapsSound)
    (next : s.board.next ≤ s'.board.next) (held : ∀ id, s'.held? id = s.held? id)
    (overlays : ∀ slot, s'.overlays slot = s.overlays slot) : Steady s s' := by
  have keeps : Keeps s s' := .of_overlays_eq next overlays
  have tidy' : Tidy s' := ⟨orderly, caps, keeps.single tidy.single⟩
  exact ⟨tidy', fun synced => ⟨tidy', keeps.tagged synced.tagged, fun id =>
    (synced.inStep id).congr (held id) fun slot =>
      congrArg (OverlaySet.of? · (some id)) (overlays slot)⟩⟩

theorem of_undisturbed (tidy : Tidy s) (same : Undisturbed s s')
    (overlays : ∀ slot, s'.overlays slot = s.overlays slot) : Steady s s' :=
  have keeps : Keeps s s' := .of_overlays_eq (Nat.le_of_eq same.next.symm) overlays
  have tidy' := tidy.of_undisturbed same keeps
  of_eq tidy tidy'.orderly tidy'.caps (Nat.le_of_eq same.next.symm) same.held?_eq overlays

theorem of_spares (spares : Spares [id] s s') (own : s.InStep id → s'.InStep id) : Steady s s' := by
  refine ⟨spares.tidy, fun synced => ⟨spares.tidy, spares.tagged synced.tagged, fun other => ?_⟩⟩
  by_cases same : other = id
  · exact same ▸ own (synced.inStep id)
  · exact spares.inStep synced.tagged (by rwa [List.mem_singleton]) (synced.inStep other)

theorem of_laid {duration : Duration} (laid : Laid id duration (fun _ => .keeps) s s') :
    Steady s s' :=
  .of_spares laid.spares fun inStep => inStep.congr laid.held laid.own

/-- Nobody who was there is concerned. -/
theorem of_bystanders (spares : Spares [] s s') : Steady s s' :=
  ⟨spares.tidy, fun synced => ⟨spares.tidy, spares.tagged synced.tagged, fun id =>
    spares.inStep synced.tagged List.not_mem_nil (synced.inStep id)⟩⟩

end Steady

theorem foldlM_steady {act : Encounter → InstanceId → Except EncounterError Encounter}
    (each : ∀ {s id s'}, Tidy s → act s id = .ok s' → Steady s s') {ids : List InstanceId}
    {s s' : Encounter} (tidy : Tidy s) (success : ids.foldlM act s = .ok s') : Steady s s' :=
  foldlM_preserves (motive := Steady s) ids
    (fun _ _ _ _ so_far stepped => so_far.trans (each so_far.tidy stepped)) (.refl tidy) success

/-! ### Phases of a tick -/

/-- Whoever was in step before the passive phase or not, everyone is after it. -/
theorem applyPassives_synced {s s' : Encounter} (tidy : Tidy s) (living : s.Living)
    (success : s.applyPassives = .ok s') : Tidy s' ∧ (s.Tagged → Synced s') := by
  have start := lifted_tidy tidy
  have spares : Spares s.board.ids s.lifted s' := foldlM_spares holdMove_spares start
    start.orderly.numbered.below success
  refine ⟨spares.tidy, fun tagged => ?_⟩
  have tagged' := s.lifted_keeps.tagged tagged
  refine ⟨spares.tidy, spares.tagged tagged', fun id => ?_⟩
  by_cases present : id ∈ s.board.ids
  · obtain ⟨held, own⟩ := renews_in_turn tidy living tidy.orderly.numbered.distinct
      (List.Subset.refl _) success present
    exact .of_renewed continuousEffects_renews (show s'.held? id = s.lifted.held? id from held) own
      fun slot overlay found => not_passive_of_lifted tidy found
  · have idle : s.lifted.held? id = none := by
      change (s.board.get? id).bind _ = none
      rw [Board.get?_eq_none_iff.mpr present, Option.bind_none]
    refine spares.inStep tagged' present
      ⟨fun slot overlay found passive => ?_, fun slot move value held => ?_⟩
    · exact absurd passive (not_passive_of_lifted tidy found)
    · rw [idle] at held
      cases held

theorem fireMove_steady {s s' : Encounter} {id : InstanceId} (tidy : Tidy s)
    (success : s.fireMove id = .ok s') : Steady s s' := by
  have spares := fireMove_spares tidy success
  rcases ifAlive_eq_ok success with ⟨gremlin, found, alive, _⟩ | ⟨rfl, _⟩
  · rcases fireMove_laid tidy found alive success with kept | ⟨idle, ticks, laid⟩
    · exact .of_laid kept
    · refine .of_spares spares fun inStep =>
        ⟨fun slot overlay present passive => ?_, fun slot move value held => ?_⟩
      · have own := laid.own slot
        rw [present] at own
        rcases own with same | none | ⟨value, timed⟩
        · rw [laid.held]
          exact inStep.sourced slot overlay same.symm passive
        · cases none
        · cases timed
          cases passive
      · rw [laid.held, idle] at held
        cases held
  · exact .refl tidy

theorem changeMove_steady {s s' : Encounter} {id : InstanceId} (tidy : Tidy s)
    (success : s.changeMove id = .ok s') : Steady s s' := by
  obtain ⟨spares, kept | ⟨entered, _⟩⟩ := changeMove_spares tidy success
  · exact .of_laid kept
  · exact .of_spares spares fun _ => entered

theorem overlays_expire (s : Encounter) (slot : Slot) :
    s.expire.overlays slot = (s.overlays slot).expire :=
  overlays_mapOverlays (·.expire) s slot

theorem overlay?_expire_passive {s : Encounter} (tidy : Tidy s) {slot : Slot} {id : InstanceId}
    {overlay : Overlay} (passive : overlay.duration = .passive) :
    s.expire.overlay? slot id = some overlay ↔ s.overlay? slot id = some overlay := by
  rw [overlay?, overlays_expire]
  exact OverlaySet.of?_expire_passive (tidy.single slot) passive

theorem expire_steady {s : Encounter} (tidy : Tidy s) : Steady s s.expire := by
  have keeps : Keeps s s.expire := .shrinks (Nat.le_refl _) s.overlays_expire
    (fun set single => single.expire) fun set => by
      rw [OverlaySet.sources_expire]
      exact set.sources_keep_subset _
  have tidy' : Tidy s.expire := tidy.of_undisturbed s.expire_undisturbed keeps
  refine ⟨tidy', fun synced => ⟨tidy', keeps.tagged synced.tagged, fun id =>
    ⟨fun slot overlay found passive => ?_, fun slot move value held certain stands => ?_⟩⟩⟩
  · rw [overlay?_expire_passive tidy passive] at found
    exact (synced.inStep id).sourced slot overlay found passive
  · rw [overlay?_expire_passive tidy rfl]
    exact (synced.inStep id).stands slot move value held certain stands

/-! ### Deaths -/

theorem held?_observe (s : Encounter) (action : PlayerAction) (id : InstanceId) :
    (s.observe action).held? id = s.held? id := by
  have found : (s.observe action).board.get? id = (s.board.get? id).map (·.observe action) :=
    Board.get?_map fun _ => rfl
  rw [held?, found, held?]
  cases s.board.get? id <;> rfl

/-- With the buried its move and its passive overlays go; nobody else loses any. -/
theorem bury_steady {s s' : Encounter} {id : InstanceId} (tidy : Tidy s)
    (success : s.bury id = .ok s') : Steady s s' := by
  have played := (bury_played tidy.orderly success).1
  rcases bury_eq_ok success with ⟨_, rfl⟩ | ⟨gremlin, after, found, effects, same⟩
  · exact .refl tidy
  · have laid := applyEffects_laid tidy (tidy.joined found) effects
    have single := laid.spares.tidy.single
    have overlays : ∀ slot, s'.overlays slot = (after.overlays slot).releasePassive id :=
      same ▸ overlays_releasePassive _ id
    have board : s'.board = (after.board.remove id).map (·.observe .gremlinKilled) :=
      same ▸ after.parting_board id gremlin
    have next : s'.board.next = after.board.next := by
      rw [board]
      rfl
    have keeps : Keeps after s' := .shrinks (Nat.le_of_eq next.symm) overlays
      (fun set single => single.releasePassive id) fun set => set.sources_keep_subset _
    have held : ∀ other, s'.held? other = ((after.board.remove id).get? other).bind
        (·.passiveMove?) := by
      intro other
      have found : s'.board.get? other =
          ((after.board.remove id).get? other).map (·.observe .gremlinKilled) := by
        rw [board]
        exact Board.get?_map fun _ => rfl
      rw [held?, found]
      cases (after.board.remove id).get? other <;> rfl
    -- the death has effects of its own, some of which may outlast it
    have gone : Spares [id] after s' := by
      refine .of_eq ⟨played.orderly, played.caps tidy.caps, keeps.single single⟩ next keeps.tagged
        (fun other outside => ?_) fun other outside slot => ?_
      · rw [List.mem_singleton] at outside
        rw [held, Board.get?_remove_other outside]
        rfl
      · rw [List.mem_singleton] at outside
        rw [overlay?, overlays]
        exact OverlaySet.of?_releasePassive_other (single slot) fun same =>
          outside (Option.some.inj same)
    refine .of_spares (laid.spares.trans gone fun other only => ?_) fun _ =>
      ⟨fun slot overlay present passive => ?_, fun slot move value holds => ?_⟩
    · exact List.mem_singleton.mp only ▸ tidy.joined found
    · rw [overlay?, overlays] at present
      exact absurd passive (not_passive_of_releasePassive (single slot)
        ((congrArg (OverlaySet.of? · (some id)) (overlays_releasePassive after id slot)).trans present))
    · rw [held, Board.get?_remove_same] at holds
      cases holds

theorem overlays_terminate (s : Encounter) (slot : Slot) :
    s.terminate.overlays slot = s.overlays slot := by
  unfold terminate
  split
  · rfl
  · cases slot <;> rfl

theorem terminate_steady {s : Encounter} (tidy : Tidy s) : Steady s s.terminate := by
  obtain ⟨_, board, _, turns, _⟩ := s.terminate_concluded
  refine .of_eq tidy (tidy.orderly.of_board_eq board turns) (tidy.caps.of_board_eq board)
    (Nat.le_of_eq (board ▸ rfl)) (fun id => ?_) s.overlays_terminate
  rw [held?, board]
  rfl

theorem pruneDead_steady {s s' : Encounter} (tidy : Tidy s) (success : s.pruneDead = .ok s') :
    Steady s s' := by
  rw [pruneDead, bind_eq_ok] at success
  obtain ⟨after, buried, success⟩ := success
  have settled : Steady s after := foldlM_steady bury_steady tidy buried
  cases success
  split
  · exact settled.trans (terminate_steady settled.tidy)
  · exact settled

/-! ### What play does -/

theorem begun_overlays (s : Encounter) (slot : Slot) : s.begun.overlays slot = s.overlays slot := by
  cases slot <;> rfl

theorem begun_keeps (s : Encounter) : Keeps s s.begun :=
  .of_overlays_eq (Nat.le_refl _) s.begun_overlays

theorem begun_tidy {s : Encounter} (tidy : Tidy s) : Tidy s.begun :=
  ⟨begun_orderly tidy.orderly, tidy.caps.of_board_eq s.begun_board, s.begun_keeps.single tidy.single⟩

theorem advance_steady {s s' : Encounter} (tidy : Tidy s)
    (sound : ∀ template ∈ s.bestiary.templates, template.Sound) (living : s.Living)
    (success : s.advance = .ok s') : Steady s s' := by
  obtain ⟨held, fired, changed, stations⟩ := advance_stations tidy.orderly sound living success
  obtain ⟨holding, synced⟩ := applyPassives_synced (begun_tidy tidy) (begun_living living)
    stations.holds
  have firing := foldlM_steady fireMove_steady holding stations.fires
  have changing := foldlM_steady changeMove_steady firing.tidy stations.changes
  have expiring := expire_steady changing.tidy
  have rest := ((firing.trans changing).trans expiring).trans
    (pruneDead_steady expiring.tidy stations.ends)
  exact ⟨rest.tidy, fun before => rest.synced (synced (s.begun_keeps.tagged before.tagged))⟩

/-- Whether an operation does an effect out of turn, on behalf of whomever. -/
def Operation.isEffect : Operation → Bool
  | effect .. => true
  | _ => false

/-- A gremlin is changed but for its move, and it is told. -/
theorem blow_steady {s : Encounter} {id : InstanceId} {gremlin gremlin' : Instance} {event : Event}
    (tidy : Tidy s) (found : s.board.get? id = some gremlin) (still : event.mover? = none)
    (same : gremlin'.id = gremlin.id) (caps : gremlin'.installedCaps = gremlin.installedCaps)
    (passive : gremlin'.passiveMove? = gremlin.passiveMove?) :
    Steady s ((s.modify id fun _ => gremlin').record event) := by
  have struck : Laid id .permanent (fun _ => .keeps) s (s.modify id fun _ => gremlin') :=
    modify_laid tidy found _ (fun _ _ => same.trans (Board.id_of_get? found)) caps passive
  exact (Steady.of_laid struck).trans (.of_undisturbed struck.spares.tidy (.record still _)
    fun slot => rfl)

theorem Ensues.steady {s told s' : Encounter} {killed : Bool} (ensues : Ensues told killed s')
    (steady : Steady s told) : Steady s s' := by
  cases ensues with
  | burial _ prunes => exact steady.trans (pruneDead_steady steady.tidy prunes)
  | nothing _ same => exact same ▸ steady

theorem applyHit_steady {s s' : Encounter} {id : InstanceId} {hit : Hit} {outcome : HitOutcome}
    (tidy : Tidy s) (success : s.applyHit id hit = .ok (s', outcome)) : Steady s s' := by
  obtain ⟨gremlin, found, rfl, ensues⟩ := applyHit_eq_ok success
  have passive : (gremlin.applyHit hit).1.passiveMove? = gremlin.passiveMove? := by
    unfold Instance.applyHit
    dsimp only
    split
    · rfl
    · split <;> rfl
  have told := blow_steady tidy found
    (rfl : (Event.hit id (gremlin.applyHit hit).2).mover? = none)
    (gremlin.applyHit_id hit) (gremlin.applyHit_installedCaps hit) passive
  exact ensues.steady told

theorem execute_steady {s s' : Encounter} {id : InstanceId} {landed : Bool}
    (tidy : Tidy s) (success : s.execute id = .ok (s', landed)) : Steady s s' := by
  obtain ⟨gremlin, found, rfl, ensues⟩ := execute_eq_ok success
  have passive : gremlin.execute.1.passiveMove? = gremlin.passiveMove? := by
    unfold Instance.execute
    split <;> rfl
  have told := blow_steady tidy found
    (rfl : (Event.executed id gremlin.execute.2).mover? = none) gremlin.execute_id
    gremlin.execute_installedCaps passive
  exact ensues.steady told

theorem heal_steady {s s' : Encounter} {id : InstanceId} {amount : Nat} (tidy : Tidy s)
    (success : s.heal id amount = .ok s') : Steady s s' := by
  obtain ⟨gremlin, found, rfl⟩ := heal_eq_ok success
  have passive : (gremlin.heal amount).passiveMove? = gremlin.passiveMove? :=
    gremlin.heal_view (·.passiveMove?) amount fun _ => rfl
  have healed : Laid id .permanent (fun _ => .keeps) s (s.modify id (·.heal amount)) :=
    modify_laid tidy found (·.heal amount) (fun other => (other.heal_id amount).trans)
      (gremlin.heal_installedCaps amount) passive
  exact .of_laid healed

theorem observe_steady {s : Encounter} (tidy : Tidy s) (action : PlayerAction) :
    Steady s (s.observe action) := by
  obtain ⟨played, _⟩ := observe_played tidy.orderly action
  exact .of_eq tidy played.orderly (played.caps tidy.caps) played.next (s.held?_observe action)
    fun slot => rfl

theorem overlays_gain (s : Encounter) (force : Force) (amount : Nat) (slot : Slot) :
    (s.gain force amount).1.overlays slot = s.overlays slot := by
  refine overlays_congr ?_ ?_ ?_ ?_ slot
  · exact Pool.clamp_hardCaps _
  · exact Pool.clamp_softCaps _
  · exact Pool.clamp_totalCaps _
  · rfl

theorem overlays_spend (s : Encounter) (force : Force) (amount : Nat) (slot : Slot) :
    (s.spend force amount).1.overlays slot = s.overlays slot := by
  have pool : (s.spend force amount).1.pool = (s.pool.spend force amount).1 := rfl
  rcases s.pool.spend_fst force amount with same | drained
  · rw [same] at pool
    refine overlays_congr ?_ ?_ ?_ ?_ slot <;> first | rw [pool] | rfl
  · rw [drained] at pool
    refine overlays_congr ?_ ?_ ?_ ?_ slot <;> first | (rw [pool]; rfl) | rfl

/-- Whatever is done, unless it is an effect out of turn, keeps everyone in step. -/
theorem Operation.steady {bestiary : Bestiary} {s s' : Encounter} {operation : Operation}
    (tidy : Tidy s) (sound : ∀ template ∈ bestiary.templates, template.Sound)
    (standing : Standing bestiary s) (plays : operation.isEffect = false)
    (success : operation.run s = .ok s') : Steady s s' := by
  cases operation with
  | spawn templateId =>
    obtain ⟨id, spawned⟩ := map_fst_eq_ok.mp success
    exact .of_bystanders (spawn_spares tidy spawned)
  | effect => cases plays
  | gain force amount =>
    cases success
    exact .of_undisturbed tidy (.of_board_eq rfl rfl rfl fun _ => rfl)
      (s.overlays_gain force amount)
  | spend force amount =>
    cases success
    exact .of_undisturbed tidy (.of_board_eq rfl rfl rfl fun _ => rfl)
      (s.overlays_spend force amount)
  | hit id given =>
    obtain ⟨outcome, struck⟩ := map_fst_eq_ok.mp success
    exact applyHit_steady tidy struck
  | execute id =>
    obtain ⟨landed, struck⟩ := map_fst_eq_ok.mp success
    exact execute_steady tidy struck
  | heal id amount => exact heal_steady tidy success
  | observe action =>
    cases success
    exact observe_steady tidy action
  | notify notice =>
    cases success
    exact .of_undisturbed tidy (Deed.notify s notice).undisturbed fun slot => rfl
  | terminate =>
    cases success
    exact terminate_steady tidy
  | advance =>
    exact advance_steady tidy (standing.known ▸ sound) standing.living success
  | reseed generator =>
    cases success
    exact .of_undisturbed tidy (Deed.draw s generator).undisturbed fun slot => rfl
  | nest depth =>
    cases success
    exact .of_undisturbed tidy (.of_board_eq rfl rfl rfl fun _ => rfl) fun slot => rfl

theorem Operation.tidy {bestiary : Bestiary} {s s' : Encounter} {operation : Operation}
    (tidy : Tidy s) (sound : ∀ template ∈ bestiary.templates, template.Sound)
    (standing : Standing bestiary s) (success : operation.run s = .ok s') : Tidy s' := by
  cases plays : operation.isEffect with
  | false => exact (operation.steady tidy sound standing plays success).tidy
  | true =>
    cases operation with
    | effect source duration given =>
      have done : s.applyEffect source duration given = .ok s' := success
      exact (applyEffect_effected done).tidy tidy
    | _ => cases plays

end Encounter

end Gremlin
