import Gremlin.Proofs.Encounter.Handling

set_option autoImplicit false

/-!
Deaths: whoever a hit kills or an execute lands on leaves the board, and nobody else does.
-/

namespace Gremlin

namespace Encounter

theorem observe_played {s : Encounter} (orderly : Orderly s) (action : PlayerAction) :
    Played [] s (s.observe action) ∧ (s.observe action).board.ids = s.board.ids := by
  have ids : (s.board.map (·.observe action)).ids = s.board.ids := Board.ids_map fun _ => rfl
  have found : ∀ id, (s.observe action).board.get? id =
      (s.board.get? id).map (·.observe action) := fun id => Board.get?_map fun _ => rfl
  refine ⟨⟨rfl, rfl, Nat.le_refl _, ⟨?_, orderly.silent⟩, ?_, ?_, ?_⟩, ids⟩
  · exact orderly.numbered.of_ids_eq ids (Nat.le_refl _)
  · intro id _ track present
    obtain ⟨gremlin, before, rfl⟩ := get?_of_track? present
    refine ⟨_, track?_of_get? ((found id).trans (congrArg _ before)), ?_, rfl⟩
    exact (Instance.Handled.observe gremlin action).bare
  · intro id _ track absent present
    rw [track?_eq_none_iff, ← ids] at absent
    exact absurd (mem_ids_of_track? present) absent
  · intro sound id gremlin present
    rw [found, Option.map_eq_some_iff] at present
    obtain ⟨old, before, rfl⟩ := present
    exact (sound id old before).of_eq rfl

theorem remove_played {s : Encounter} (orderly : Orderly s) (id : InstanceId) :
    Played [id] s { s with board := s.board.remove id } := by
  have others : ∀ other, other ∉ [id] →
      ({ s with board := s.board.remove id } : Encounter).track? other = s.track? other := by
    intro other apart
    rw [List.mem_singleton] at apart
    refine track?_congr ?_ rfl
    rw [Board.get?_remove_other apart]
  refine ⟨rfl, rfl, Nat.le_refl _, ⟨orderly.numbered.remove id, orderly.silent⟩, ?_, ?_, ?_⟩
  · intro other apart track found
    exact ⟨track, (others other apart).trans found, .refl track⟩
  · intro other apart track absent found
    rw [others other apart, absent] at found
    cases found
  · intro sound other gremlin found
    by_cases same : other = id
    · subst same
      rw [Board.get?_remove_same] at found
      cases found
    · rw [Board.get?_remove_other same] at found
      exact sound other gremlin found

/-- A gremlin that has done its last effects leaves; the others see it go, and are told. -/
def parting (s : Encounter) (id : InstanceId) (gremlin : Instance) : Encounter :=
  let left := ({ s with board := s.board.remove id }.releasePassive id).observe .gremlinKilled
  (left.record (.died id gremlin.template.id)).notify (.died gremlin.summary s.now)

theorem parting_board (s : Encounter) (id : InstanceId) (gremlin : Instance) :
    (s.parting id gremlin).board = (s.board.remove id).map (·.observe .gremlinKilled) := rfl

theorem bury_eq_ok {s s' : Encounter} {id : InstanceId} (success : s.bury id = .ok s') :
    (s.board.get? id = none ∧ s' = s) ∨
      ∃ gremlin avenged, s.board.get? id = some gremlin ∧
        s.applyEffects (some id) .permanent gremlin.template.onDeath = .ok avenged ∧
        s' = avenged.parting id gremlin := by
  unfold bury at success
  split at success
  · rename_i absent
    exact .inl ⟨absent, (Except.ok.inj success).symm⟩
  · rename_i gremlin found
    obtain ⟨avenged, effects, same⟩ := bind_eq_ok.mp success
    exact .inr ⟨gremlin, avenged, found, effects, (Except.ok.inj same).symm⟩

/-- The buried leaves, after its last effects; the others see it go. -/
theorem bury_played {s s' : Encounter} {id : InstanceId} (orderly : Orderly s)
    (success : s.bury id = .ok s') : Played [id] s s' ∧ id ∉ s'.board.ids := by
  rcases bury_eq_ok success with ⟨absent, rfl⟩ | ⟨gremlin, after, found, effects, rfl⟩
  · exact ⟨(Played.of_undisturbed (.refl s') orderly).mono (List.nil_subset _),
      Board.get?_eq_none_iff.mp absent⟩
  · have avenged := (Played.of_effected (applyEffects_effected effects) orderly).mono
      (List.nil_subset [id])
    have removed := remove_played avenged.orderly id
    have released := Played.of_undisturbed (releasePassive_undisturbed _ id) removed.orderly
    obtain ⟨observed, ids⟩ := observe_played released.orderly .gremlinKilled
    have died : (Event.died id gremlin.template.id).mover? = none := rfl
    have recorded := Played.of_undisturbed (.record died _) observed.orderly
    have told := fun notice =>
      Played.of_undisturbed (Deed.notify _ notice).undisturbed recorded.orderly
    refine ⟨(avenged.trans removed).trans ((((released.trans observed).trans recorded).trans
      (told _)).mono (List.nil_subset _)), ?_⟩
    intro member
    have left : id ∈ (after.board.remove id).ids := ids ▸ member
    rw [Board.ids_remove, List.mem_filter] at left
    simp at left

theorem dead_eq_singleton {s s' : Encounter} {id : InstanceId} {gremlin : Instance}
    (living : s.Living) (touched : Touched id s s') (orderly : Orderly s')
    (found : s'.board.get? id = some gremlin) (lifeless : gremlin.isAlive = false) :
    s'.board.dead = [id] := by
  have distinct : s'.board.dead.Nodup :=
    orderly.numbered.distinct.sublist (List.filter_sublist.map _)
  refine List.perm_singleton.mp ((List.perm_ext_iff_of_nodup distinct (by simp)).mpr ?_)
  intro other
  rw [Board.mem_dead_iff orderly.numbered.distinct, List.mem_singleton]
  constructor
  · rintro ⟨dead, present, still⟩
    by_cases same : other = id
    · exact same
    · have bare := touched.bare other same
      rw [present, Option.map_some] at bare
      obtain ⟨before, old, alike⟩ := Option.map_eq_some_iff.mp bare.symm
      have fit : before.health.Fit := living other _ (track?_of_get? old)
      have health : before.health = dead.health := (congrArg Instance.health alike :)
      have alive : dead.isAlive = true := Instance.isAlive_iff.mpr (health ▸ fit.positive)
      rw [still] at alive
      cases alive
  · rintro rfl
    exact ⟨gremlin, found, lifeless⟩

/-- If one gremlin alone has lost its life, it is the one that is buried. -/
theorem pruneDead_of_dead_eq {s s' : Encounter} {id : InstanceId} (only : s.board.dead = [id])
    (success : s.pruneDead = .ok s') :
    ∃ buried, s.bury id = .ok buried ∧ Concluded buried s' := by
  obtain ⟨buried, burials, concluded⟩ := pruneDead_eq_ok success
  rw [only, List.foldlM_cons, bind_eq_ok] at burials
  obtain ⟨last, burial, same⟩ := burials
  cases same
  exact ⟨buried, burial, concluded⟩

/-- Once anyone has joined, an empty board means that the fight is over. -/
def Settled (s : Encounter) : Prop :=
  0 < s.board.next → s.board.ids = [] → s.clock.terminated = true

theorem Settled.congr {s s' : Encounter} (settled : s.Settled) (ids : s'.board.ids = s.board.ids)
    (next : s'.board.next = s.board.next) (clock : s'.clock = s.clock) : s'.Settled := by
  unfold Settled
  rw [ids, next, clock]
  exact settled

/-- The player has done something that killed a given gremlin, or nobody. -/
structure Struck (victim : Option InstanceId) (s s' : Encounter) : Prop where
  played : Played victim.toList s s'
  absent : ∀ id, victim = some id → id ∉ s'.board.ids
  settled : s.Settled → s'.Settled

theorem Played.struck {s s' : Encounter} (played : Played [] s s')
    (settled : s.Settled → s'.Settled) : Struck none s s' :=
  ⟨played, fun _ none => (Option.some_ne_none _ none.symm).elim, settled⟩

theorem struck_of_undisturbed {s s' : Encounter} (same : Undisturbed s s') (orderly : Orderly s) :
    Struck none s s' :=
  (Played.of_undisturbed same orderly).struck
    fun settled => settled.congr same.ids same.next same.clock

section Blow

variable {s after s' : Encounter} {id : InstanceId} {gremlin gremlin' : Instance}

/-- Whoever has just lost its life is buried, and the fight is over if nobody is left. -/
theorem struck_of_lifeless (orderly : Orderly s) (living : s.Living) (touched : Touched id s after)
    (quiet : after.turns id = s.turns id) (found : after.board.get? id = some gremlin')
    (lifeless : gremlin'.isAlive = false) (success : after.pruneDead = .ok s') :
    Struck (some id) s s' := by
  have struck := Played.of_touched touched orderly quiet
  obtain ⟨buried, once, concluded⟩ := pruneDead_of_dead_eq
    (dead_eq_singleton living touched struck.orderly found lifeless) success
  obtain ⟨played, absent⟩ := bury_played struck.orderly once
  have ended := (Played.of_concluded concluded played.orderly).mono (List.nil_subset [id])
  refine ⟨(struck.trans played).trans ended, ?_, fun _ _ => concluded.ended⟩
  rintro other ⟨⟩
  exact concluded.board ▸ absent

theorem struck_of_handled (orderly : Orderly s) (touched : Touched id s after)
    (quiet : after.turns id = s.turns id) (before : s.board.get? id = some gremlin)
    (found : after.board.get? id = some gremlin') (handled : gremlin.Handled gremlin') :
    Struck none s after :=
  (Played.of_handled touched orderly quiet before found handled).struck
    fun settled => settled.congr touched.ids touched.next touched.clock

/-- What a blow changes on a gremlin and tells of it, before anyone is buried. -/
theorem blow_touched {event : Event} (still : event.mover? = none)
    (before : s.board.get? id = some gremlin) (same : gremlin'.id = gremlin.id)
    (caps : gremlin'.installedCaps = gremlin.installedCaps) :
    Touched id s ((s.modify id fun _ => gremlin').record event) ∧
      ((s.modify id fun _ => gremlin').record event).turns id = s.turns id ∧
      ((s.modify id fun _ => gremlin').record event).board.get? id = some gremlin' := by
  have keeps : ∀ other : Instance, other.id = id → gremlin'.id = id :=
    fun _ _ => same.trans (Board.id_of_get? before)
  refine ⟨?_, turns_record_of_none still id, get?_modify (fun _ => gremlin') keeps before⟩
  exact (Touched.modify (fun _ => gremlin') keeps before caps).trans
    ((Undisturbed.record still _).touched id)

end Blow

/-- What becomes of an encounter once a blow has been told of: whoever it killed is buried, and
otherwise nothing more happens. -/
inductive Ensues (told : Encounter) (killed : Bool) (s' : Encounter) : Prop
  | burial (kills : killed = true) (prunes : told.pruneDead = .ok s')
  | nothing (spares : killed = false) (same : s' = told)

theorem Ensues.of_eq_ok {α : Type} {told s' : Encounter} {killed : Bool} {answer answer' : α}
    (success : (do
      let s ← if killed then told.pruneDead else pure told
      return (s, answer)) = .ok (s', answer')) : answer' = answer ∧ Ensues told killed s' := by
  split at success
  · rename_i kills
    obtain ⟨pruned, prunes, same⟩ := bind_eq_ok.mp success
    cases same
    exact ⟨rfl, .burial kills prunes⟩
  · rename_i spares
    cases success
    exact ⟨rfl, .nothing (Bool.eq_false_iff.mpr spares) rfl⟩

theorem Ensues.prunes {told s' : Encounter} {killed : Bool} (ensues : Ensues told killed s')
    (kills : killed = true) : told.pruneDead = .ok s' := by
  cases ensues with
  | burial _ prunes => exact prunes
  | nothing spares _ =>
    rw [kills] at spares
    cases spares

section Strike

variable {s s' : Encounter} {id : InstanceId}

theorem applyHit_eq_ok {hit : Hit} {outcome : HitOutcome}
    (success : s.applyHit id hit = .ok (s', outcome)) :
    ∃ gremlin, s.board.get? id = some gremlin ∧ outcome = (gremlin.applyHit hit).2 ∧
      Ensues ((s.modify id fun _ => (gremlin.applyHit hit).1).record
        (.hit id (gremlin.applyHit hit).2)) (gremlin.applyHit hit).2.killed s' := by
  unfold applyHit at success
  split at success
  · cases success
  · rename_i gremlin found
    exact ⟨gremlin, found, Ensues.of_eq_ok success⟩

theorem execute_eq_ok {landed : Bool} (success : s.execute id = .ok (s', landed)) :
    ∃ gremlin, s.board.get? id = some gremlin ∧ landed = gremlin.execute.2 ∧
      Ensues ((s.modify id fun _ => gremlin.execute.1).record (.executed id gremlin.execute.2))
        gremlin.execute.2 s' := by
  unfold execute at success
  split at success
  · cases success
  · rename_i gremlin found
    exact ⟨gremlin, found, Ensues.of_eq_ok success⟩

theorem heal_eq_ok {amount : Nat} (success : s.heal id amount = .ok s') :
    ∃ gremlin, s.board.get? id = some gremlin ∧ s' = s.modify id (·.heal amount) := by
  unfold heal at success
  split at success
  · cases success
  · rename_i gremlin found
    exact ⟨gremlin, found, (Except.ok.inj success).symm⟩

end Strike

theorem applyHit_struck {s s' : Encounter} {id : InstanceId} {hit : Hit} {outcome : HitOutcome}
    (orderly : Orderly s) (living : s.Living) (success : s.applyHit id hit = .ok (s', outcome)) :
    Struck (if outcome.killed then some id else none) s s' := by
  obtain ⟨gremlin, found, rfl, ensues⟩ := applyHit_eq_ok success
  obtain ⟨touched, quiet, struck⟩ := blow_touched
    (rfl : (Event.hit id (gremlin.applyHit hit).2).mover? = none) found
    (gremlin.applyHit_id hit) (gremlin.applyHit_installedCaps hit)
  cases ensues with
  | burial kills prunes =>
    rw [if_pos kills]
    exact struck_of_lifeless orderly living touched quiet struck
      (Instance.applyHit_lifeless kills) prunes
  | nothing spares same =>
    rw [if_neg (Bool.eq_false_iff.mp spares), same]
    exact struck_of_handled orderly touched quiet found struck (.applyHit spares)

theorem execute_struck {s s' : Encounter} {id : InstanceId} {landed : Bool}
    (orderly : Orderly s) (living : s.Living) (success : s.execute id = .ok (s', landed)) :
    Struck (if landed then some id else none) s s' := by
  obtain ⟨gremlin, found, rfl, ensues⟩ := execute_eq_ok success
  obtain ⟨touched, quiet, struck⟩ := blow_touched
    (rfl : (Event.executed id gremlin.execute.2).mover? = none) found gremlin.execute_id
    gremlin.execute_installedCaps
  cases ensues with
  | burial lands prunes =>
    rw [if_pos lands]
    exact struck_of_lifeless orderly living touched quiet struck
      (Instance.execute_lifeless lands) prunes
  | nothing misses same =>
    rw [if_neg (Bool.eq_false_iff.mp misses), same]
    have unharmed := Instance.execute_of_not_landed misses
    exact struck_of_handled orderly touched quiet found struck (unharmed.symm ▸ .refl gremlin)

theorem heal_struck {s s' : Encounter} {id : InstanceId} {amount : Nat} (orderly : Orderly s)
    (success : s.heal id amount = .ok s') : Struck none s s' := by
  obtain ⟨gremlin, found, rfl⟩ := heal_eq_ok success
  have keeps : ∀ other : Instance, other.id = id → (other.heal amount).id = id :=
    fun other => (other.heal_id amount).trans
  have caps := gremlin.heal_installedCaps amount
  exact struck_of_handled orderly (.modify (·.heal amount) keeps found caps) rfl found
    (get?_modify (·.heal amount) keeps found) (.heal gremlin amount)

end Encounter

end Gremlin
