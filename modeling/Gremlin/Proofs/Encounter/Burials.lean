import Gremlin.Proofs.Bestiary
import Gremlin.Proofs.Encounter.Broods
import Gremlin.Proofs.Encounter.Reach

set_option autoImplicit false

/-!
What a kill comes to. The victim loses its life, does its last effects while it is still on the
board, and leaves; nothing else happens to anyone's brood.
-/

namespace Gremlin

namespace Instance

theorem applyHit_fades (gremlin : Instance) (hit : Hit) :
    gremlin.kin.Fades (gremlin.applyHit hit).1.kin := by
  unfold applyHit
  dsimp only
  split
  · exact .refl _
  · rename_i struck
    have alive : gremlin.isAlive = true := Bool.of_not_eq_false fun dead => struck (.inr dead)
    split <;> exact ⟨rfl, rfl, rfl, fun _ => alive⟩

theorem execute_fades (gremlin : Instance) : gremlin.kin.Fades gremlin.execute.1.kin := by
  unfold execute
  split
  · exact ⟨rfl, rfl, rfl, fun alive => by cases alive⟩
  · exact .refl _

end Instance

namespace Board

theorem kin_map {board : Board} {change : Instance → Instance}
    (same : ∀ gremlin, (change gremlin).kin = gremlin.kin) :
    (board.map change).kin = board.kin := by
  rw [kin, map, List.map_map]
  exact List.map_congr_left fun gremlin _ => same gremlin

/-- Whatever has changed on a gremlin is gone once it leaves. -/
theorem remove_modify {board : Board} {id : InstanceId} {change : Instance → Instance}
    (keeps : ∀ gremlin, gremlin.id = id → (change gremlin).id = id) :
    (board.modify id change).remove id = board.remove id := by
  obtain ⟨gremlins, next⟩ := board
  simp only [modify, remove, Board.mk.injEq, and_true]
  induction gremlins with
  | nil => rfl
  | cons first rest ih =>
    by_cases own : first.id = id
    · rw [List.map_cons, if_pos own, List.filter_cons_of_neg (by simpa using keeps first own), ih,
        List.filter_cons_of_neg (by simpa using own)]
    · rw [List.map_cons, if_neg own, List.filter_cons_of_pos (by simpa using own), ih,
        List.filter_cons_of_pos (by simpa using own)]

theorem exists_of_liveSummons_pos {board : Board} {id : InstanceId}
    (some : 0 < board.liveSummons id) :
    ∃ young ∈ board.gremlins, young.summoner = .some id ∧ young.isAlive = true := by
  obtain ⟨young, member⟩ := List.exists_mem_of_length_pos some
  obtain ⟨living, raised⟩ := List.mem_filter.mp member
  obtain ⟨present, alive⟩ := List.mem_filter.mp living
  exact ⟨young, present, of_decide_eq_true raised, alive⟩

end Board

namespace Encounter

/-! ### What a kill comes to -/

/-- A gremlin is struck down, does its last effects, and leaves; whoever is left sees it go. -/
structure Killing (id : InstanceId) (gremlin dead : Instance) (s struck avenged s' : Encounter) :
    Prop where
  found : s.board.get? id = some gremlin
  board : struck.board = s.board.modify id fun _ => dead
  clock : struck.clock = s.clock
  bestiary : struck.bestiary = s.bestiary
  orderly : struck.Orderly
  fades : gremlin.kin.Fades dead.kin
  lifeless : dead.isAlive = false
  avenges : struck.applyEffects (some id) .permanent gremlin.template.onDeath = .ok avenged
  watched : s'.board = (avenged.board.remove id).map (·.observe .gremlinKilled)
  goes_on : s'.board.ids ≠ [] → s'.clock = avenged.clock

section Blow

variable {s s' : Encounter} {id : InstanceId} {gremlin dead : Instance}

theorem killing_of_lifeless (orderly : Orderly s) (living : s.Living) {event : Event}
    (still : event.mover? = none) (found : s.board.get? id = some gremlin)
    (fades : gremlin.kin.Fades dead.kin) (caps : dead.installedCaps = gremlin.installedCaps)
    (lifeless : dead.isAlive = false)
    (success : ((s.modify id fun _ => dead).record event).pruneDead = .ok s') :
    ∃ dead struck avenged, Killing id gremlin dead s struck avenged s' := by
  obtain ⟨touched, quiet, fallen⟩ := blow_touched still found fades.id caps
  have struck := (Played.of_touched touched orderly quiet).orderly
  obtain ⟨buried, once, concluded⟩ :=
    pruneDead_of_dead_eq (dead_eq_singleton living touched struck fallen lifeless) success
  rcases bury_eq_ok once with ⟨absent, _⟩ | ⟨victim, avenged, present, avenges, rfl⟩
  · rw [fallen] at absent
    cases absent
  · rw [fallen] at present
    cases present
    have template : dead.template = gremlin.template := fades.template
    refine ⟨dead, (s.modify id fun _ => dead).record event, avenged, found, rfl, rfl, rfl, struck,
      fades, lifeless, template ▸ avenges, concluded.board, fun some => ?_⟩
    exact concluded.kept (concluded.board ▸ some)

end Blow

theorem Operation.killing {s s' : Encounter} {operation : Operation} {id : InstanceId}
    {gremlin : Instance} (orderly : Orderly s) (living : s.Living)
    (kills : operation.victim s = some id) (found : s.board.get? id = some gremlin)
    (success : operation.run s = .ok s') :
    ∃ dead struck avenged, Killing id gremlin dead s struck avenged s' := by
  cases operation with
  | hit target given =>
    obtain ⟨killed, same⟩ := Option.ite_none_right_eq_some.mp kills
    cases same
    rw [found, Option.any_some] at killed
    exact killing_of_lifeless orderly living rfl found (gremlin.applyHit_fades given)
      (gremlin.applyHit_installedCaps given) (Instance.applyHit_lifeless killed)
      (hit_prunes found killed success)
  | execute target =>
    obtain ⟨lands, same⟩ := Option.ite_none_right_eq_some.mp kills
    cases same
    rw [found, Option.any_some] at lands
    exact killing_of_lifeless orderly living rfl found gremlin.execute_fades
      gremlin.execute_installedCaps (Instance.execute_lifeless lands)
      (execute_prunes found lands success)
  | spawn | effect | gain | spend | heal | observe | notify | terminate | advance | reseed | nest =>
    cases kills

section Brood

variable {s struck avenged s' : Encounter} {id : InstanceId} {gremlin dead : Instance}
  (killing : Killing id gremlin dead s struck avenged s')

include killing

theorem Killing.left : s'.board.kin = (avenged.board.remove id).kin := by
  rw [killing.watched]
  exact Board.kin_map fun _ => rfl

theorem Killing.named : dead.id = id := killing.fades.id.trans (Board.id_of_get? killing.found)

theorem Killing.fallen : struck.board.get? id = some dead := by
  rw [killing.board, Board.get?_modify_same fun _ _ => killing.named, killing.found,
    Option.map_some]

/-- The victim does not come back to life by what it leads to with its last effects. -/
theorem Killing.body :
    ∃ body, avenged.board.get? id = some body ∧ body.isAlive = false := by
  obtain ⟨body, present, same⟩ := (applyEffects_effected killing.avenges).bare_kept killing.orderly
    killing.fallen
  have alike : body.isAlive = dead.isAlive := congrArg Kin.alive (Instance.kin_of_bare same)
  exact ⟨body, present, alike.trans killing.lifeless⟩

/-- Nobody's brood misses the victim once it leaves, as it is dead by then. -/
theorem Killing.liveSummons_left (parent : InstanceId) :
    s'.board.liveSummons parent = avenged.board.liveSummons parent := by
  obtain ⟨body, present, lifeless⟩ := killing.body
  have distinct := (Played.of_effected (applyEffects_effected killing.avenges)
    killing.orderly).orderly.numbered.distinct
  have left := Board.liveSummons_remove distinct present parent
  rw [lifeless, if_neg fun alive => Bool.false_ne_true alive.1, Nat.add_zero] at left
  rw [Board.liveSummons_congr killing.left, left]

end Brood

/-! ### Successors -/

/-- Whoever does a summon that names a known template has a live summon afterwards: the newcomer, or
one of those that fill its cap. -/
theorem liveSummons_pos_of_summon {s s' : Encounter} {id : InstanceId} {gremlin : Instance}
    {duration : Duration} {target : String} {template : Template}
    (found : s.board.get? id = some gremlin)
    (positive : ∀ cap, gremlin.template.targeting.summonCap = some cap → 0 < cap)
    (known : s.bestiary.get? target = some template) (healthy : 0 < template.stats.maxHealth)
    (success : s.applyEffect (some id) duration (.summon (.named target)) = .ok s') :
    0 < s'.board.liveSummons id := by
  have way := summon_summoning (enterPassive s.nesting) (some id) (.named target) s
  change s.summon (enterPassive s.nesting) (some id) (.named target) = .ok s' at success
  generalize s.summon _ _ _ = result at way success
  cases way with
  | blocked other given refused =>
    cases given
    cases success
    rw [Board.liveSummons_congr (s.turnAway_deeds id (.named target)).kin]
    have full : ¬ gremlin.template.HasRoom (s.board.liveSummons id) := by
      intro room
      rw [Board.canSummon_iff.mpr ⟨gremlin, found, room⟩] at refused
      cases refused
    obtain ⟨cap, capped, reached⟩ := Template.exists_cap_of_not_hasRoom full
    exact Nat.lt_of_lt_of_le (positive cap capped) reached
  | missing after allowed drawn =>
    have none : (s.bestiary.get? target, s) = (none, after) := drawn
    rw [known] at none
    cases none
  | joins after newcomer position allowed drawn =>
    have some : (s.bestiary.get? target, s) = (some newcomer, after) := drawn
    rw [known] at some
    cases some
    have joined := Board.liveSummons_spawn s.board template s.now position (.some id) id
    rw [if_pos ⟨healthy, rfl⟩] at joined
    exact Nat.lt_of_lt_of_le (joined ▸ Nat.succ_pos _)
      ((enterPassive_effected success).liveSummons_le id)

/-- A gremlin whose death summons another by name does not end the fight by dying: at least one of
its summons outlives it. -/
theorem successor_outlives {records : List Record} {s s' : Encounter} {operation : Operation}
    {id : InstanceId} {gremlin : Instance} {target : String}
    (reachable : Reachable (Bestiary.load records).1 s) (running : s.clock.terminated = false)
    (kills : operation.victim s = some id) (found : s.board.get? id = some gremlin)
    (names : .summon (.named target) ∈ gremlin.template.onDeath)
    (success : operation.run s = .ok s') :
    s'.board.isEmpty = false ∧ s'.clock.terminated = false ∧
      ∃ young ∈ s'.board.gremlins, young.summoner = some id ∧ young.isAlive = true := by
  have standing := reachable.standing fun _ member => Bestiary.sound_of_mem_load member
  obtain ⟨dead, struck, avenged, killing⟩ :=
    Operation.killing standing.orderly standing.living kills found success
  -- The victim is known to the bestiary, and so is whom it names.
  have member : gremlin.template ∈ (Bestiary.load records).1.templates :=
    (standing.fit id _ (track?_of_get? found)).known
  obtain ⟨heir, heirMember, named⟩ := Bestiary.load_closed records _ member target (.inr names)
  obtain ⟨template, known⟩ : ∃ template, (Bestiary.load records).1.get? target = some template := by
    rw [← Option.isSome_iff_exists, Bestiary.get?, List.find?_isSome]
    exact ⟨heir, heirMember, decide_eq_true named⟩
  -- The death effects up to the summon, the summon, and those after it.
  obtain ⟨before, after, here, next, _, early, summons, late⟩ :=
    exists_of_foldlM_eq_ok names killing.avenges
  have first : Effected struck here := applyEffects_effected early
  obtain ⟨body, present, bare⟩ := first.bare_kept killing.orderly killing.fallen
  have kept : Played [] struck here := .of_effected first killing.orderly
  have template_eq : body.template = gremlin.template :=
    (congrArg Kin.template (Instance.kin_of_bare bare)).trans killing.fades.template
  have bestiary : here.bestiary = (Bestiary.load records).1 :=
    kept.bestiary.trans (killing.bestiary.trans standing.known)
  have some : 0 < next.board.liveSummons id := by
    refine liveSummons_pos_of_summon present ?_ (bestiary ▸ known) ?_ summons
    · rw [template_eq]
      exact fun cap capped => Bestiary.summonCap_pos_of_mem_load member capped
    · exact (Bestiary.sound_of_mem_load (Bestiary.mem_of_get? known)).healthy
  have left : 0 < s'.board.liveSummons id := by
    rw [killing.liveSummons_left]
    exact Nat.lt_of_lt_of_le some ((applyEffects_effected late).liveSummons_le id)
  obtain ⟨young, joined, raised, alive⟩ := Board.exists_of_liveSummons_pos left
  have inhabited : s'.board.ids ≠ [] := List.ne_nil_of_mem (List.mem_map_of_mem joined)
  refine ⟨?_, ?_, young, joined, raised, alive⟩
  · exact Bool.eq_false_iff.mpr fun empty => inhabited (isEmpty_iff.mp empty)
  · have phase : Phase (fun _ _ _ => True) [] struck avenged :=
      (applyEffects_effected killing.avenges).phase killing.orderly
    rw [killing.goes_on inhabited, phase.clock, killing.clock]
    exact running

/-- A chrysalis out of which a moth comes when it dies. -/
def hatching : List Record := [
  { templateId := "chrysalis", sizeCategory := "small", maxHealth := 3, movePattern := "none",
    onDeath := "summon=moth" },
  { templateId := "moth", sizeCategory := "gnat", maxHealth := 1, movePattern := "none" }]

/-- A chrysalis alone on the board is killed by a hit, and the fight goes on with a moth. -/
theorem successor_outlives_chrysalis : ∃ s s',
    Operation.runAll (new (Bestiary.load hatching).1 7) [.spawn "chrysalis"] = .ok s ∧
    Operation.run s (.hit ⟨0⟩ ⟨3, false⟩) = .ok s' ∧ s'.board.ids = [⟨1⟩] ∧
    s'.board.isEmpty = false ∧ s'.clock.terminated = false := by
  have ran : ((Operation.runAll (new (Bestiary.load hatching).1 7)
      [.spawn "chrysalis"]).toOption.map fun s =>
        (s.clock.terminated, Operation.victim s (.hit ⟨0⟩ ⟨3, false⟩),
          (s.board.get? ⟨0⟩).map (·.template.onDeath),
          (Operation.run s (.hit ⟨0⟩ ⟨3, false⟩)).toOption.map (·.board.ids))) =
      some (false, some ⟨0⟩, some [.summon (.named "moth")], some [⟨1⟩]) := by
    decide +kernel
  obtain ⟨s, success, shown⟩ := toOption_map_eq_some.mp ran
  obtain ⟨running, shown⟩ := Prod.mk.inj shown
  obtain ⟨kills, shown⟩ := Prod.mk.inj shown
  obtain ⟨onDeath, struck⟩ := Prod.mk.inj shown
  obtain ⟨gremlin, found, effects⟩ := Option.map_eq_some_iff.mp onDeath
  obtain ⟨s', hits, ids⟩ := toOption_map_eq_some.mp struck
  have names : .summon (.named "moth") ∈ gremlin.template.onDeath := by
    rw [effects]
    exact List.mem_singleton_self _
  obtain ⟨some, goes_on, _⟩ :=
    successor_outlives ((Reachable.fresh 7).runAll success) running kills found names hits
  exact ⟨s, s', success, hits, ids, some, goes_on⟩

end Encounter

end Gremlin
