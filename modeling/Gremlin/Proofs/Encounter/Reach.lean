import Gremlin.Encounter.Run
import Gremlin.Proofs.Encounter.Deaths
import Gremlin.Proofs.Encounter.Fitness

set_option autoImplicit false

/-!
The encounters a fight can come to: set up empty or from a scenario, then any operations in any
order. What is true of the track of a newborn, and stays true under all that the player, a tick and
a change of moves do to a track, is true of every track of every such encounter.
-/

namespace Gremlin

open Gremlin.Random (Generator)

namespace Encounter

/-- What can be done with an encounter from outside. -/
inductive Operation where
  | spawn (templateId : String)
  | effect (source : Option InstanceId) (duration : Duration) (given : Effect)
  | gain (force : Force) (amount : Nat)
  | spend (force : Force) (amount : Nat)
  | hit (id : InstanceId) (given : Hit)
  | execute (id : InstanceId)
  | heal (id : InstanceId) (amount : Nat)
  | observe (action : PlayerAction)
  | notify (notice : Notice)
  | terminate
  | advance
  /-- Goes on with another generator. -/
  | reseed (generator : Generator)
  /-- Lets summons open inside one another to another depth. -/
  | nest (depth : Nat)

namespace Operation

/-- Does an operation. -/
def run (s : Encounter) : Operation → Except EncounterError Encounter
  | spawn templateId => (s.spawn templateId).map (·.1)
  | effect source duration given => s.applyEffect source duration given
  | gain force amount => .ok (s.gain force amount).1
  | spend force amount => .ok (s.spend force amount).1
  | hit id given => (s.applyHit id given).map (·.1)
  | execute id => (s.execute id).map (·.1)
  | heal id amount => s.heal id amount
  | observe action => .ok (s.observe action)
  | notify notice => .ok (s.notify notice)
  | terminate => .ok s.terminate
  | advance => s.advance
  | reseed generator => .ok { s with generator }
  | nest depth => .ok { s with nesting := depth }

/-- Does operations in order. -/
def runAll (s : Encounter) (operations : List Operation) : Except EncounterError Encounter :=
  operations.foldlM (fun s operation => operation.run s) s

/-- The gremlin an operation kills: the one that a killing hit is dealt to or an execute lands
on. -/
def victim (s : Encounter) : Operation → Option InstanceId
  | hit id given =>
    if (s.board.get? id).any fun g => (g.applyHit given).2.killed then some id else none
  | execute id => if (s.board.get? id).any (·.execute.2) then some id else none
  | _ => none

end Operation

theorem Operation.runAll_cons {s s' : Encounter} {operation : Operation} {rest : List Operation} :
    runAll s (operation :: rest) = .ok s' ↔
      ∃ after, operation.run s = .ok after ∧ runAll after rest = .ok s' := by
  rw [runAll, List.foldlM_cons, bind_eq_ok]
  rfl

theorem Operation.runAll_append {s s' : Encounter} {first second : List Operation} :
    runAll s (first ++ second) = .ok s' ↔
      ∃ after, runAll s first = .ok after ∧ runAll after second = .ok s' := by
  rw [runAll, List.foldlM_append, bind_eq_ok]
  rfl

/-- The encounters over a bestiary that a fight can come to. -/
inductive Reachable (bestiary : Bestiary) : Encounter → Prop
  | fresh (seed : Nat) : Reachable bestiary (new bestiary seed)
  | arranged {scenario : Scenario} {s : Encounter}
      (success : ofScenario scenario bestiary = .ok s) : Reachable bestiary s
  | step {s s' : Encounter} (so_far : Reachable bestiary s) (operation : Operation)
      (success : operation.run s = .ok s') : Reachable bestiary s'

theorem Reachable.runAll {bestiary : Bestiary} {s s' : Encounter} {operations : List Operation}
    (reachable : Reachable bestiary s) (success : Operation.runAll s operations = .ok s') :
    Reachable bestiary s' :=
  foldlM_preserves (motive := Reachable bestiary) operations
    (fun _ operation _ _ so_far ran => so_far.step operation ran) reachable success

/-! ### What an operation does -/

theorem Deed.settled {s s' : Encounter} (deed : Deed s s') (settled : s.Settled) : s'.Settled :=
  settled.congr deed.undisturbed.ids deed.undisturbed.next deed.undisturbed.clock

theorem Arrival.ids_ne_nil {s s' : Encounter} (arrival : Arrival s s') : s'.board.ids ≠ [] := by
  cases arrival with
  | spawned template known => simp [record, Board.spawn, Board.ids]
  | summoned template position summoner known allowed =>
    cases position <;> simp [record, Board.spawn, Board.ids]

theorem Effected.settled {s s' : Encounter} (effected : Effected s s') (settled : s.Settled) :
    s'.Settled := by
  induction effected with
  | refl => exact settled
  | tail _ last so_far =>
    rcases last with deed | arrival
    · exact deed.settled so_far
    · exact fun _ empty => absurd empty arrival.ids_ne_nil

theorem Effected.struck {s s' : Encounter} (effected : Effected s s') (orderly : Orderly s) :
    Struck none s s' :=
  (Played.of_effected effected orderly).struck effected.settled

theorem terminate_struck {s : Encounter} (orderly : Orderly s) : Struck none s s.terminate := by
  obtain ⟨now, board, bestiary, turns, ended⟩ := s.terminate_concluded
  have tracks : ∀ id, s.terminate.track? id = s.track? id := track?_of_board_eq board turns
  refine Played.struck ⟨now, bestiary, Nat.le_of_eq (board ▸ rfl),
    orderly.of_board_eq board turns, ?_, ?_, fun sound => sound.of_board_eq board⟩
    fun _ _ _ => ended
  · intro id _ track found
    exact ⟨track, (tracks id).trans found, .refl track⟩
  · intro id _ track absent found
    rw [tracks, absent] at found
    cases found

section Blow

variable {s s' : Encounter} {id : InstanceId} {gremlin : Instance}

theorem Operation.run_hit_eq_ok {given : Hit} (success : (hit id given).run s = .ok s') :
    ∃ gremlin, s.board.get? id = some gremlin ∧
      Ensues ((s.modify id fun _ => (gremlin.applyHit given).1).record
        (.hit id (gremlin.applyHit given).2)) (gremlin.applyHit given).2.killed s' := by
  obtain ⟨outcome, strikes⟩ := map_fst_eq_ok.mp success
  obtain ⟨gremlin, found, _, ensues⟩ := applyHit_eq_ok strikes
  exact ⟨gremlin, found, ensues⟩

theorem Operation.run_execute_eq_ok (success : (execute id).run s = .ok s') :
    ∃ gremlin, s.board.get? id = some gremlin ∧
      Ensues ((s.modify id fun _ => gremlin.execute.1).record (.executed id gremlin.execute.2))
        gremlin.execute.2 s' := by
  obtain ⟨landed, strikes⟩ := map_fst_eq_ok.mp success
  obtain ⟨gremlin, found, _, ensues⟩ := execute_eq_ok strikes
  exact ⟨gremlin, found, ensues⟩

theorem Operation.hit_prunes {given : Hit} (found : s.board.get? id = some gremlin)
    (kills : (gremlin.applyHit given).2.killed = true) (success : (hit id given).run s = .ok s') :
    ((s.modify id fun _ => (gremlin.applyHit given).1).record
      (.hit id (gremlin.applyHit given).2)).pruneDead = .ok s' := by
  obtain ⟨_, present, ensues⟩ := run_hit_eq_ok success
  cases found.symm.trans present
  exact ensues.prunes kills

theorem Operation.execute_prunes (found : s.board.get? id = some gremlin)
    (lands : gremlin.execute.2 = true) (success : (execute id).run s = .ok s') :
    ((s.modify id fun _ => gremlin.execute.1).record
      (.executed id gremlin.execute.2)).pruneDead = .ok s' := by
  obtain ⟨_, present, ensues⟩ := run_execute_eq_ok success
  cases found.symm.trans present
  exact ensues.prunes lands

end Blow

/-- Every operation but a tick leaves everyone alone but its victim. -/
theorem Operation.struck {s s' : Encounter} {operation : Operation} (orderly : Orderly s)
    (living : s.Living) (between : operation ≠ .advance) (success : operation.run s = .ok s') :
    Struck (operation.victim s) s s' := by
  cases operation with
  | spawn templateId =>
    obtain ⟨id, spawned⟩ := map_fst_eq_ok.mp success
    exact (spawn_effected spawned).struck orderly
  | effect source duration given => exact (applyEffect_effected success).struck orderly
  | gain _ _ | spend _ _ | nest _ =>
    cases success
    exact struck_of_undisturbed (.of_board_eq rfl rfl rfl fun _ => rfl) orderly
  | hit id given =>
    obtain ⟨outcome, struck⟩ := map_fst_eq_ok.mp success
    obtain ⟨gremlin, found, told, _⟩ := applyHit_eq_ok struck
    have blow := applyHit_struck orderly living struck
    rw [victim, found, Option.any_some, ← told]
    exact blow
  | execute id =>
    obtain ⟨landed, struck⟩ := map_fst_eq_ok.mp success
    obtain ⟨gremlin, found, told, _⟩ := execute_eq_ok struck
    have blow := execute_struck orderly living struck
    rw [victim, found, Option.any_some, ← told]
    exact blow
  | heal id amount => exact heal_struck orderly success
  | observe action =>
    cases success
    obtain ⟨played, ids⟩ := observe_played orderly action
    exact played.struck fun settled => settled.congr ids rfl rfl
  | notify notice =>
    cases success
    exact struck_of_undisturbed (Deed.notify s notice).undisturbed orderly
  | terminate =>
    cases success
    exact terminate_struck orderly
  | advance => exact absurd rfl between
  | reseed generator =>
    cases success
    exact struck_of_undisturbed (Deed.draw s generator).undisturbed orderly

/-! ### What every encounter stands on -/

/-- Nobody is there, nothing has happened. -/
structure Blank (bestiary : Bestiary) (s : Encounter) : Prop where
  bestiary : s.bestiary = bestiary
  board : s.board = {}
  journal : s.journal = #[]

theorem new_blank (bestiary : Bestiary) (seed : Nat) : Blank bestiary (new bestiary seed) :=
  ⟨rfl, rfl, rfl⟩

/-- What a fight is laid out with and nothing done in it changes. -/
structure Layout where
  bestiary : Bestiary
  maxTicks : Nat
  script : List ScriptEntry
  source : Option String

/-- What an encounter is laid out with. -/
def layout (s : Encounter) : Layout := ⟨s.bestiary, s.maxTicks, s.script, s.source⟩

/-- What a scenario asks of a fight. -/
def asked (scenario : Scenario) (bestiary : Bestiary) : Layout :=
  ⟨bestiary, scenario.maxTicks.getD defaultMaxTicks, scenario.script, scenario.source⟩

/-- The empty board of a scenario, with the player's starting amounts. -/
def laidOut (scenario : Scenario) (bestiary : Bestiary) (amounts : List (Force × Nat)) :
    Encounter :=
  { new bestiary (scenario.seed.getD defaultSeed) with
    pool := amounts.foldl (fun pool entry => pool.set entry.1 entry.2) {}
    maxTicks := scenario.maxTicks.getD defaultMaxTicks
    script := scenario.script
    source := scenario.source }

/-- A scenario that can be set up has gremlins, ticks and no action after its last tick, and its
gremlins join its empty board in order. -/
theorem ofScenario_eq_ok {scenario : Scenario} {bestiary : Bestiary} {s : Encounter}
    (success : ofScenario scenario bestiary = .ok s) :
    scenario.gremlins ≠ [] ∧ 0 < (asked scenario bestiary).maxTicks ∧
      (∀ entry ∈ scenario.script, entry.tick ≤ (asked scenario bestiary).maxTicks) ∧
      ∃ amounts, readResources scenario.resources = .ok amounts ∧
        scenario.gremlins.foldlM (fun s id => (s.spawn id).map (·.1))
          (laidOut scenario bestiary amounts) = .ok s := by
  unfold ofScenario at success
  dsimp only at success
  split at success
  · cases success
  · rename_i several
    split at success
    · cases success
    · rename_i positive
      split at success
      · cases success
      · rename_i none
        refine ⟨fun empty => several (List.isEmpty_iff.mpr empty), Nat.pos_of_ne_zero positive, ?_,
          bind_eq_ok.mp success⟩
        intro entry member
        have timely := List.find?_eq_none.mp none entry member
        exact Nat.not_lt.mp fun late => timely (decide_eq_true late)

/-- A scenario has gremlins and ticks, and puts its gremlins on the blank board of a fight that is
laid out as it asks. -/
theorem ofScenario_laid {scenario : Scenario} {bestiary : Bestiary} {s : Encounter}
    (success : ofScenario scenario bestiary = .ok s) :
    scenario.gremlins ≠ [] ∧ 0 < (asked scenario bestiary).maxTicks ∧
      ∃ start, Blank bestiary start ∧ start.clock = {} ∧ start.layout = asked scenario bestiary ∧
        scenario.gremlins.foldlM (fun s id => (s.spawn id).map (·.1)) start = .ok s := by
  obtain ⟨several, positive, _, amounts, _, spawns⟩ := ofScenario_eq_ok success
  exact ⟨several, positive, _, ⟨rfl, rfl, rfl⟩, rfl, rfl, spawns⟩

/-- A scenario only puts gremlins on an empty board. -/
theorem ofScenario_effected {scenario : Scenario} {bestiary : Bestiary} {s : Encounter}
    (success : ofScenario scenario bestiary = .ok s) :
    ∃ start, Blank bestiary start ∧ Effected start s := by
  obtain ⟨_, _, start, blank, _, _, spawns⟩ := ofScenario_laid success
  refine ⟨start, blank, foldlM_effected (fun success => ?_) spawns⟩
  obtain ⟨joined, spawned⟩ := map_fst_eq_ok.mp success
  exact spawn_effected spawned

/-- Setting up a scenario is a run from a blank board that puts its gremlins there. -/
theorem ofScenario_runs {scenario : Scenario} {bestiary : Bestiary} {s : Encounter}
    (success : ofScenario scenario bestiary = .ok s) :
    ∃ start, Blank bestiary start ∧
      Operation.runAll start (scenario.gremlins.map .spawn) = .ok s := by
  obtain ⟨_, _, start, blank, _, _, spawns⟩ := ofScenario_laid success
  exact ⟨start, blank, List.foldlM_map.trans spawns⟩

/-- Whatever a fight can come to, it comes to by a run from a blank board. -/
theorem Reachable.of_blank {bestiary : Bestiary} {s : Encounter}
    (reachable : Reachable bestiary s) :
    ∃ start operations, Blank bestiary start ∧ Operation.runAll start operations = .ok s := by
  induction reachable with
  | fresh seed => exact ⟨_, [], new_blank bestiary seed, rfl⟩
  | arranged success =>
    obtain ⟨start, blank, ran⟩ := ofScenario_runs success
    exact ⟨start, _, blank, ran⟩
  | step _ operation success ih =>
    obtain ⟨start, operations, blank, ran⟩ := ih
    exact ⟨start, operations ++ [operation], blank,
      Operation.runAll_append.mpr ⟨_, ran, Operation.runAll_cons.mpr ⟨_, success, rfl⟩⟩⟩

/-- What the inductions over tracks rely on. -/
structure Standing (bestiary : Bestiary) (s : Encounter) : Prop where
  known : s.bestiary = bestiary
  orderly : Orderly s
  fit : ∀ id track, s.track? id = some track → track.gremlin.Fit bestiary
  settled : s.Settled
  caps : s.CapsSound

theorem Standing.living {bestiary : Bestiary} {s : Encounter} (standing : Standing bestiary s) :
    s.Living :=
  fun id track found => (standing.fit id track found).health

theorem Blank.track?_eq_none {bestiary : Bestiary} {s : Encounter} (blank : Blank bestiary s)
    (id : InstanceId) : s.track? id = none := by
  rw [track?, blank.board]
  rfl

theorem Blank.standing {bestiary : Bestiary} {s : Encounter} (blank : Blank bestiary s) :
    Standing bestiary s := by
  refine ⟨blank.bestiary, ⟨blank.board ▸ .empty, fun id _ => ?_⟩, ?_, ?_, ?_⟩
  · rw [turns, blank.journal]
    rfl
  · intro id track found
    rw [blank.track?_eq_none] at found
    cases found
  · intro some
    rw [blank.board] at some
    cases some
  · intro id gremlin found
    rw [blank.board] at found
    cases found

/-- Where a track comes from: it was there before, or belongs to someone new. -/
theorem Struck.origin {victim : Option InstanceId} {s s' : Encounter} (struck : Struck victim s s')
    {id : InstanceId} {track' : Track} (found : s'.track? id = some track') :
    (∃ track, s.track? id = some track ∧ Track.Handled track track') ∨
      s.board.next ≤ id.value ∧
        ∃ born, Track.Newborn s.bestiary s.now born ∧ Track.Handled born track' := by
  have outside : id ∉ victim.toList := by
    intro member
    exact struck.absent id (Option.mem_toList.mp member) (mem_ids_of_track? found)
  cases before : s.track? id with
  | none => exact .inr (struck.played.joined id outside track' before found)
  | some track =>
    obtain ⟨other, after, handled⟩ := struck.played.kept id outside track before
    rw [found] at after
    cases after
    exact .inl ⟨track, rfl, handled⟩

theorem Advanced.origin {s s' : Encounter} (advanced : Advanced s s') {id : InstanceId}
    {track' : Track} (found : s'.track? id = some track') :
    (∃ track, s.track? id = some track ∧
        Track.Changed s'.now (track.hold.fire s'.now) track') ∨
      s.board.next ≤ id.value ∧ ∃ born, Track.Newborn s.bestiary s'.now born ∧
        (track' = born ∨ Track.Changed s'.now born track') := by
  cases before : s.track? id with
  | none => exact .inr (advanced.joined id track' before found)
  | some track =>
    obtain ⟨other, after, changed⟩ := advanced.aged id track before
    rw [found] at after
    cases after
    exact .inl ⟨track, rfl, changed⟩

section Sound

variable {bestiary : Bestiary} (sound : ∀ template ∈ bestiary.templates, template.Sound)

include sound

theorem Struck.standing {victim : Option InstanceId} {s s' : Encounter}
    (struck : Struck victim s s') (before : Standing bestiary s) : Standing bestiary s' := by
  refine ⟨struck.played.bestiary.trans before.known, struck.played.orderly, ?_,
    struck.settled before.settled, struck.played.caps before.caps⟩
  intro id track' found
  rcases struck.origin found with ⟨track, old, handled⟩ | ⟨_, born, newborn, handled⟩
  · exact (before.fit id track old).handled handled.gremlin
  · exact (Track.Newborn.gremlin_fit sound (before.known ▸ newborn)).handled handled.gremlin

theorem Advanced.standing {s s' : Encounter} (advanced : Advanced s s')
    (before : Standing bestiary s) : Standing bestiary s' := by
  refine ⟨advanced.bestiary.trans before.known, advanced.orderly, ?_,
    fun _ => advanced.ended, advanced.caps before.caps⟩
  intro id track' found
  rcases advanced.origin found with ⟨track, old, changed⟩ | ⟨_, born, newborn, same | changed⟩
  · exact changed.fit sound (Track.fire_fit (Track.hold_fit (before.fit id track old)) _)
  · rw [same]
    exact Track.Newborn.gremlin_fit sound (before.known ▸ newborn)
  · exact changed.fit sound (Track.Newborn.gremlin_fit sound (before.known ▸ newborn))

/-- An operation is a tick, or leaves everyone but its victim alone. -/
theorem Operation.cases_run {s s' : Encounter} {operation : Operation}
    (standing : Standing bestiary s) (success : operation.run s = .ok s') :
    operation = .advance ∧ Advanced s s' ∨
      operation ≠ .advance ∧ Struck (operation.victim s) s s' := by
  by_cases tick : operation = .advance
  · subst tick
    exact .inl ⟨rfl, (advance_advanced standing.orderly (standing.known ▸ sound)
      standing.living success).2⟩
  · exact .inr ⟨tick, operation.struck standing.orderly standing.living tick success⟩

theorem Operation.standing {s s' : Encounter} {operation : Operation}
    (standing : Standing bestiary s) (success : operation.run s = .ok s') :
    Standing bestiary s' := by
  rcases operation.cases_run sound standing success with ⟨_, advanced⟩ | ⟨_, struck⟩
  · exact advanced.standing sound standing
  · exact struck.standing sound standing

theorem Blank.standing_of_runAll {start s : Encounter} {operations : List Operation}
    (blank : Blank bestiary start) (ran : Operation.runAll start operations = .ok s) :
    Standing bestiary s :=
  foldlM_preserves (motive := Standing bestiary) operations
    (fun _ _ _ _ standing success => Operation.standing sound standing success) blank.standing ran

theorem Reachable.standing {s : Encounter} (reachable : Reachable bestiary s) :
    Standing bestiary s := by
  obtain ⟨start, operations, blank, ran⟩ := reachable.of_blank
  exact blank.standing_of_runAll sound ran

/-- What holds of newborns and stays true whatever is done to a track holds of every track. A
newborn may have had the last turn of a tick, and whoever is older has had all three. -/
theorem Reachable.track_holds {motive : Ticks → Track → Prop}
    (born : ∀ now track, Track.Newborn bestiary now track → motive now track)
    (settles : ∀ now track track', Track.Newborn bestiary now track →
      Track.Changed now track track' → motive now track')
    (handled : ∀ now track track', Track.Handled track track' → motive now track →
      motive now track')
    (ticked : ∀ now track track', track.gremlin.Fit bestiary → motive now track →
      Track.Changed ⟨now.count + 1⟩ (track.hold.fire ⟨now.count + 1⟩) track' →
      motive ⟨now.count + 1⟩ track')
    {s : Encounter} (reachable : Reachable bestiary s) {id : InstanceId} {track : Track}
    (found : s.track? id = some track) : motive s.now track := by
  induction reachable generalizing id track with
  | fresh seed =>
    rw [(new_blank bestiary seed).track?_eq_none] at found
    cases found
  | arranged success =>
    obtain ⟨start, blank, effected⟩ := ofScenario_effected success
    have struck := effected.struck blank.standing.orderly
    rcases struck.origin found with ⟨old, before, _⟩ | ⟨_, fresh, newborn, after⟩
    · rw [blank.track?_eq_none] at before
      cases before
    · rw [struck.played.now]
      exact handled _ fresh track after (born _ fresh (blank.bestiary ▸ newborn))
  | @step s s' so_far operation success ih =>
    have standing := so_far.standing sound
    rcases operation.cases_run sound standing success with ⟨_, advanced⟩ | ⟨_, struck⟩
    · rcases advanced.origin found with ⟨old, before, after⟩ | ⟨_, fresh, newborn, same | after⟩
      · rw [advanced.now] at after ⊢
        exact ticked s.now old track (standing.fit id old before) (ih before) after
      · rw [same]
        exact born _ fresh (standing.known ▸ newborn)
      · exact settles _ fresh track (standing.known ▸ newborn) after
    · rw [struck.played.now]
      rcases struck.origin found with ⟨old, before, after⟩ | ⟨_, fresh, newborn, after⟩
      · exact handled _ old track after (ih before)
      · exact handled _ fresh track after (born _ fresh (standing.known ▸ newborn))

end Sound

end Encounter

end Gremlin
