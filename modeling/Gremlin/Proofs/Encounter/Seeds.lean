import Gremlin.Proofs.Encounter.Amplification
import Gremlin.Proofs.Encounter.Certainty

set_option autoImplicit false

/-!
Where seeds matter. In a fight in which nobody asks for a random choice, a whole run with its script
comes to the same with every generator and never draws from it.
-/

namespace Gremlin

open Gremlin.Random (Generator)

namespace Encounter

/-! ### Scripts and runs -/

/-- A call that tells something besides tells the same whatever the generator is. -/
structure Answered {α : Type} (act : Encounter → Except EncounterError (Encounter × α))
    (s : Encounter) : Prop where
  same : ∀ generator,
    act (s.seeded generator) = (act s).map fun result => (result.1.seeded generator, result.2)
  certain : ∀ result, act s = .ok result → result.1.Certain

namespace Answered

variable {α : Type} {act act' : Encounter → Except EncounterError (Encounter × α)} {s : Encounter}

theorem of_unseeded {act : Encounter → Except EncounterError Encounter} (answer : α)
    (unseeded : Unseeded act s) : Answered (fun s => act s >>= fun s => pure (s, answer)) s := by
  refine ⟨fun generator => ?_, fun result success => ?_⟩
  · rw [unseeded.same]
    cases act s <;> rfl
  · obtain ⟨after, acted, same⟩ := bind_eq_ok.mp success
    cases same
    exact unseeded.certain after acted

theorem congr (agree : ∀ generator, act (s.seeded generator) = act' (s.seeded generator))
    (answered : Answered act' s) : Answered act s := by
  have here : act s = act' s := agree s.generator
  refine ⟨fun generator => ?_, fun result success => answered.certain result (here ▸ success)⟩
  rw [agree, here, answered.same]

theorem failed (reason : EncounterError) :
    Answered (fun _ => (.error reason : Except _ (_ × α))) s :=
  ⟨fun _ => rfl, fun _ failure => by cases failure⟩

/-- A call in a scripted action is followed by the rest of the action, or its failure is told. -/
theorem orReport {next : α → Encounter → Except EncounterError Encounter}
    (answered : Answered act s) (certain : s.Certain)
    (onward : ∀ answer after, after.Certain → Unseeded (next answer) after) :
    Unseeded (fun s => match act s with
      | .ok (after, answer) => next answer after
      | .error e => s.report e) s := by
  refine ⟨fun generator => ?_, fun s' success => ?_⟩
  · rw [answered.same]
    cases acted : act s with
    | error e =>
      change (s.seeded generator).report e = (s.report e).map (·.seeded generator)
      unfold report
      split <;> rfl
    | ok result => exact (onward result.2 result.1 (answered.certain result acted)).same generator
  · cases acted : act s with
    | error e =>
      rw [acted] at success
      dsimp only at success
      unfold report at success
      split at success
      · cases success
      · cases success
        exact certain.of_board_eq rfl rfl
    | ok result =>
      rw [acted] at success
      exact (onward result.2 result.1 (answered.certain result acted)).certain s' success

end Answered

section Actions

variable {s : Encounter} (certain : s.Certain)

include certain

/-- After a blow the dead are buried, if it has killed. -/
theorem blow_answered {α : Type} (id : InstanceId) {gremlin gremlin' : Instance}
    (found : s.board.get? id = some gremlin) (template : gremlin'.template = gremlin.template)
    (caps : gremlin'.installedCaps = gremlin.installedCaps) (event : Event) (killed : Bool)
    (answer : α) :
    Answered (fun s => if killed then
      ((s.modify id fun _ => gremlin').record event).pruneDead >>= fun s => pure (s, answer)
      else pure ((s.modify id fun _ => gremlin').record event) >>= fun s => pure (s, answer))
      s := by
  let struck (s : Encounter) : Encounter := (s.modify id fun _ => gremlin').record event
  have modified : (s.modify id fun _ => gremlin').Certain :=
    certain.modify id fun _ _ => (certain.get? found).of_eq template caps
  have strikes : (struck s).Certain := modified.of_board_eq rfl rfl
  cases killed with
  | true => exact .of_unseeded answer (.after struck (fun _ => rfl) (pruneDead_unseeded strikes))
  | false => exact .of_unseeded answer (.done struck (fun _ => rfl) strikes)

theorem applyHit_answered (id : InstanceId) (hit : Hit) :
    Answered (fun s => s.applyHit id hit) s := by
  cases found : s.board.get? id with
  | none =>
    refine .congr (fun generator => ?_) (.failed (.unknownInstance id))
    rw [applyHit, seeded_board, found]
  | some gremlin =>
    have template : (gremlin.applyHit hit).1.template = gremlin.template := by
      unfold Instance.applyHit
      dsimp only
      split
      · rfl
      · split <;> rfl
    refine .congr (fun generator => ?_) (blow_answered certain id found template
      (gremlin.applyHit_installedCaps hit) (.hit id (gremlin.applyHit hit).2)
      (gremlin.applyHit hit).2.killed (gremlin.applyHit hit).2)
    rw [applyHit, seeded_board, found]

theorem execute_answered (id : InstanceId) : Answered (fun s => s.execute id) s := by
  cases found : s.board.get? id with
  | none =>
    refine .congr (fun generator => ?_) (.failed (.unknownInstance id))
    rw [execute, seeded_board, found]
  | some gremlin =>
    have template : gremlin.execute.1.template = gremlin.template := by
      unfold Instance.execute
      split <;> rfl
    refine .congr (fun generator => ?_) (blow_answered certain id found template
      gremlin.execute_installedCaps (.executed id gremlin.execute.2) gremlin.execute.2
      gremlin.execute.2)
    rw [execute, seeded_board, found]

theorem heal_unseeded (id : InstanceId) (amount : Nat) :
    Unseeded (fun s => s.heal id amount) s := by
  cases found : s.board.get? id with
  | none =>
    have failed : Unseeded (fun _ => .error (.unknownInstance id)) s :=
      ⟨fun _ => rfl, fun _ failure => by cases failure⟩
    refine .congr (fun generator => ?_) failed
    rw [heal, seeded_board, found]
  | some gremlin =>
    let healed (s : Encounter) : Encounter := s.modify id (·.heal amount)
    have heals : (healed s).Certain := by
      exact certain.modify id fun gremlin certain =>
        certain.of_eq (gremlin.heal_view (·.template) amount fun _ => rfl)
          (gremlin.heal_installedCaps amount)
    refine .congr (fun generator => ?_) (.done healed (fun _ => rfl) heals)
    rw [heal, seeded_board, found]

omit certain in
theorem hitEach_unseeded (hit : Hit) (force : Option Force) (ids : List InstanceId) :
    ∀ s, Certain s → Unseeded (hitEach hit force ids) s := by
  induction ids with
  | nil => exact fun s certain => .idle certain
  | cons id rest ih =>
    intro s certain
    by_cases alive : (s.board.get? id).any (·.isAlive) = true
    · have onward : ∀ (outcome : HitOutcome) after, Certain after →
          Unseeded (fun s => hitEach hit force rest (s.observe (.damage force outcome.applied)))
            after := fun outcome after certain =>
        .after (·.observe (.damage force outcome.applied)) (fun _ => rfl) (ih _ (certain.observe _))
      refine .congr (fun generator => ?_)
        ((applyHit_answered certain id hit).orReport certain onward)
      rw [hitEach, seeded_board, if_pos alive]
      cases (s.seeded generator).applyHit id hit <;> rfl
    · refine .congr (fun generator => ?_) (ih s certain)
      rw [hitEach, seeded_board, if_neg alive]

omit certain in
theorem executeEach_unseeded (ids : List InstanceId) :
    ∀ s, Certain s → Unseeded (executeEach ids) s := by
  induction ids with
  | nil => exact fun s certain => .idle certain
  | cons id rest ih =>
    intro s certain
    have seen := certain.observe .executionAttempt
    have onward : ∀ (landed : Bool) after, Certain after → Unseeded (executeEach rest) after :=
      fun _ => ih
    have executes := (execute_answered seen id).orReport seen onward
    refine .congr (fun generator => ?_)
      (.after (·.observe .executionAttempt) (fun _ => rfl) executes)
    rw [executeEach]
    cases ((s.seeded generator).observe .executionAttempt).execute id <;> rfl

omit certain in
theorem healEach_unseeded (amount : Nat) (ids : List InstanceId) :
    ∀ s, Certain s → Unseeded (healEach amount ids) s := by
  induction ids with
  | nil => exact fun s certain => .idle certain
  | cons id rest ih =>
    intro s certain
    have onward : ∀ (_ : Unit) after, Certain after → Unseeded (healEach amount rest) after :=
      fun _ => ih
    have heals := Answered.of_unseeded () (heal_unseeded certain id amount)
    refine .congr (fun generator => ?_) (heals.orReport certain onward)
    rw [healEach]
    cases (s.seeded generator).heal id amount <;> rfl

theorem warnIfNone_unseeded (target : String) :
    (s.warnIfNone target).Certain ∧
      ∀ generator, (s.seeded generator).warnIfNone target =
        (s.warnIfNone target).seeded generator := by
  have targets : ∀ generator, (s.seeded generator).targets target = s.targets target := fun _ => rfl
  unfold warnIfNone
  refine ⟨?_, fun generator => ?_⟩
  · split
    · exact certain.of_board_eq rfl rfl
    · exact certain
  · rw [targets]
    split <;> rfl

/-- An action goes over its targets after warning if there is none. -/
theorem targeted_unseeded (target : String)
    {each : List InstanceId → Encounter → Except EncounterError Encounter}
    (every : ∀ ids s, Certain s → Unseeded (each ids) s) :
    Unseeded (fun s => each (s.targets target) (s.warnIfNone target)) s := by
  obtain ⟨warned, same⟩ := warnIfNone_unseeded certain target
  have acts := every (s.targets target) _ warned
  exact .congr (fun _ => rfl) (.after (·.warnIfNone target) same acts)

theorem perform_unseeded (action : ScriptedAction) : Unseeded (fun s => s.perform action) s := by
  have told : (s.notify (.scripted action)).Certain := certain.of_board_eq rfl rfl
  have tells : ∀ {act : Encounter → Except EncounterError Encounter},
      Unseeded act (s.notify (.scripted action)) →
        Unseeded (fun s => act (s.notify (.scripted action))) s :=
    fun acts => .after (·.notify (.scripted action)) (fun _ => rfl) acts
  cases action with
  | gain force amount =>
    exact tells (.done (fun s => (s.gain force amount).1) (fun _ => rfl) (told.of_board_eq rfl rfl))
  | spend force amount =>
    let spent (s : Encounter) : Encounter :=
      if (s.spend force amount).2 then (s.spend force amount).1
      else (s.spend force amount).1.notify (.unableToSpend amount force)
    refine tells (.done spent (fun generator => ?_) ?_)
    · change (if (s.pool.spend force amount).2 then _ else _) =
        seeded (if (s.pool.spend force amount).2 then _ else _) generator
      split <;> rfl
    · unfold spent
      split <;> exact told.of_board_eq rfl rfl
  | hit target damage pierce force =>
    exact tells (targeted_unseeded told target (hitEach_unseeded ⟨damage, pierce⟩ force))
  | execute target => exact tells (targeted_unseeded told target executeEach_unseeded)
  | heal target amount => exact tells (targeted_unseeded told target (healEach_unseeded amount))
  | playCard => exact tells (.done (·.observe .cardPlayed) (fun _ => rfl) (told.observe _))
  | observe action => exact tells (.done (·.observe action) (fun _ => rfl) (told.observe action))

end Actions

section Runs

theorem performAll_unseeded (actions : List ScriptedAction) :
    ∀ s, Certain s → Unseeded (performAll actions) s := by
  induction actions with
  | nil => exact fun s certain => .idle certain
  | cons action rest ih =>
    intro s certain
    by_cases stopped : s.clock.terminated = true
    · refine .congr (fun generator => ?_) (.idle certain)
      rw [performAll, seeded_clock, if_pos stopped]
    · refine .congr (fun generator => ?_) ((perform_unseeded certain action).bind ih)
      rw [performAll, seeded_clock, if_neg stopped]
      cases (s.seeded generator).perform action <;> rfl

theorem runScript_unseeded (tick : Nat) (s : Encounter) (certain : s.Certain) :
    Unseeded (fun s => s.runScript tick) s := by
  have performs := performAll_unseeded
    ((s.script.filter (·.tick = tick)).map (·.action)) s certain
  exact .congr (fun _ => rfl) performs

/-- By induction on the ticks left. -/
theorem drive_unseeded (ticks : Nat) : ∀ s, Certain s → Unseeded (drive ticks) s := by
  induction ticks with
  | zero => exact fun s certain => .idle certain
  | succ ticks ih =>
    intro s certain
    by_cases stopped : s.clock.terminated = true
    · refine .congr (fun generator => ?_) (.idle certain)
      rw [drive, seeded_clock, if_pos stopped]
    · have onward : ∀ after : Encounter, after.Certain →
          Unseeded (fun s => s.runScript s.now.count >>= drive ticks) after := by
        intro after certain
        have performs := runScript_unseeded after.now.count after certain
        refine .congr (fun generator => ?_) (performs.bind ih)
        rfl
      refine .congr (fun generator => ?_) ((advance_unseeded certain).bind onward)
      rw [drive, seeded_clock, if_neg stopped]
      cases (s.seeded generator).advance with
      | error e => rfl
      | ok after =>
        dsimp only [Bind.bind, Except.bind]
        cases after.runScript after.now.count <;> rfl

theorem introduce_seeded (s : Encounter) (generator : Generator) :
    (s.seeded generator).introduce = s.introduce.seeded generator :=
  foldl_seeded (fun _ _ _ _ => rfl) s generator

theorem introduce_certain {s : Encounter} (certain : s.Certain) : s.introduce.Certain :=
  certain.foldl fun _ _ _ certain => certain.of_board_eq rfl rfl

theorem finish_unseeded {s : Encounter} (certain : s.Certain) : Unseeded finish s := by
  have drives : ∀ after : Encounter, after.Certain →
      Unseeded (fun s => s.drive (s.maxTicks - s.now.count)) after := by
    intro after certain
    have drives := drive_unseeded (after.maxTicks - after.now.count) after certain
    exact .congr (fun _ => rfl) drives
  have opens := runScript_unseeded 0 s.introduce (introduce_certain certain)
  exact (Unseeded.after introduce (introduce_seeded s) opens).bind drives

end Runs

/-! ### Fights in which nobody asks for a random choice -/

/-- Whether an operation gives a cap that asks for a random choice. -/
def Operation.isRandomCap : Operation → Bool
  | effect _ _ given => given.isCap && given.isRandom
  | _ => false

/-- Whatever else is done from outside, only such a cap could make a gremlin ask later, if it is to
reinstate its caps. -/
theorem Operation.certain {s s' : Encounter} {operation : Operation}
    (free : operation.isRandomCap = false) (certain : s.Certain)
    (success : operation.run s = .ok s') : s'.Certain := by
  cases operation with
  | spawn templateId =>
    obtain ⟨id, spawned⟩ := map_fst_eq_ok.mp success
    obtain ⟨template, found, _, entered⟩ := spawn_eq_ok spawned
    have joined := certain.spawn (Bestiary.mem_of_get? found) .bottom none
    have arrived : (s.arriving template templateId).Certain := joined.of_board_eq rfl rfl
    exact (enterPassive_unseeded s.nesting _ _ arrived).certain s' entered
  | effect source duration given =>
    refine applyWith_certain (enterPassive_unseeded s.nesting) certain (fun cap => ?_) success
    simpa [isRandomCap, cap] using free
  | hit id given =>
    obtain ⟨result, struck, same⟩ := map_eq_ok.mp success
    exact same ▸ (applyHit_answered certain id given).certain result struck
  | execute id =>
    obtain ⟨result, struck, same⟩ := map_eq_ok.mp success
    exact same ▸ (execute_answered certain id).certain result struck
  | heal id amount => exact (heal_unseeded certain id amount).certain s' success
  | observe action =>
    cases success
    exact certain.observe action
  | terminate => exact (terminate_unseeded certain).certain s' success
  | advance => exact (advance_unseeded certain).certain s' success
  | gain | spend | notify | reseed | nest =>
    cases success
    exact certain.of_board_eq rfl rfl

/-- Where no template asks for a random choice, and everything is done without giving a cap that
does, nobody comes to ask for one. -/
theorem Blank.certain_of_runAll {bestiary : Bestiary} {start s : Encounter}
    (certain : ∀ template ∈ bestiary.templates, template.isRandom = false)
    (blank : Blank bestiary start) {operations : List Operation}
    (free : ∀ operation ∈ operations, operation.isRandomCap = false)
    (ran : Operation.runAll start operations = .ok s) : s.Certain := by
  have empty : start.Certain := by
    refine ⟨blank.bestiary ▸ certain, ?_⟩
    rw [blank.board]
    exact List.forall_mem_nil _
  refine foldlM_preserves (motive := Certain) operations ?_ empty ran
  intro _ operation _ member so_far stepped
  exact operation.certain (free operation member) so_far stepped

/-- Where no template asks for a random choice, and nobody on the board remembers a cap that does, a
run draws nothing and comes to the same with every generator. -/
theorem runs_unseeded {records : List Record}
    (certain : ∀ template ∈ (Bestiary.load records).1.templates, template.isRandom = false)
    {start s : Encounter} (blank : Blank (Bestiary.load records).1 start)
    {operations : List Operation} (ran : Operation.runAll start operations = .ok s)
    (forgotten : ∀ gremlin ∈ s.board.gremlins, ∀ effect ∈ gremlin.installedCaps,
      effect.isRandom = false) :
    (∀ first second, s.runOnceWith first = s.runOnceWith second) ∧
      ∀ generator s', (s.seeded generator).finish = .ok s' → s'.generator = generator := by
  have sound : ∀ template ∈ (Bestiary.load records).1.templates, template.Sound :=
    fun _ member => Bestiary.sound_of_mem_load member
  have standing := blank.standing_of_runAll sound ran
  have reached : s.Certain := by
    refine ⟨standing.known ▸ certain, fun gremlin present => ?_⟩
    have found := Board.get?_of_mem standing.orderly.numbered.distinct present
    have fit := standing.fit gremlin.id _ (track?_of_get? found)
    exact ⟨certain gremlin.template fit.known, forgotten gremlin present⟩
  have finishes := finish_unseeded reached
  constructor
  · have alike : ∀ generator, s.runOnceWith generator = s.runOnce := by
      intro generator
      change (s.seeded generator).finish.map result = s.finish.map result
      rw [finishes.same]
      cases s.finish <;> rfl
    intro first second
    rw [alike, alike]
  · intro generator s' success
    rw [finishes.same, map_eq_ok] at success
    obtain ⟨after, _, rfl⟩ := success
    rfl

/-- Three ticks with a leech cost three heat, whatever the generator. -/
theorem runs_unseeded_leech : ∃ s result,
    ofScenario { gremlins := ["leech"], maxTicks := some 3, resources := [("heat", 20)] }
      (Bestiary.load [leech]).1 = .ok s ∧
    result.verdict = .timeout ∧ result.ticks = ⟨3⟩ ∧
    ∀ generator, s.runOnceWith generator = .ok result := by
  have ran : ((ofScenario { gremlins := ["leech"], maxTicks := some 3, resources := [("heat", 20)] }
      (Bestiary.load [leech]).1).toOption.bind fun s =>
        s.runOnce.toOption.map fun result => (result.verdict, result.ticks)) =
      some (.timeout, ⟨3⟩) := by
    decide +kernel
  have certain : ∀ template ∈ (Bestiary.load [leech]).1.templates, template.isRandom = false := by
    decide +kernel
  obtain ⟨s, arranged, shown⟩ := toOption_bind_eq_some.mp ran
  obtain ⟨result, finished, facts⟩ := toOption_map_eq_some.mp shown
  obtain ⟨verdict, ticks⟩ := Prod.mk.inj facts
  obtain ⟨start, blank, spawns⟩ := ofScenario_runs arranged
  have reached := blank.certain_of_runAll certain (by simp [Operation.isRandomCap]) spawns
  obtain ⟨alike, _⟩ := runs_unseeded certain blank spawns
    fun gremlin present => (reached.gremlins gremlin present).caps
  exact ⟨s, result, arranged, verdict, ticks,
    fun generator => (alike generator s.generator).trans finished⟩

/-- A warden that has been given a random cap draws anew where it reinstates its caps. So a run may
hang on the generator although no template asks for a random choice. -/
theorem runs_hang_on_seed : ¬ ∀ (records : List Record),
    (∀ template ∈ (Bestiary.load records).1.templates, template.isRandom = false) →
    ∀ (start s : Encounter) (operations : List Operation), Blank (Bestiary.load records).1 start →
      Operation.runAll start operations = .ok s →
      ∀ first second, s.runOnceWith first = s.runOnceWith second := by
  intro alike
  have certain : ∀ template ∈ (Bestiary.load [warden]).1.templates, template.isRandom = false := by
    decide +kernel
  have differ : ((Operation.runAll { new (Bestiary.load [warden]).1 7 with maxTicks := 1 }
      [.spawn "warden", .effect (some ⟨0⟩) .permanent (.hardCap .random 3)]).toOption.map fun s =>
        decide ((s.runOnceWith (.ofSeed 1)).toOption.map (·.resources) =
          (s.runOnceWith (.ofSeed 2)).toOption.map (·.resources))) = some false := by
    decide +kernel
  obtain ⟨s, ran, shown⟩ := toOption_map_eq_some.mp differ
  have same := alike [warden] certain _ s _ ⟨rfl, rfl, rfl⟩ ran (.ofSeed 1) (.ofSeed 2)
  rw [same] at shown
  simp at shown

end Encounter

end Gremlin
