import Gremlin.Catalog
import Gremlin.Proofs.Adaptive
import Gremlin.Proofs.Encounter.Scripts
import Gremlin.Proofs.Encounter.Sightings
import Gremlin.Proofs.Encounter.Walks

set_option autoImplicit false

/-!
What adaptive gremlins react to. Whatever is done in a fight, a gremlin has counted the player's
actions since its last look at its decision table, each once; it looks when its age is a multiple of
its check interval, and is then in the move that the table gives for those counts.
-/

namespace Gremlin

open Gremlin.Random (Generator)

namespace Instance

/-- Whether a gremlin looks at its decision table at a tick. -/
def looks (gremlin : Instance) (now : Ticks) : Bool :=
  decide (gremlin.template.pattern = .adaptive ∧ gremlin.template.moves ≠ []) &&
    gremlin.template.adaptive.any (·.isDue gremlin.spawnedAt now)

section Look

variable {gremlin : Instance} {now : Ticks}
  (age : gremlin.spawnedAt.count + gremlin.ticksAlive = now.count)

include age

theorem checkIsDue_eq (table : AdaptiveTable) :
    gremlin.checkIsDue table = table.isDue gremlin.spawnedAt now := by
  have grown : now.count - gremlin.spawnedAt.count = gremlin.ticksAlive := by omega
  rw [checkIsDue, AdaptiveTable.isDue, grown]
  by_cases never : table.interval = 0
  · rw [never, Nat.mod_zero]
    cases gremlin.ticksAlive <;> rfl
  · rw [bne_iff_ne.mpr never, Bool.true_and]

/-- A look uses up what was seen, and nothing else does. -/
theorem nextMove_observed (generator : Generator) :
    (gremlin.nextMove generator).2.1.observed =
      if gremlin.looks now then {} else gremlin.observed := by
  unfold nextMove looks
  dsimp only
  split
  · rename_i none
    rw [List.length_eq_zero_iff] at none
    simp [none]
  · rename_i several
    have moves : gremlin.template.moves ≠ [] := fun none => several (by rw [none]; rfl)
    split
    · rename_i single
      simp [single]
    · rename_i sequence
      simp [sequence]
    · rename_i cycle
      simp [cycle]
    · rename_i random
      simp only [random, reduceCtorEq, false_and, decide_false, Bool.false_and,
        Bool.false_eq_true, ↓reduceIte]
      split
      · split <;> rfl
      · rfl
    · rename_i byHealth
      simp [byHealth]
    · rename_i adaptive
      simp only [adaptive, moves, ne_eq, not_false_eq_true, and_self, decide_true, Bool.true_and]
      split
      · rename_i missing
        rw [missing]
        rfl
      · rename_i table given
        rw [given, Option.any_some, checkIsDue_eq age]
        split <;> rfl

/-- An adaptive gremlin is in the move of its table after a look, and stays in its move
otherwise. -/
theorem nextMove_of_adaptive {table : AdaptiveTable} (adapts : gremlin.template.Adapts table)
    (adaptive : gremlin.template.pattern = .adaptive) (moves : gremlin.template.moves ≠ [])
    (generator : Generator) :
    ((gremlin.nextMove generator).1.getD gremlin.move) =
      if table.isDue gremlin.spawnedAt now then table.select gremlin.observed.count
      else gremlin.move := by
  have several : 0 < gremlin.template.moves.length := List.length_pos_iff.mpr moves
  have inside := AdaptiveTable.select_lt several adapts.inside gremlin.observed.count
  unfold nextMove
  dsimp only
  rw [if_neg (Nat.ne_of_gt several), adaptive]
  dsimp only
  rw [adapts.given]
  dsimp only
  rw [checkIsDue_eq age]
  split
  · by_cases same : table.select gremlin.observed.count = gremlin.move
    · rw [if_neg fun both => both.2 same, Option.getD_none, same]
    · rw [if_pos ⟨inside, same⟩, Option.getD_some]
  · rfl

end Look

end Instance

/-- A gremlin has had its turn to look at its decision table at a tick. -/
structure Instance.Looked (now : Ticks) (gremlin gremlin' : Instance) : Prop where
  template : gremlin'.template = gremlin.template
  spawnedAt : gremlin'.spawnedAt = gremlin.spawnedAt
  observed : gremlin'.observed = if gremlin.looks now then {} else gremlin.observed
  move : ∀ table, gremlin.template.Adapts table → gremlin.template.pattern = .adaptive →
    gremlin.template.moves ≠ [] →
    gremlin'.move =
      if table.isDue gremlin.spawnedAt now then table.select gremlin.observed.count
      else gremlin.move

namespace Instance.Looked

variable {now : Ticks} {gremlin gremlin' : Instance} (looked : gremlin.Looked now gremlin')
  {table : AdaptiveTable} (adapts : gremlin.template.Adapts table)
  (adaptive : gremlin.template.pattern = .adaptive) (moves : gremlin.template.moves ≠ [])

include looked adapts adaptive moves

theorem of_due (due : table.isDue gremlin.spawnedAt now = true) :
    table.Selects gremlin.observed.count gremlin'.move ∧ gremlin'.observed = {} := by
  have observed := looked.observed
  have move := looked.move table adapts adaptive moves
  rw [looks, adapts.given, Option.any_some, due, decide_eq_true ⟨adaptive, moves⟩] at observed
  rw [due, if_pos rfl] at move
  exact ⟨move ▸ table.selects gremlin.observed.count, observed⟩

theorem of_not_due (early : ¬ table.isDue gremlin.spawnedAt now = true) :
    gremlin'.move = gremlin.move := by
  rw [looked.move table adapts adaptive moves, if_neg early]

end Instance.Looked

namespace Encounter

namespace Track

section Changed

variable {now : Ticks} {track track' : Track} (changed : Changed now track track')
  (alive : track.gremlin.isAlive = true)
  (age : track.gremlin.spawnedAt.count + track.gremlin.ticksAlive = now.count)

include changed alive age

theorem Changed.observed :
    track'.gremlin.observed = if track.gremlin.looks now then {} else track.gremlin.observed := by
  cases changed with
  | lifeless lifeless =>
    rw [alive] at lifeless
    cases lifeless
  | stays generator _ next => exact Instance.nextMove_observed age generator
  | enters generator index _ next => exact Instance.nextMove_observed age generator

theorem Changed.move_of_adaptive {table : AdaptiveTable}
    (adapts : track.gremlin.template.Adapts table)
    (adaptive : track.gremlin.template.pattern = .adaptive)
    (moves : track.gremlin.template.moves ≠ []) :
    track'.gremlin.move =
      if table.isDue track.gremlin.spawnedAt now then table.select track.gremlin.observed.count
      else track.gremlin.move := by
  obtain ⟨generator, same⟩ := changed.move_eq alive
  rw [same]
  exact Instance.nextMove_of_adaptive age adapts adaptive moves generator

end Changed

theorem hold_observed (track : Track) : track.hold.gremlin.observed = track.gremlin.observed :=
  track.hold_view (·.observed) fun _ => rfl

theorem fire_observed (track : Track) (now : Ticks) :
    (track.fire now).gremlin.observed = track.gremlin.observed :=
  track.fire_view (·.observed) (fun _ => rfl) (fun _ => rfl) now

/-- A turn to change moves is a turn to look at the decision table. -/
theorem Changed.looked {now : Ticks} {track track' : Track} (changed : Changed now track track')
    (alive : track.gremlin.isAlive = true)
    (age : track.gremlin.spawnedAt.count + track.gremlin.ticksAlive = now.count) :
    track.gremlin.Looked now track'.gremlin :=
  ⟨changed.template, changed.spawnedAt, changed.observed alive age,
    fun _ adapts adaptive moves => changed.move_of_adaptive alive age adapts adaptive moves⟩

/-- A whole tick is a turn to look at the decision table. -/
theorem Timely.looked {bestiary : Bestiary} {now : Ticks} {track track' : Track}
    (timely : track.Timely now) (fit : track.gremlin.Fit bestiary)
    (changed : Changed ⟨now.count + 1⟩ (track.hold.fire ⟨now.count + 1⟩) track') :
    track.gremlin.Looked ⟨now.count + 1⟩ track'.gremlin := by
  have alive := Instance.isAlive_iff.mpr fit.health.positive
  have still := Track.fire_fit (Track.hold_fit fit) ⟨now.count + 1⟩
  have ticked := Track.ticked alive ⟨now.count + 1⟩
  have seen : (track.hold.fire ⟨now.count + 1⟩).gremlin.observed = track.gremlin.observed :=
    (fire_observed _ _).trans (hold_observed _)
  have looked := changed.looked (Instance.isAlive_iff.mpr still.health.positive)
    (timely.tick alive).age
  refine ⟨looked.template.trans ticked.template, looked.spawnedAt.trans ticked.spawnedAt, ?_, ?_⟩
  · rw [looked.observed, seen, Instance.looks, ticked.template, ticked.spawnedAt]
    rfl
  · rw [← seen, ← ticked.template, ← ticked.spawnedAt, ← ticked.move]
    exact looked.move

end Track

/-- Whether a gremlin has looked at its decision table in an operation that has led to `s'`. -/
def Operation.checks (id : InstanceId) (s' : Encounter) : Operation → Bool
  | advance => (s'.board.get? id).any (·.looks s'.now)
  | _ => false

/-- What a gremlin has seen since its last look at its decision table, or since its birth, if it had
seen `seen` at the beginning of some operations. -/
def seenSinceCheck (id : InstanceId) : Encounter → List PlayerAction → List Operation →
    List PlayerAction
  | _, seen, [] => seen
  | s, seen, operation :: rest =>
    match operation.run s with
    | .ok s' =>
      seenSinceCheck id s'
        (if operation.checks id s' then []
          else seen ++ if id ∈ s'.board.ids then operation.shown s s' else []) rest
    | .error _ => seen

/-- A gremlin has counted certain actions, or is still to come and has not seen any. -/
structure Watches (id : InstanceId) (seen : List PlayerAction) (s : Encounter) : Prop where
  counted : ∀ gremlin, s.board.get? id = some gremlin →
    gremlin.observed = seen.foldl Observation.add {}
  unborn : s.board.next ≤ id.value → seen = []

section Sound

variable {bestiary : Bestiary} (sound : ∀ template ∈ bestiary.templates, template.Sound)
  {s s' : Encounter}

include sound

/-- A tick lets everyone look at its decision table; newcomers have not seen anything. -/
theorem Reachable.looked_of_advance (reachable : Reachable bestiary s)
    (success : s.advance = .ok s') {id : InstanceId} {gremlin' : Instance}
    (found : s'.board.get? id = some gremlin') :
    (∃ gremlin, s.board.get? id = some gremlin ∧ gremlin.Looked s'.now gremlin'.bare) ∨
      s.board.next ≤ id.value ∧ gremlin'.observed = {} := by
  have standing := reachable.standing sound
  have advanced := (advance_advanced standing.orderly (standing.known ▸ sound) standing.living
    success).2
  rcases advanced.origin (track?_of_get? found) with
    ⟨track, old, changed⟩ | ⟨fresh, born, newborn, same | changed⟩
  · obtain ⟨gremlin, before, rfl⟩ := get?_of_track? old
    rw [advanced.now] at changed ⊢
    have looked := (reachable.timely sound old).looked (standing.fit id _ old) changed
    exact .inl ⟨gremlin, before, ⟨looked.1, looked.2, looked.3, looked.4⟩⟩
  · refine .inr ⟨fresh, ?_⟩
    have seen := newborn.observed
    rw [← same] at seen
    exact seen
  · refine .inr ⟨fresh, ?_⟩
    have fit := newborn.gremlin_fit (standing.known ▸ sound)
    have looked := changed.looked (Instance.isAlive_iff.mpr fit.health.positive) newborn.timely.age
    have seen : gremlin'.observed = _ := looked.observed
    rw [seen, newborn.observed, ite_self]

theorem Reachable.looks_in_advance (reachable : Reachable bestiary s)
    (success : s.advance = .ok s') {id : InstanceId} {gremlin : Instance}
    (found : s.board.get? id = some gremlin) :
    ∃ gremlin', s'.board.get? id = some gremlin' ∧ gremlin.Looked s'.now gremlin'.bare := by
  have standing := reachable.standing sound
  have advanced := (advance_advanced standing.orderly (standing.known ▸ sound) standing.living
    success).2
  obtain ⟨track', present, _⟩ := advanced.aged id _ (track?_of_get? found)
  obtain ⟨gremlin', after, _⟩ := get?_of_track? present
  rcases reachable.looked_of_advance sound success after with ⟨early, before, looked⟩ | ⟨fresh, _⟩
  · rw [found] at before
    cases before
    exact ⟨gremlin', after, looked⟩
  · exact absurd (standing.orderly.numbered.below id (Board.mem_ids_iff.mpr ⟨gremlin, found⟩))
      (Nat.not_lt.mpr fresh)

/-- What a gremlin has counted after an operation is what it had seen before, unless it has looked
at its table, and what there was to see. -/
theorem Watches.step (reachable : Reachable bestiary s) {operation : Operation}
    (success : operation.run s = .ok s') {id : InstanceId} {seen : List PlayerAction}
    (watches : Watches id seen s) :
    Watches id (if operation.checks id s' then []
      else seen ++ if id ∈ s'.board.ids then operation.shown s s' else []) s' := by
  refine ⟨fun gremlin' found => ?_, fun unborn => ?_⟩
  · have present : id ∈ s'.board.ids := Board.mem_ids_iff.mpr ⟨gremlin', found⟩
    rw [if_pos present]
    by_cases tick : operation = .advance
    · subst tick
      have nobody : Operation.advance.shown s s' = [] := by
        rw [Operation.shown_of_kills (fun _ same => by cases same),
          reachable.removed_eq sound success]
        rfl
      have checks : Operation.advance.checks id s' = gremlin'.looks s'.now := by
        rw [Operation.checks, found, Option.any_some]
      rw [nobody, List.append_nil, checks]
      rcases reachable.looked_of_advance sound success found with
        ⟨gremlin, before, looked⟩ | ⟨fresh, blind⟩
      · have same : gremlin'.looks s'.now = gremlin.looks s'.now := by
          have template : gremlin'.template = gremlin.template := looked.template
          have spawnedAt : gremlin'.spawnedAt = gremlin.spawnedAt := looked.spawnedAt
          rw [Instance.looks, template, spawnedAt]
          rfl
        have observed : gremlin'.observed = _ := looked.observed
        rw [observed, same, watches.counted gremlin before]
        split <;> rfl
      · rw [blind, watches.unborn fresh, ite_self]
        rfl
    · have unchecked : operation.checks id s' = false := by
        cases operation <;> first | rfl | exact absurd rfl tick
      rw [unchecked, if_neg Bool.false_ne_true, List.foldl_append]
      rcases reachable.sees sound tick success id gremlin' found with
        ⟨gremlin, before, observed⟩ | ⟨fresh, observed⟩
      · rw [observed, watches.counted gremlin before]
      · rw [observed, watches.unborn fresh]
        rfl
  · have absent : id ∉ s'.board.ids := fun present =>
      Nat.lt_irrefl _ (Nat.lt_of_lt_of_le
        (((reachable.step operation success).standing sound).orderly.numbered.below id present)
        unborn)
    have grown := (reachable.not_mem_of_step sound success).1
    rw [if_neg absent, List.append_nil, watches.unborn (Nat.le_trans grown unborn), ite_self]

theorem Watches.run (reachable : Reachable bestiary s) {operations : List Operation}
    (success : Operation.runAll s operations = .ok s') {id : InstanceId}
    {seen : List PlayerAction} (watches : Watches id seen s) :
    Watches id (seenSinceCheck id s seen operations) s' := by
  induction operations generalizing s seen with
  | nil =>
    cases success
    exact watches
  | cons operation rest ih =>
    obtain ⟨after, ran, success⟩ := Operation.runAll_cons.mp success
    rw [seenSinceCheck, ran]
    exact ih (reachable.step operation ran) success (watches.step sound reachable ran)

/-- Nobody but a tick changes a gremlin's move. -/
theorem Reachable.move_of_step (reachable : Reachable bestiary s) {operation : Operation}
    (between : operation ≠ .advance) (success : operation.run s = .ok s') {id : InstanceId}
    {gremlin gremlin' : Instance} (before : s.board.get? id = some gremlin)
    (after : s'.board.get? id = some gremlin') : gremlin'.move = gremlin.move := by
  have standing := reachable.standing sound
  have struck := operation.struck standing.orderly standing.living between success
  rcases struck.origin (track?_of_get? after) with ⟨track, old, handled⟩ | ⟨fresh, _⟩
  · rw [track?_of_get? before] at old
    cases old
    exact handled.move_eq
  · have used := standing.orderly.numbered.below id (Board.mem_ids_iff.mpr ⟨gremlin, before⟩)
    exact absurd used (Nat.not_lt.mpr fresh)

theorem Reachable.move_of_runAll (reachable : Reachable bestiary s) {operations : List Operation}
    (between : ∀ operation ∈ operations, operation ≠ .advance)
    (success : Operation.runAll s operations = .ok s') {id : InstanceId}
    {gremlin gremlin' : Instance} (before : s.board.get? id = some gremlin)
    (after : s'.board.get? id = some gremlin') : gremlin'.move = gremlin.move := by
  induction operations generalizing s gremlin with
  | nil =>
    cases success
    rw [before] at after
    rw [Option.some.inj after]
  | cons operation rest ih =>
    obtain ⟨first, others⟩ := List.forall_mem_cons.mp between
    obtain ⟨middle, ran, success⟩ := Operation.runAll_cons.mp success
    have onward := reachable.step operation ran
    have present : id ∈ middle.board.ids := by
      -- nobody comes back
      refine Decidable.byContradiction fun absent => ?_
      have used := (reachable.standing sound).orderly.numbered.below id
        (Board.mem_ids_iff.mpr ⟨gremlin, before⟩)
      have grown := (reachable.not_mem_of_step sound ran).1
      exact (onward.not_mem_of_later sound (later_of_runAll success)).2 id
        (Nat.lt_of_lt_of_le used grown) absent (Board.mem_ids_iff.mpr ⟨gremlin', after⟩)
    obtain ⟨early, there⟩ := Board.mem_ids_iff.mp present
    rw [ih onward others success there]
    exact reachable.move_of_step sound first ran before there

/-- A gremlin is in its opening move for as long as the tick of its birth lasts. -/
theorem Reachable.move_of_newborn (reachable : Reachable bestiary s) {id : InstanceId}
    {track : Track} (found : s.track? id = some track) {table : AdaptiveTable}
    (adapts : track.gremlin.template.Adapts table)
    (adaptive : track.gremlin.template.pattern = .adaptive)
    (moves : track.gremlin.template.moves ≠ []) (newborn : track.gremlin.spawnedAt = s.now) :
    track.gremlin.move = 0 := by
  refine (reachable.track_holds sound (motive := fun now track => track.Timely now ∧
    (track.gremlin.template.Adapts table → track.gremlin.template.pattern = .adaptive →
      track.gremlin.template.moves ≠ [] → track.gremlin.spawnedAt = now →
      track.gremlin.move = 0)) ?_ ?_ ?_ ?_ found).2 adapts adaptive moves newborn
  · intro now track born
    exact ⟨born.timely, fun _ _ _ _ => born.move_eq⟩
  · intro now track track' born changed
    have fit := born.gremlin_fit sound
    refine ⟨born.timely.changed sound fit changed, fun adapts adaptive moves newborn => ?_⟩
    have looked := changed.looked (Instance.isAlive_iff.mpr fit.health.positive) born.timely.age
    rw [looked.template] at adapts adaptive moves
    rw [looked.spawnedAt] at newborn
    have early : table.isDue track.gremlin.spawnedAt now = false := by
      rw [newborn, AdaptiveTable.isDue, Nat.sub_self]
      rfl
    rw [looked.move table adapts adaptive moves, early, if_neg Bool.false_ne_true, born.move_eq]
  · rintro now track track' handled ⟨timely, opening⟩
    have template : track'.gremlin.template = track.gremlin.template :=
      (congrArg Instance.template handled.gremlin.course :)
    have spawnedAt : track'.gremlin.spawnedAt = track.gremlin.spawnedAt :=
      (congrArg Instance.spawnedAt handled.gremlin.course :)
    rw [template, spawnedAt, handled.move_eq]
    exact ⟨timely.handled handled, opening⟩
  · rintro now track track' fit ⟨timely, _⟩ changed
    have alive := Instance.isAlive_iff.mpr fit.health.positive
    have still := Track.fire_fit (Track.hold_fit fit) ⟨now.count + 1⟩
    refine ⟨(timely.tick alive).changed sound still changed, fun _ _ _ newborn => ?_⟩
    -- whoever has lived through a tick is older than that
    rw [(timely.looked fit changed).spawnedAt] at newborn
    have born : track.gremlin.spawnedAt.count = now.count + 1 := congrArg Ticks.count newborn
    have age := timely.age
    omega

end Sound

/-- A fight as it begins: nobody is there, or those of a scenario are. -/
inductive Opening (bestiary : Bestiary) : Encounter → Prop
  | fresh (seed : Nat) : Opening bestiary (new bestiary seed)
  | arranged {scenario : Scenario} {s : Encounter}
      (success : ofScenario scenario bestiary = .ok s) : Opening bestiary s

theorem Opening.reachable {bestiary : Bestiary} {s : Encounter} (opens : Opening bestiary s) :
    Reachable bestiary s := by
  cases opens with
  | fresh seed => exact .fresh seed
  | arranged success => exact .arranged success

/-- In the beginning nobody has seen anything. -/
theorem Opening.watches {bestiary : Bestiary} {s : Encounter} (opens : Opening bestiary s)
    (id : InstanceId) : Watches id [] s := by
  refine ⟨fun gremlin found => ?_, fun _ => rfl⟩
  cases opens with
  | fresh seed => cases found
  | arranged success =>
    obtain ⟨start, blank, effected⟩ := ofScenario_effected success
    rcases effected.sees blank.standing.orderly id gremlin found with
      ⟨early, before, _⟩ | ⟨_, observed⟩
    · rw [blank.board] at before
      cases before
    · exact observed

/-- An adaptive gremlin has counted what it has seen since its last look at its decision table, or
since its birth, and nothing else, also in the course of a script. It looks in the ticks in which its
age is a multiple of the check interval; then it goes to the move of the first rule that its counts
satisfy, or to its opening move, and starts to count anew. Otherwise it keeps its move. -/
theorem adaptive_reacts {records : List Record} {start s : Encounter}
    (opens : Opening (Bestiary.load records).1 start) {operations : List Operation}
    (ran : Operation.runAll start operations = .ok s) {id : InstanceId} {gremlin : Instance}
    (found : s.board.get? id = some gremlin) (adaptive : gremlin.template.pattern = .adaptive)
    (moves : gremlin.template.moves ≠ []) :
    ∃ table, gremlin.template.adaptive = some table ∧ 0 < table.interval ∧
      (∀ counter, gremlin.observed.count counter =
        tally (seenSinceCheck id start [] operations) counter) ∧
      (gremlin.spawnedAt = s.now → gremlin.move = 0) ∧
      (∀ s', s.advance = .ok s' → ∃ gremlin', s'.board.get? id = some gremlin' ∧
        gremlin'.template = gremlin.template ∧ gremlin'.spawnedAt = gremlin.spawnedAt ∧
        ((∃ j, 1 ≤ j ∧ s'.now.count = gremlin.spawnedAt.count + j * table.interval) →
          table.Selects (tally (seenSinceCheck id start [] operations)) gremlin'.move ∧
          gremlin'.observed = {}) ∧
        ((¬ ∃ j, 1 ≤ j ∧ s'.now.count = gremlin.spawnedAt.count + j * table.interval) →
          gremlin'.move = gremlin.move)) ∧
      (∀ (operation : Operation) s', operation ≠ .advance → operation.run s = .ok s' →
        ∀ gremlin', s'.board.get? id = some gremlin' → gremlin'.move = gremlin.move) ∧
      ∀ action s', s.perform action = .ok s' → ∀ gremlin', s'.board.get? id = some gremlin' →
        gremlin'.move = gremlin.move ∧ ∀ counter, gremlin'.observed.count counter =
          tally (seenSinceCheck id start [] (operations ++ s.operations action)) counter := by
  have sound : ∀ template ∈ (Bestiary.load records).1.templates, template.Sound :=
    fun _ member => Bestiary.sound_of_mem_load member
  have reachable := opens.reachable.runAll ran
  have standing := reachable.standing sound
  have track := track?_of_get? found
  have known : gremlin.template ∈ (Bestiary.load records).1.templates := (standing.fit id _ track).known
  obtain ⟨table, adapts⟩ := Bestiary.adapts_of_mem_load known adaptive
  have counts : ∀ {more : List Operation} {after : Encounter} {gremlin' : Instance},
      Operation.runAll start more = .ok after → after.board.get? id = some gremlin' →
      ∀ counter, gremlin'.observed.count counter =
        tally (seenSinceCheck id start [] more) counter := by
    intro more after gremlin' ran found counter
    rw [((opens.watches id).run sound opens.reachable ran).counted gremlin' found,
      Observation.count_foldl, Observation.count_empty, Nat.zero_add]
  have seen := counts ran found
  refine ⟨table, adapts.given, adapts.positive, seen, fun newborn => ?_, fun s' success => ?_, ?_, ?_⟩
  · exact reachable.move_of_newborn sound track adapts adaptive moves newborn
  · obtain ⟨gremlin', after, looked⟩ := reachable.looks_in_advance sound success found
    have due : table.isDue gremlin.spawnedAt s'.now = true ↔ ∃ j, 1 ≤ j ∧
        s'.now.count = gremlin.spawnedAt.count + j * table.interval :=
      AdaptiveTable.isDue_iff adapts.positive
    refine ⟨gremlin', after, looked.template, looked.spawnedAt, fun multiple => ?_, fun between => ?_⟩
    · rw [← funext seen]
      exact looked.of_due adapts adaptive moves (due.mpr multiple)
    · exact looked.of_not_due adapts adaptive moves fun looks => between (due.mp looks)
  · intro operation s' between success gremlin' after
    exact reachable.move_of_step sound between success found after
  · intro action s' success gremlin' after
    have runs := perform_runs success
    refine ⟨reachable.move_of_runAll sound (fun operation member =>
      Operation.ne_advance_of_isScripted (s.operations_scripted action operation member)) runs found
      after, counts (Operation.runAll_append.mpr ⟨s, ran, runs⟩) after⟩

/-- A saboteur that has seen one attempt at an execution looks at its table after ten ticks and keeps
to its opening move. In ten more it sees two attempts and eight cards, and goes over to the move that
it has against executions. -/
theorem adaptive_reacts_saboteur : ∃ s gremlin s' gremlin' table,
    Operation.runAll
      (new (Bestiary.load (Catalog.bosses.filter (·.templateId = "grand_saboteur"))).1 7)
      (.spawn "grand_saboteur" :: .observe .executionAttempt :: List.replicate 10 .advance ++
        .observe .executionAttempt :: List.replicate 8 (.observe .cardPlayed) ++
        .observe .executionAttempt :: List.replicate 9 .advance) = .ok s ∧
    s.board.get? ⟨0⟩ = some gremlin ∧ gremlin.move = 0 ∧ s.advance = .ok s' ∧
    s'.board.get? ⟨0⟩ = some gremlin' ∧ gremlin.template.adaptive = some table ∧
    table.Selects gremlin.observed.count gremlin'.move ∧ gremlin'.move = 3 ∧
    gremlin'.observed = {} := by
  have ran : ((Operation.runAll
      (new (Bestiary.load (Catalog.bosses.filter (·.templateId = "grand_saboteur"))).1 7)
      (.spawn "grand_saboteur" :: .observe .executionAttempt :: List.replicate 10 .advance ++
        .observe .executionAttempt :: List.replicate 8 (.observe .cardPlayed) ++
        .observe .executionAttempt :: List.replicate 9 .advance)).toOption.map fun s =>
          (s.board.get? ⟨0⟩).bind fun g => s.advance.toOption.map fun s' =>
            decide (g.template.pattern = .adaptive ∧ g.template.moves ≠ [] ∧
              g.template.adaptive.map (·.interval) = some 10 ∧ g.spawnedAt = ⟨0⟩ ∧ g.move = 0 ∧
              s'.now = ⟨20⟩ ∧ (s'.board.get? ⟨0⟩).map (·.move) = some 3)) =
        some (some true) := by
    decide +kernel
  obtain ⟨s, success, shown⟩ := toOption_map_eq_some.mp ran
  obtain ⟨gremlin, found, shown⟩ := Option.bind_eq_some_iff.mp shown
  obtain ⟨s', ticks, facts⟩ := toOption_map_eq_some.mp shown
  obtain ⟨adaptive, moves, interval, born, opening, time, moved⟩ := of_decide_eq_true facts
  obtain ⟨table, given, _, counts, _, looks, _⟩ :=
    adaptive_reacts (.fresh 7) success found adaptive moves
  rw [given, Option.map_some, Option.some.injEq] at interval
  obtain ⟨gremlin', found', _, _, reacts, _⟩ := looks s' ticks
  rw [found', Option.map_some, Option.some.injEq] at moved
  obtain ⟨selects, anew⟩ := reacts ⟨2, by decide, by rw [time, born, interval]⟩
  rw [← funext counts] at selects
  exact ⟨s, gremlin, s', gremlin', table, success, found, opening, ticks, found', given, selects,
    moved, anew⟩

end Encounter

end Gremlin
