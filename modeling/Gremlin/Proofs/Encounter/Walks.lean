import Gremlin.Proofs.Encounter.Timing

set_option autoImplicit false

/-!
Cycles and sequences run on schedule: which move a gremlin of such a template enters at which age
follows from the template alone, whatever else happens in the fight.
-/

namespace Gremlin

open Gremlin.Text (wordBound)

namespace Instance

section Timed

variable {gremlin : Instance} (sound : gremlin.template.Sound) (timed : gremlin.template.Timed)
  (placed : gremlin.move < gremlin.template.moves.length)

include sound timed placed

/-- A move has run its course once it has been held for its dwell. Until then its triggers are
counted without starting over. -/
theorem moveIsComplete_iff
    (counted : ∀ move, gremlin.currentMove? = some move →
      gremlin.triggers[gremlin.move]? = some (move.triggersAfter gremlin.ticksInMove % wordBound))
    (early : gremlin.ticksInMove ≤ gremlin.template.dwell gremlin.move) :
    gremlin.moveIsComplete = true ↔ gremlin.template.dwell gremlin.move ≤ gremlin.ticksInMove := by
  have current : gremlin.currentMove? = some gremlin.template.moves[gremlin.move] :=
    List.getElem?_eq_getElem placed
  have found : gremlin.template.moves[gremlin.move]? = some gremlin.template.moves[gremlin.move] :=
    current
  have member := List.getElem_mem placed
  rw [Template.dwell, found, Option.map_some, Option.getD_some] at early ⊢
  have triggers : gremlin.currentTriggers =
      gremlin.template.moves[gremlin.move].triggersAfter gremlin.ticksInMove := by
    rw [currentTriggers, counted _ current, Option.getD_some,
      Nat.mod_eq_of_lt (Move.triggersAfter_lt early (sound.counts _ member))]
  rw [moveIsComplete, current, Option.any_some, triggers]
  exact (Template.move_timed sound timed member).isComplete_iff _ _

/-- The move to switch to is the successor of the present one, as soon as that has run its
course. -/
theorem nextMove_eq (generator : Random.Generator) :
    (gremlin.nextMove generator).1 =
      if gremlin.moveIsComplete = true then gremlin.template.successor? gremlin.move else none := by
  have several : gremlin.template.moves.length ≠ 0 := Nat.ne_zero_of_lt placed
  have current : gremlin.template.moves[gremlin.move]? = some gremlin.template.moves[gremlin.move] :=
    List.getElem?_eq_getElem placed
  have explicit : gremlin.explicitNext? =
      gremlin.template.moves[gremlin.move].transition.map (·.next) := by
    rw [explicitNext?, show gremlin.currentMove? = _ from current, Option.bind_some]
  by_cases ends : gremlin.moveIsComplete = true
  · refine Eq.trans ?_ (if_pos ends).symm
    unfold nextMove
    dsimp only
    rw [if_neg several, Template.successor?, current, Option.bind_some, explicit]
    rcases timed.pattern with cycle | sequence
    · rw [cycle]
      dsimp only
      rw [if_pos ends]
      cases gremlin.template.moves[gremlin.move].transition <;> rfl
    · have last : ¬ Pattern.sequence = Pattern.cycle := by decide
      rw [sequence]
      dsimp only
      rw [ends, Bool.true_and]
      cases given : gremlin.template.moves[gremlin.move].transition with
      | none =>
        dsimp only [Option.map_none, Option.getD_none]
        rw [if_neg last]
        by_cases inside : gremlin.move + 1 < gremlin.template.moves.length
        · rw [if_pos (decide_eq_true ⟨inside, Nat.succ_ne_self _⟩), if_pos inside]
        · rw [if_neg (fun both => inside (of_decide_eq_true both).1), if_neg inside]
      | some transition =>
        have inside := sound.next_lt _ (List.getElem_mem placed) transition given
        have onward := sound.forward sequence _ _ current transition given
        dsimp only [Option.map_some, Option.getD_some]
        rw [if_pos (decide_eq_true ⟨inside, Nat.ne_of_gt onward⟩)]
  · refine Eq.trans ?_ (if_neg ends).symm
    unfold nextMove
    dsimp only
    rw [if_neg several]
    rcases timed.pattern with cycle | sequence
    · rw [cycle]
      dsimp only
      rw [if_neg ends]
    · rw [sequence]
      dsimp only
      rw [Bool.eq_false_iff.mpr ends, Bool.false_and, if_neg Bool.false_ne_true]

/-- So it is held for its dwell, if it has not been held for longer or has no successor. -/
theorem nextMove_eq_of_due
    (counted : ∀ move, gremlin.currentMove? = some move →
      gremlin.triggers[gremlin.move]? = some (move.triggersAfter gremlin.ticksInMove % wordBound))
    (due : gremlin.template.dwell gremlin.move < gremlin.ticksInMove →
      gremlin.template.successor? gremlin.move = none) (generator : Random.Generator) :
    (gremlin.nextMove generator).1 =
      if gremlin.template.dwell gremlin.move ≤ gremlin.ticksInMove then
        gremlin.template.successor? gremlin.move
      else none := by
  rw [nextMove_eq sound timed placed]
  by_cases late : gremlin.template.dwell gremlin.move < gremlin.ticksInMove
  · rw [due late, ite_self, ite_self]
  · have complete := moveIsComplete_iff sound timed placed counted (Nat.le_of_not_lt late)
    simp only [complete]

end Timed

end Instance

/-- The entry of a gremlin born at a tick into a stage of its template. -/
def Stage.entry (stage : Stage) (id : InstanceId) (born : Ticks) : TimedEvent :=
  ⟨⟨born.count + stage.age⟩, .moveEntered id stage.index⟩

namespace Encounter

namespace Track

/-- The stages that a track shows its gremlin to have walked. -/
structure Walked (track : Track) (entered : List Stage) (stage : Stage) : Prop where
  walked : track.gremlin.template.Walked entered stage
  entries : track.turns.filter (·.event.isEntry) =
    entered.map (·.entry track.gremlin.id track.gremlin.spawnedAt)
  index : track.gremlin.move = stage.index

theorem Walked.entered_count {track : Track} {entered : List Stage} {stage : Stage}
    (walked : track.Walked entered stage) :
    track.entered.count = track.gremlin.spawnedAt.count + stage.age := by
  have entries := walked.entries
  cases walked.walked with
  | start =>
    rw [Track.entered, entries]
    rfl
  | step so_far follows =>
    rw [Track.entered, entries, List.map_append, List.map_singleton, List.getLast?_concat]
    rfl

/-- The gremlin is in the stage that its age asks for: the next one, if any, is not due. -/
def Staged (track : Track) : Prop :=
  ∃ entered stage, track.Walked entered stage ∧
    (track.gremlin.template.dwell track.gremlin.move ≤ track.gremlin.ticksInMove →
      track.gremlin.template.successor? track.gremlin.move = none)

section Timed

variable {bestiary : Bestiary} {now : Ticks} {track track' : Track}

theorem Newborn.walked (born : Newborn bestiary now track) : track.Walked [] ⟨0, 0⟩ := by
  obtain ⟨id, template, summoner, known⟩ := born
  exact ⟨.start, rfl, rfl⟩

theorem Staged.handled (staged : track.Staged) (handled : Track.Handled track track') :
    track'.Staged := by
  obtain ⟨gremlin, turns⟩ := track
  obtain ⟨gremlin', turns'⟩ := track'
  have same : turns' = turns := handled.turns
  have course : gremlin'.course = gremlin.course := handled.gremlin.course
  obtain ⟨entered, stage, walked, due⟩ := staged
  have stagedCourse : Staged ⟨gremlin.course, turns⟩ :=
    ⟨entered, stage, ⟨walked.1, walked.2, walked.3⟩, due⟩
  rw [← course, ← same] at stagedCourse
  obtain ⟨entered, stage, walked, due⟩ := stagedCourse
  exact ⟨entered, stage, ⟨walked.1, walked.2, walked.3⟩, due⟩

theorem Walked.step {entered : List Stage} {stage next : Stage}
    (walked : track.Walked entered stage)
    (follows : track.gremlin.template.nextStage? stage = some next)
    (time : track.gremlin.spawnedAt.count + next.age = now.count) {gremlin : Instance}
    (template : gremlin.template = track.gremlin.template) (id : gremlin.id = track.gremlin.id)
    (spawnedAt : gremlin.spawnedAt = track.gremlin.spawnedAt) :
    Track.Walked ⟨gremlin.enterMove next.index,
      track.turns ++ [⟨now, .moveEntered track.gremlin.id next.index⟩]⟩ (entered ++ [next]) next := by
  refine ⟨?_, ?_, rfl⟩
  · change gremlin.template.Walked _ _
    rw [template]
    exact walked.walked.step follows
  · change _ = (entered ++ [next]).map (·.entry gremlin.id gremlin.spawnedAt)
    rw [List.filter_append, walked.entries, List.map_append, List.map_singleton, id, spawnedAt,
      Stage.entry, time]
    rfl

/-- A turn to change moves keeps a gremlin in the stage that its age asks for, if the stage was not
overdue. -/
theorem Walked.changed {entered : List Stage} {stage : Stage}
    (sound : track.gremlin.template.Sound) (timed : track.gremlin.template.Timed)
    (fit : track.gremlin.Fit bestiary) (timely : track.Timely now)
    (walked : track.Walked entered stage)
    (due : track.gremlin.template.dwell track.gremlin.move < track.gremlin.ticksInMove →
      track.gremlin.template.successor? track.gremlin.move = none)
    (changed : Changed now track track') : track'.Staged := by
  have placed : track.gremlin.move < track.gremlin.template.moves.length := by
    rcases fit.placed with inside | ⟨none, _⟩
    · exact inside
    · exact absurd none timed.moves
  have next_eq := Instance.nextMove_eq_of_due sound timed placed timely.counted due
  cases changed with
  | lifeless lifeless =>
    rw [Instance.isAlive_iff.mpr fit.health.positive] at lifeless
    cases lifeless
  | stays generator alive next =>
    have waits : track.gremlin.template.dwell track.gremlin.move ≤ track.gremlin.ticksInMove →
        track.gremlin.template.successor? track.gremlin.move = none := by
      intro elapsed
      rw [next_eq, if_pos elapsed] at next
      exact next
    obtain ⟨observed, same⟩ := track.gremlin.nextMove_gremlin generator
    rw [same]
    exact ⟨entered, stage, ⟨walked.1, walked.2, walked.3⟩, waits⟩
  | enters generator index alive next =>
    have inside := Instance.nextMove_lt sound next
    rw [next_eq, Option.ite_none_right_eq_some] at next
    obtain ⟨elapsed, follows⟩ := next
    have exactly : track.gremlin.ticksInMove = track.gremlin.template.dwell track.gremlin.move := by
      refine Nat.le_antisymm (Nat.le_of_not_lt fun late => ?_) elapsed
      rw [due late] at follows
      cases follows
    have next : track.gremlin.template.nextStage? stage =
        some ⟨stage.age + track.gremlin.template.dwell track.gremlin.move, index⟩ := by
      rw [Template.nextStage?, ← walked.index, follows]
      rfl
    have time : track.gremlin.spawnedAt.count +
        (stage.age + track.gremlin.template.dwell track.gremlin.move) = now.count := by
      rw [← timely.held, walked.entered_count, exactly, Nat.add_assoc]
    have rests : track.gremlin.template.dwell index ≤ 0 →
        track.gremlin.template.successor? index = none := by
      intro none
      exact absurd (Template.dwell_pos sound timed inside) (Nat.not_lt.mpr none)
    obtain ⟨observed, same⟩ := track.gremlin.nextMove_gremlin generator
    rw [same]
    exact ⟨_, _, walked.step next time rfl rfl rfl, rests⟩

theorem Newborn.move_eq (born : Newborn bestiary now track) : track.gremlin.move = 0 := by
  obtain ⟨id, template, summoner, known⟩ := born
  rfl

theorem Handled.move_eq (handled : Track.Handled track track') :
    track'.gremlin.move = track.gremlin.move :=
  (congrArg Instance.move handled.gremlin.course :)

/-- What a tick that changes no move keeps, but for the time in the move. -/
structure Ticked (track track' : Track) : Prop where
  template : track'.gremlin.template = track.gremlin.template
  move : track'.gremlin.move = track.gremlin.move
  ticksInMove : track'.gremlin.ticksInMove = track.gremlin.ticksInMove + 1
  id : track'.gremlin.id = track.gremlin.id
  spawnedAt : track'.gremlin.spawnedAt = track.gremlin.spawnedAt
  entries : track'.turns.filter (·.event.isEntry) = track.turns.filter (·.event.isEntry)

theorem ticked (alive : track.gremlin.isAlive = true) (now : Ticks) :
    Ticked track (track.hold.fire now) := by
  cases current : track.gremlin.currentMove? with
  | none =>
    rw [fire_hold_of_moveless now alive current]
    exact ⟨rfl, rfl, rfl, rfl, rfl, rfl⟩
  | some move =>
    cases passive : move.isPassive with
    | true =>
      rw [fire_hold_of_passive now alive current passive]
      exact ⟨rfl, rfl, rfl, rfl, rfl, rfl⟩
    | false =>
      by_cases fires : (track.gremlin.ticksInMove + 1) % move.interval = 0
      · rw [fire_hold_of_due now alive current passive fires]
        refine ⟨rfl, rfl, rfl, rfl, rfl, ?_⟩
        rw [List.filter_append]
        exact List.append_nil _
      · rw [fire_hold_of_waiting now alive current passive fires]
        exact ⟨rfl, rfl, rfl, rfl, rfl, rfl⟩

/-- A tick that changes no move enters nothing. -/
theorem Walked.ticked {entered : List Stage} {stage : Stage} (walked : track.Walked entered stage)
    (ticked : Ticked track track') : track'.Walked entered stage where
  walked := by
    rw [ticked.template]
    exact walked.walked
  entries := by
    rw [ticked.entries, ticked.id, ticked.spawnedAt]
    exact walked.entries
  index := by
    rw [ticked.move]
    exact walked.index

theorem Newborn.ticksInMove_lt (born : Newborn bestiary now track)
    (sound : ∀ template ∈ bestiary.templates, template.Sound)
    (timed : track.gremlin.template.Timed) :
    track.gremlin.ticksInMove < track.gremlin.template.dwell track.gremlin.move := by
  obtain ⟨id, template, summoner, known⟩ := born
  exact Template.dwell_pos (sound template known) timed (List.length_pos_iff.mpr timed.moves)

end Timed

end Track

theorem Reachable.staged {bestiary : Bestiary} {s : Encounter}
    (sound : ∀ template ∈ bestiary.templates, template.Sound) (reachable : Reachable bestiary s)
    {id : InstanceId} {track : Track} (found : s.track? id = some track)
    (timed : track.gremlin.template.Timed) : track.Staged := by
  refine (reachable.track_holds sound (motive := fun now track => track.Timely now ∧
    (track.gremlin.template.Timed → track.Staged)) ?_ ?_ ?_ ?_ found).2 timed
  · intro now track born
    refine ⟨born.timely, fun timed => ⟨[], ⟨0, 0⟩, born.walked, fun elapsed => ?_⟩⟩
    exact absurd (born.ticksInMove_lt sound timed) (Nat.not_lt.mpr elapsed)
  · intro now track track' born changed
    have fit := born.gremlin_fit sound
    have timely := born.timely
    refine ⟨timely.changed sound fit changed, fun timed => ?_⟩
    have timed : track.gremlin.template.Timed := changed.template ▸ timed
    refine born.walked.changed (sound _ fit.known) timed fit timely (fun elapsed => ?_) changed
    exact absurd (born.ticksInMove_lt sound timed) (Nat.not_lt.mpr (Nat.le_of_lt elapsed))
  · intro now track track' handled ⟨timely, staged⟩
    have template : track'.gremlin.template = track.gremlin.template :=
      (congrArg Instance.template handled.gremlin.course :)
    exact ⟨timely.handled handled, fun timed => (staged (template ▸ timed)).handled handled⟩
  · intro now track track' fit ⟨timely, staged⟩ changed
    have alive := Instance.isAlive_iff.mpr fit.health.positive
    have older := timely.tick alive
    have still := Track.fire_fit (Track.hold_fit fit) ⟨now.count + 1⟩
    refine ⟨older.changed sound still changed, fun timed => ?_⟩
    have timed : (track.hold.fire ⟨now.count + 1⟩).gremlin.template.Timed :=
      changed.template ▸ timed
    have ticked := Track.ticked alive ⟨now.count + 1⟩
    obtain ⟨entered, stage, walked, due⟩ := staged (ticked.template ▸ timed)
    refine (walked.ticked ticked).changed (sound _ still.known) timed still older ?_ changed
    rw [ticked.template, ticked.move, ticked.ticksInMove]
    exact fun elapsed => due (Nat.le_of_lt_succ elapsed)

/-- The entries of a gremlin into its moves, the oldest first. -/
def entries (s : Encounter) (gremlin : Instance) : List TimedEvent :=
  (s.turns gremlin.id).filter (·.event.isEntry)

/-- Whatever happens in a fight, a gremlin of a timed template enters the stages of its template at
their ages, and no others. -/
theorem schedule_law {records : List Record} {s : Encounter}
    (reachable : Reachable (Bestiary.load records).1 s) {gremlin : Instance}
    (present : gremlin ∈ s.board.gremlins) (timed : gremlin.template.Timed) (n : Nat) :
    (s.entries gremlin)[n]? =
      ((gremlin.template.stage? (n + 1)).filter fun stage =>
        stage.age ≤ s.now.count - gremlin.spawnedAt.count).map
          (·.entry gremlin.id gremlin.spawnedAt) := by
  have sound : ∀ template ∈ (Bestiary.load records).1.templates, template.Sound :=
    fun _ member => Bestiary.sound_of_mem_load member
  have standing := reachable.standing sound
  have found := track?_of_get? (Board.get?_of_mem standing.orderly.numbered.distinct present)
  have timely : Track.Timely s.now ⟨gremlin.bare, s.turns gremlin.id⟩ :=
    reachable.timely sound found
  obtain ⟨entered, stage, walked, due⟩ := reachable.staged sound found timed
  have start : _ = gremlin.spawnedAt.count + stage.age := walked.entered_count
  have held : _ + gremlin.ticksInMove = s.now.count := timely.held
  rw [start] at held
  have ahead : ∀ next, gremlin.template.nextStage? stage = some next →
      s.now.count - gremlin.spawnedAt.count < next.age := by
    intro next follows
    obtain ⟨index, successor, rfl⟩ := Option.map_eq_some_iff.mp follows
    have index : gremlin.move = stage.index := walked.index
    have waits : ¬ gremlin.template.dwell gremlin.move ≤ gremlin.ticksInMove := by
      intro elapsed
      rw [← index, show gremlin.template.successor? gremlin.move = none from due elapsed] at successor
      cases successor
    rw [index] at waits
    dsimp only
    omega
  have entries : s.entries gremlin = entered.map (·.entry gremlin.id gremlin.spawnedAt) :=
    walked.entries
  rw [entries, List.getElem?_map,
    walked.walked.getElem?_entered_eq (by omega) ahead n]
  rfl

/-- An imp that joins late and is hit on the way enters its second stage after it has held its
passive move for ten ticks and its other move for five. -/
theorem schedule_law_imp : ∃ s gremlin,
    Operation.runAll
      (new (Bestiary.load (Catalog.records.filter
        (·.templateId ∈ ["dust_mite", "chaos_imp"]))).1 7)
      (.spawn "dust_mite" :: .advance :: .spawn "chaos_imp" :: List.replicate 8 .advance ++
        .hit ⟨1⟩ ⟨5, true⟩ :: List.replicate 9 .advance) = .ok s ∧
    gremlin ∈ s.board.gremlins ∧ gremlin.template.Timed ∧
    (s.entries gremlin)[1]? =
      ((gremlin.template.stage? 2).filter fun stage =>
        stage.age ≤ s.now.count - gremlin.spawnedAt.count).map
          (·.entry gremlin.id gremlin.spawnedAt) ∧
    (gremlin.template.stage? 2).map (·.entry gremlin.id gremlin.spawnedAt) =
      some ⟨⟨16⟩, .moveEntered ⟨1⟩ 0⟩ := by
  have ran : ((Operation.runAll
      (new (Bestiary.load (Catalog.records.filter
        (·.templateId ∈ ["dust_mite", "chaos_imp"]))).1 7)
      (.spawn "dust_mite" :: .advance :: .spawn "chaos_imp" :: List.replicate 8 .advance ++
        .hit ⟨1⟩ ⟨5, true⟩ :: List.replicate 9 .advance)).toOption.map fun s =>
          (s.board.get? ⟨1⟩).map fun g => (decide g.template.Timed,
            (g.template.stage? 2).map (·.entry g.id g.spawnedAt))) =
        some (some (true, some ⟨⟨16⟩, .moveEntered ⟨1⟩ 0⟩)) := by
    decide +kernel
  obtain ⟨s, success, shown⟩ := toOption_map_eq_some.mp ran
  obtain ⟨gremlin, found, facts⟩ := Option.map_eq_some_iff.mp shown
  obtain ⟨timed, stage⟩ := Prod.mk.inj facts
  have timed := of_decide_eq_true timed
  have present := Board.mem_of_get? found
  exact ⟨s, gremlin, success, present, timed,
    schedule_law ((Reachable.fresh 7).runAll success) present timed 1, stage⟩

end Encounter

end Gremlin
