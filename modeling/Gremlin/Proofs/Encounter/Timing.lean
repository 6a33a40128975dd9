import Gremlin.Proofs.Encounter.Soundness
import Gremlin.Proofs.Stages
import Mathlib.Data.List.DropRight

set_option autoImplicit false

/-!
When moves fire. A move fires at every multiple of its interval after it was entered, a passive one
never; the counters of a gremlin say how long it has lived, how long it has held its move, and how
often that move has been triggered.
-/

namespace Gremlin

open Gremlin.Text (wordBound)

/-- Whether an event is an entry into a move. -/
def Event.isEntry : Event → Bool
  | .moveEntered .. => true
  | _ => false

namespace Move

/-- The firings of a move that was entered at a tick and held for so many ticks. -/
def firings (move : Move) (id : InstanceId) (index : Nat) (entered : Ticks) (held : Nat) :
    List TimedEvent :=
  if move.isPassive then []
  else (List.range (held / move.interval)).map fun k =>
    ⟨⟨entered.count + (k + 1) * move.interval⟩, .moveFired id index⟩

theorem triggersAfter_zero (move : Move) : move.triggersAfter 0 = 0 := by
  unfold triggersAfter
  split
  · rfl
  · exact Nat.zero_div _

theorem firings_zero (move : Move) (id : InstanceId) (index : Nat) (entered : Ticks) :
    move.firings id index entered 0 = [] := by
  unfold firings
  split
  · rfl
  · rw [Nat.zero_div]
    rfl

section Held

variable {move : Move} {held : Nat}

theorem triggersAfter_of_passive (passive : move.isPassive = true) :
    move.triggersAfter (held + 1) = move.triggersAfter held + 1 := by
  rw [triggersAfter, triggersAfter, if_pos passive, if_pos passive]

theorem firings_of_passive (passive : move.isPassive = true) (id : InstanceId) (index : Nat)
    (entered : Ticks) : move.firings id index entered held = [] := by
  rw [firings, if_pos passive]

theorem triggersAfter_of_due (active : move.isPassive = false)
    (due : (held + 1) % move.interval = 0) :
    move.triggersAfter (held + 1) = move.triggersAfter held + 1 := by
  rw [triggersAfter, triggersAfter, active, if_neg Bool.false_ne_true, if_neg Bool.false_ne_true,
    Nat.succ_div_of_mod_eq_zero due]

theorem triggersAfter_of_waiting (active : move.isPassive = false)
    (waits : (held + 1) % move.interval ≠ 0) :
    move.triggersAfter (held + 1) = move.triggersAfter held := by
  rw [triggersAfter, triggersAfter, active, if_neg Bool.false_ne_true, if_neg Bool.false_ne_true,
    Nat.succ_div_of_mod_ne_zero waits]

theorem firings_of_due (active : move.isPassive = false) (due : (held + 1) % move.interval = 0)
    (id : InstanceId) (index : Nat) (entered : Ticks) :
    move.firings id index entered (held + 1) =
      move.firings id index entered held ++
        [⟨⟨entered.count + (held + 1)⟩, .moveFired id index⟩] := by
  have whole : (held / move.interval + 1) * move.interval = held + 1 := by
    rw [← Nat.succ_div_of_mod_eq_zero due]
    exact Nat.div_mul_cancel (Nat.dvd_of_mod_eq_zero due)
  rw [firings, firings, active, if_neg Bool.false_ne_true, if_neg Bool.false_ne_true,
    Nat.succ_div_of_mod_eq_zero due, List.range_succ, List.map_append, List.map_singleton, whole]

theorem firings_of_waiting (active : move.isPassive = false)
    (waits : (held + 1) % move.interval ≠ 0) (id : InstanceId) (index : Nat) (entered : Ticks) :
    move.firings id index entered (held + 1) = move.firings id index entered held := by
  rw [firings, firings, active, if_neg Bool.false_ne_true, if_neg Bool.false_ne_true,
    Nat.succ_div_of_mod_ne_zero waits]

end Held

end Move

namespace Encounter

namespace Track

/-- The tick of the last entry into a move, or that of the birth if there was none. -/
def entered (track : Track) : Ticks :=
  ((track.turns.filter (·.event.isEntry)).getLast?.map (·.now)).getD track.gremlin.spawnedAt

/-- The firings since the last entry into a move. -/
def fired (track : Track) : List TimedEvent := track.turns.rtakeWhile (!·.event.isEntry)

/-! ### What holding and firing come to -/

theorem hold_of_active {track : Track} {move : Move}
    (current : track.gremlin.currentMove? = some move) (active : move.isPassive = false) :
    track.hold = track := by
  rw [hold, Instance.passiveMove?, current, Option.filter_some, active, if_neg Bool.false_ne_true,
    Option.isSome_none, Bool.and_false, if_neg Bool.false_ne_true]

theorem fires_of_active {track : Track} {move : Move}
    (current : track.gremlin.currentMove? = some move) (active : move.isPassive = false) :
    track.gremlin.age.fires = decide ((track.gremlin.ticksInMove + 1) % move.interval = 0) := by
  have still : track.gremlin.age.currentMove? = some move := current
  rw [Instance.fires, still]
  dsimp only
  rw [active]
  exact Bool.true_and _

section Pass

variable {track : Track} (now : Ticks) (alive : track.gremlin.isAlive = true)

include alive

theorem fire_hold_of_moveless (moveless : track.gremlin.currentMove? = none) :
    track.hold.fire now = { track with gremlin := track.gremlin.age } := by
  have idle : track.gremlin.passiveMove? = none := by
    rw [Instance.passiveMove?, moveless]
    rfl
  have current : track.gremlin.age.currentMove? = none := moveless
  have waits : track.gremlin.age.fires = false := by
    rw [Instance.fires, current]
  rw [hold, idle, Option.isSome_none, Bool.and_false, if_neg Bool.false_ne_true, fire,
    if_pos alive, waits, if_neg Bool.false_ne_true]

variable {move : Move} (current : track.gremlin.currentMove? = some move)

include current

theorem fire_hold_of_passive (passive : move.isPassive = true) :
    track.hold.fire now = { track with gremlin := track.gremlin.countTrigger.age } := by
  have held : track.hold = { track with gremlin := track.gremlin.countTrigger } := by
    rw [hold, alive, Instance.passiveMove?, current, Option.filter_some, if_pos passive]
    rfl
  have still : track.gremlin.countTrigger.age.currentMove? = some move := current
  have waits : track.gremlin.countTrigger.age.fires = false := by
    rw [Instance.fires, still]
    dsimp only
    rw [passive]
    rfl
  rw [held, fire, if_pos (show track.gremlin.countTrigger.isAlive = true from alive), waits,
    if_neg Bool.false_ne_true]

theorem fire_hold_of_due (active : move.isPassive = false)
    (due : (track.gremlin.ticksInMove + 1) % move.interval = 0) :
    track.hold.fire now =
      ⟨track.gremlin.age.countTrigger,
        track.turns ++ [⟨now, .moveFired track.gremlin.id track.gremlin.move⟩]⟩ := by
  rw [hold_of_active current active, fire, if_pos alive,
    fires_of_active current active, if_pos (decide_eq_true due)]

theorem fire_hold_of_waiting (active : move.isPassive = false)
    (waits : (track.gremlin.ticksInMove + 1) % move.interval ≠ 0) :
    track.hold.fire now = { track with gremlin := track.gremlin.age } := by
  rw [hold_of_active current active, fire, if_pos alive,
    fires_of_active current active, decide_eq_false waits, if_neg Bool.false_ne_true]

end Pass

/-! ### Timely tracks -/

/-- The counters of a gremlin and its firings are those of its age and of the time it has held its
move. -/
structure Timely (now : Ticks) (track : Track) : Prop where
  age : track.gremlin.spawnedAt.count + track.gremlin.ticksAlive = now.count
  held : track.entered.count + track.gremlin.ticksInMove = now.count
  counted : ∀ move, track.gremlin.currentMove? = some move →
    track.gremlin.triggers[track.gremlin.move]? =
      some (move.triggersAfter track.gremlin.ticksInMove % wordBound)
  fired : ∀ move, track.gremlin.currentMove? = some move →
    track.fired = move.firings track.gremlin.id track.gremlin.move track.entered
      track.gremlin.ticksInMove

theorem Newborn.timely {bestiary : Bestiary} {now : Ticks} {track : Track}
    (born : Newborn bestiary now track) : Timely now track := by
  obtain ⟨id, template, summoner, known⟩ := born
  refine ⟨rfl, rfl, ?_, ?_⟩
  · intro move current
    have some : 0 < template.moves.length := (List.getElem?_eq_some_iff.mp current).1
    rw [show (Instance.spawn id template now summoner).bare.ticksInMove = 0 from rfl,
      move.triggersAfter_zero, Nat.zero_mod]
    change (List.replicate template.moves.length 0)[0]? = _
    rw [List.getElem?_replicate, if_pos some]
  · intro move _
    exact (move.firings_zero _ _ _).symm

theorem Timely.handled {now : Ticks} {track track' : Track} (timely : Timely now track)
    (handled : Track.Handled track track') : Timely now track' := by
  obtain ⟨gremlin, turns⟩ := track
  obtain ⟨gremlin', turns'⟩ := track'
  have same : turns' = turns := handled.turns
  have course : gremlin'.course = gremlin.course := handled.gremlin.course
  have timelyCourse : Timely now ⟨gremlin.course, turns⟩ := ⟨timely.1, timely.2, timely.3, timely.4⟩
  rw [← course, ← same] at timelyCourse
  exact ⟨timelyCourse.1, timelyCourse.2, timelyCourse.3, timelyCourse.4⟩

theorem entered_of_fired (track : Track) {turn : TimedEvent} (firing : turn.event.isEntry = false)
    {gremlin : Instance} (same : gremlin.spawnedAt = track.gremlin.spawnedAt) :
    (⟨gremlin, track.turns ++ [turn]⟩ : Track).entered = track.entered := by
  simp only [entered, List.filter_append, List.filter_singleton, firing, cond_false,
    List.append_nil, same]

theorem fired_of_fired {track : Track} {turn : TimedEvent} (firing : turn.event.isEntry = false)
    (gremlin : Instance) :
    (⟨gremlin, track.turns ++ [turn]⟩ : Track).fired = track.fired ++ [turn] :=
  List.rtakeWhile_concat_pos _ _ _ (by rw [firing]; rfl)

/-- A tick that changes no move leaves a live gremlin timely. -/
theorem Timely.tick {now : Ticks} {track : Track} (timely : Timely now track)
    (alive : track.gremlin.isAlive = true) :
    Timely ⟨now.count + 1⟩ (track.hold.fire ⟨now.count + 1⟩) := by
  have age : track.gremlin.spawnedAt.count + (track.gremlin.ticksAlive + 1) = now.count + 1 :=
    congrArg (· + 1) timely.age
  have held : track.entered.count + (track.gremlin.ticksInMove + 1) = now.count + 1 :=
    congrArg (· + 1) timely.held
  cases current : track.gremlin.currentMove? with
  | none =>
    rw [fire_hold_of_moveless _ alive current]
    refine ⟨age, held, fun move other => ?_, fun move other => ?_⟩ <;>
    · rw [show track.gremlin.age.currentMove? = none from current] at other
      cases other
  | some move =>
    have counted := timely.counted move current
    have fired := timely.fired move current
    have only : ∀ other, track.gremlin.age.currentMove? = some other → other = move := by
      intro other found
      rw [show track.gremlin.age.currentMove? = some move from current] at found
      exact (Option.some.inj found).symm
    have counts : track.gremlin.countTrigger.triggers[track.gremlin.move]? =
        some ((move.triggersAfter track.gremlin.ticksInMove + 1) % wordBound) := by
      rw [Instance.countTrigger, List.getElem?_modify_eq, counted]
      exact congrArg some (Nat.mod_add_mod ..)
    cases passive : move.isPassive with
    | true =>
      rw [fire_hold_of_passive _ alive current passive]
      refine ⟨age, held, fun other found => ?_, fun other found => ?_⟩
      · rw [only other found]
        rwa [← Move.triggersAfter_of_passive passive] at counts
      · rw [only other found, Move.firings_of_passive passive]
        rw [Move.firings_of_passive passive] at fired
        exact fired
    | false =>
      by_cases due : (track.gremlin.ticksInMove + 1) % move.interval = 0
      · rw [fire_hold_of_due _ alive current passive due]
        have entered : (⟨track.gremlin.age.countTrigger, track.turns ++
            [⟨⟨now.count + 1⟩, .moveFired track.gremlin.id track.gremlin.move⟩]⟩ : Track).entered =
              track.entered := entered_of_fired track rfl rfl
        refine ⟨age, ?_, fun other found => ?_, fun other found => ?_⟩
        · rw [entered]
          exact held
        · rw [only other found]
          rwa [← Move.triggersAfter_of_due passive due] at counts
        · rw [only other found, entered, fired_of_fired rfl, fired]
          change _ = move.firings _ _ _ (track.gremlin.ticksInMove + 1)
          rw [Move.firings_of_due passive due, held]
          rfl
      · rw [fire_hold_of_waiting _ alive current passive due]
        refine ⟨age, held, fun other found => ?_, fun other found => ?_⟩
        · rw [only other found]
          rwa [← Move.triggersAfter_of_waiting passive due] at counted
        · rw [only other found]
          exact fired.trans (Move.firings_of_waiting passive due _ _ _).symm

/-- Entering a move starts its time over. -/
theorem Timely.enters {now : Ticks} {track : Track} (timely : Timely now track) {gremlin : Instance}
    (spawnedAt : gremlin.spawnedAt = track.gremlin.spawnedAt)
    (ticksAlive : gremlin.ticksAlive = track.gremlin.ticksAlive) {index : Nat}
    (inside : index < gremlin.triggers.length) (id : InstanceId) :
    Timely now ⟨gremlin.enterMove index, track.turns ++ [⟨now, .moveEntered id index⟩]⟩ := by
  have entered : (⟨gremlin.enterMove index, track.turns ++ [⟨now, .moveEntered id index⟩]⟩ :
      Track).entered = now := by
    simp only [Track.entered, List.filter_append, List.filter_singleton, Event.isEntry, cond_true,
      List.getLast?_append, List.getLast?_singleton, Option.some_or, Option.map_some,
      Option.getD_some]
  refine ⟨?_, ?_, fun move _ => ?_, fun move _ => ?_⟩
  · have age := timely.age
    rw [← spawnedAt, ← ticksAlive] at age
    exact age
  · rw [entered]
    rfl
  · change (gremlin.triggers.set index 0)[index]? = some (move.triggersAfter 0 % wordBound)
    rw [List.getElem?_set_self inside, move.triggersAfter_zero, Nat.zero_mod]
  · change _ = move.firings _ _ _ 0
    rw [move.firings_zero]
    exact List.rtakeWhile_concat_neg _ _ _ Bool.false_ne_true

theorem Timely.changed {bestiary : Bestiary}
    (sound : ∀ template ∈ bestiary.templates, template.Sound) {now : Ticks} {track track' : Track}
    (timely : Timely now track) (fit : track.gremlin.Fit bestiary)
    (changed : Changed now track track') : Timely now track' := by
  cases changed with
  | lifeless lifeless => exact timely
  | stays generator alive next =>
    obtain ⟨observed, same⟩ := track.gremlin.nextMove_gremlin generator
    rw [same]
    exact ⟨timely.1, timely.2, timely.3, timely.4⟩
  | enters generator index alive next =>
    have inside : index < track.gremlin.triggers.length := by
      rw [fit.counted]
      exact Instance.nextMove_lt (sound _ fit.known) next
    obtain ⟨spawnedAt, ticksAlive, triggers⟩ :
        (track.gremlin.nextMove generator).2.1.spawnedAt = track.gremlin.spawnedAt ∧
          (track.gremlin.nextMove generator).2.1.ticksAlive = track.gremlin.ticksAlive ∧
          (track.gremlin.nextMove generator).2.1.triggers = track.gremlin.triggers := by
      obtain ⟨observed, same⟩ := track.gremlin.nextMove_gremlin generator
      rw [same]
      exact ⟨rfl, rfl, rfl⟩
    exact timely.enters spawnedAt ticksAlive (triggers ▸ inside) track.gremlin.id

end Track

theorem Reachable.timely {bestiary : Bestiary} {s : Encounter}
    (sound : ∀ template ∈ bestiary.templates, template.Sound) (reachable : Reachable bestiary s)
    {id : InstanceId} {track : Track} (found : s.track? id = some track) : track.Timely s.now := by
  refine reachable.track_holds sound (motive := fun now track => track.Timely now) ?_ ?_ ?_ ?_ found
  · intro now track born
    exact born.timely
  · intro now track track' born changed
    exact born.timely.changed sound (born.gremlin_fit sound) changed
  · intro now track track' handled timely
    exact timely.handled handled
  · intro now track track' fit timely changed
    have alive := Instance.isAlive_iff.mpr fit.health.positive
    exact (timely.tick alive).changed sound (Track.fire_fit (Track.hold_fit fit) _) changed

/-- The tick of a gremlin's last entry into a move, or that of its birth if there was none. -/
def lastEntry (s : Encounter) (gremlin : Instance) : Ticks :=
  Track.entered ⟨gremlin, s.turns gremlin.id⟩

/-- The firings of a gremlin's moves that the journal holds since its last entry into a move. -/
def firedSinceEntry (s : Encounter) (gremlin : Instance) : List TimedEvent :=
  Track.fired ⟨gremlin, s.turns gremlin.id⟩

/-- However a gremlin came to be, its counters are the ticks since its birth and since its last
entry into a move, and its move has fired at each multiple of its interval since then. The triggers
are counted in 32 bits. -/
theorem timing_law {records : List Record} {s : Encounter}
    (reachable : Reachable (Bestiary.load records).1 s) {gremlin : Instance}
    (present : gremlin ∈ s.board.gremlins) (moves : gremlin.template.moves ≠ []) :
    gremlin.spawnedAt.count ≤ s.now.count ∧
      gremlin.ticksAlive = s.now.count - gremlin.spawnedAt.count ∧
      (s.lastEntry gremlin).count ≤ s.now.count ∧
      gremlin.ticksInMove = s.now.count - (s.lastEntry gremlin).count ∧
      ∃ move, gremlin.currentMove? = some move ∧
        gremlin.triggers[gremlin.move]? =
          some (move.triggersAfter (s.now.count - (s.lastEntry gremlin).count) % wordBound) ∧
        s.firedSinceEntry gremlin =
          move.firings gremlin.id gremlin.move (s.lastEntry gremlin)
            (s.now.count - (s.lastEntry gremlin).count) := by
  have sound : ∀ template ∈ (Bestiary.load records).1.templates, template.Sound :=
    fun _ member => Bestiary.sound_of_mem_load member
  have standing := reachable.standing sound
  have found := Board.get?_of_mem standing.orderly.numbered.distinct present
  have timely : Track.Timely s.now ⟨gremlin.bare, s.turns gremlin.id⟩ :=
    reachable.timely sound (track?_of_get? found)
  have age : gremlin.spawnedAt.count + gremlin.ticksAlive = s.now.count := timely.age
  have held : (s.lastEntry gremlin).count + gremlin.ticksInMove = s.now.count := timely.held
  have elapsed : s.now.count - (s.lastEntry gremlin).count = gremlin.ticksInMove := by omega
  have placed : gremlin.move < gremlin.template.moves.length := by
    rcases ((reachable.boardSound sound).fit gremlin present).placed with inside | ⟨none, _⟩
    · exact inside
    · exact absurd none moves
  have current : gremlin.currentMove? = some gremlin.template.moves[gremlin.move] :=
    List.getElem?_eq_getElem placed
  refine ⟨by omega, by omega, by omega, by omega, _, current, ?_, ?_⟩
  · rw [elapsed]
    exact timely.counted _ current
  · rw [elapsed]
    exact timely.fired _ current

/-- A mite that a firing summoned is as old as the ticks since then. -/
theorem timing_law_summoned : ∃ s gremlin,
    Operation.runAll
      (new (Bestiary.load (Catalog.records.filter
        (·.templateId ∈ ["dust_mite", "gnat_spawner"]))).1 7)
      (.spawn "dust_mite" :: .advance :: .spawn "gnat_spawner" :: List.replicate 15 .advance) =
        .ok s ∧
    gremlin ∈ s.board.gremlins ∧ gremlin.template.moves ≠ [] ∧ gremlin.summoner = some ⟨1⟩ ∧
    gremlin.ticksAlive = s.now.count - gremlin.spawnedAt.count ∧
    gremlin.ticksInMove = s.now.count - (s.lastEntry gremlin).count := by
  have ran : ((Operation.runAll
      (new (Bestiary.load (Catalog.records.filter
        (·.templateId ∈ ["dust_mite", "gnat_spawner"]))).1 7)
      (.spawn "dust_mite" :: .advance :: .spawn "gnat_spawner" ::
        List.replicate 15 .advance)).toOption.map fun s =>
          (s.board.get? ⟨2⟩).map fun g => (g.template.moves.isEmpty, g.summoner)) =
        some (some (false, some ⟨1⟩)) := by
    decide +kernel
  obtain ⟨s, success, shown⟩ := toOption_map_eq_some.mp ran
  obtain ⟨gremlin, found, facts⟩ := Option.map_eq_some_iff.mp shown
  obtain ⟨some, summoner⟩ := Prod.mk.inj facts
  have present := Board.mem_of_get? found
  have moves : gremlin.template.moves ≠ [] := by
    intro none
    rw [none] at some
    cases some
  obtain ⟨_, age, _, held, _⟩ := timing_law ((Reachable.fresh 7).runAll success) present moves
  exact ⟨s, gremlin, success, present, moves, summoner, age, held⟩

end Encounter

end Gremlin
