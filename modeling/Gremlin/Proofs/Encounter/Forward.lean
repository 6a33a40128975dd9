import Gremlin.Proofs.Encounter.Journal
import Gremlin.Proofs.Encounter.Walks
import Gremlin.Proofs.Template.WellFormed
import Mathlib.Data.Nat.Find

set_option autoImplicit false

/-!
Gremlins that only move forward: the moves that a gremlin of a sequence or of a pattern by health
enters rise strictly, and one whose pattern is by health is always in the furthest stage that its
health has reached at any of its checks.
-/

namespace Gremlin

open Gremlin.Random (Generator)

namespace Template

/-- A template with stages by health has a threshold for each of them. -/
theorem thresholds_length_of_ofRecord {record : Record} {template : Template}
    (read : ofRecord record = .ok template) (byHealth : template.pattern = .byHealth) :
    template.thresholds.length = template.moves.length := by
  obtain ⟨traits, moves, rules, accepted⟩ := accepted_of_ofRecord read
  rw [accepted.moves_eq, List.length_map]
  exact (thresholds_of_readThresholds (accepted.pattern_eq ▸ byHealth) accepted.thresholds_read).1

end Template

theorem Bestiary.thresholds_length_of_mem_load {records : List Record} {template : Template}
    (member : template ∈ (load records).1.templates) (byHealth : template.pattern = .byHealth) :
    template.thresholds.length = template.moves.length := by
  obtain ⟨record, _, read⟩ := mem_load member
  exact Template.thresholds_length_of_ofRecord read byHealth

namespace Template

/-- Whether so much health is at or below the threshold of a stage. -/
def Reaches (template : Template) (health : Health) (stage : Nat) : Prop :=
  ∃ threshold ∈ template.thresholds[stage]?, health.fraction ≤ threshold.fraction

instance (template : Template) (health : Health) : DecidablePred (template.Reaches health) :=
  fun stage => decidable_of_iff
    (template.thresholds[stage]?.any fun threshold => health.fraction ≤ threshold.fraction)
    (by simp [Reaches, Option.any_eq_true])

/-- The greatest stage after the opening one that so much health reaches, or the opening one. -/
def stageAt (template : Template) (health : Health) : Nat :=
  Nat.findGreatest (template.Reaches health) template.thresholds.length

end Template

/-- The stage that a gremlin's health has reached. -/
def Instance.stageReached (gremlin : Instance) : Nat := gremlin.template.stageAt gremlin.health

/-- The last number up to a bound that passes a test is the greatest one but zero. -/
theorem getLast?_filter_range {test : Nat → Bool} {holds : Nat → Prop} [DecidablePred holds]
    (origin : test 0 = false) (agree : ∀ k, test (k + 1) = true ↔ holds (k + 1)) (n : Nat) :
    ((List.range (n + 1)).filter test).getLast?.getD 0 = Nat.findGreatest holds n := by
  induction n with
  | zero =>
    rw [List.range_one, List.filter_cons_of_neg (by rw [origin]; exact Bool.false_ne_true)]
    rfl
  | succ n ih =>
    rw [List.range_succ, List.filter_append, Nat.findGreatest_succ]
    by_cases passes : holds (n + 1)
    · rw [if_pos passes, List.filter_cons_of_pos ((agree n).mpr passes), List.filter_nil,
        List.getLast?_concat, Option.getD_some]
    · rw [if_neg passes, List.filter_cons_of_neg fun passed => passes ((agree n).mp passed),
        List.filter_nil, List.append_nil, ih]

namespace Instance

/-- The move that the schedule looks for by health is the stage that is reached. -/
theorem moveForHealth_eq {gremlin : Instance}
    (stages : gremlin.template.thresholds.length = gremlin.template.moves.length) :
    gremlin.moveForHealth = gremlin.stageReached := by
  unfold moveForHealth stageReached Template.stageAt
  rw [stages]
  dsimp only
  cases count : gremlin.template.moves.length with
  | zero => rfl
  | succ n =>
    have beyond : ¬ gremlin.template.Reaches gremlin.health (n + 1) := by
      rintro ⟨threshold, found, _⟩
      rw [List.getElem?_eq_none (by omega)] at found
      cases found
    rw [Nat.findGreatest_succ, if_neg beyond]
    refine getLast?_filter_range rfl (fun k => ?_) n
    rw [Bool.and_eq_true, Option.any_eq_true]
    simp [Template.Reaches]

section Next

variable {gremlin : Instance} {generator : Generator}

theorem nextMove_of_single (single : gremlin.template.pattern = .single) :
    (gremlin.nextMove generator).1 = none := by
  unfold nextMove
  dsimp only
  split
  · rfl
  · rw [single]

theorem nextMove_of_byHealth (byHealth : gremlin.template.pattern = .byHealth)
    (stages : gremlin.template.thresholds.length = gremlin.template.moves.length) :
    (gremlin.nextMove generator).1 =
      if gremlin.move < gremlin.stageReached then some gremlin.stageReached else none := by
  unfold nextMove
  dsimp only
  split
  · rename_i none
    have opening : gremlin.stageReached = 0 := by
      rw [stageReached, Template.stageAt, stages, none, Nat.findGreatest_zero]
    rw [opening, if_neg (Nat.not_lt_zero _)]
  · rw [byHealth]
    dsimp only
    rw [moveForHealth_eq stages]

/-- A sequence goes on to later moves only. -/
theorem lt_nextMove_of_sequence (sequence : gremlin.template.pattern = .sequence)
    (sound : gremlin.template.Sound) {index : Nat}
    (next : (gremlin.nextMove generator).1 = some index) : gremlin.move < index := by
  unfold nextMove at next
  dsimp only at next
  split at next
  · cases next
  · rw [sequence] at next
    dsimp only at next
    rw [Option.ite_none_right_eq_some] at next
    obtain ⟨_, same⟩ := next
    rw [← Option.some.inj same]
    cases given : gremlin.explicitNext? with
    | none => exact Nat.lt_succ_self _
    | some next =>
      obtain ⟨move, _, transition, current, belongs, rfl⟩ := explicitNext?_eq_some given
      exact sound.forward sequence gremlin.move move current transition belongs

end Next

end Instance

/-- The move an event says that a gremlin has entered or fired. -/
def Event.move? : Event → Option Nat
  | moveEntered _ index | moveFired _ index => some index
  | _ => none

namespace Encounter

/-- The moves that a gremlin has entered, the oldest first. -/
def enteredMoves (s : Encounter) (gremlin : Instance) : List Nat :=
  (s.entries gremlin).filterMap (·.event.move?)

namespace Track

/-- The moves that a track shows its gremlin to have entered. -/
def indices (track : Track) : List Nat :=
  (track.turns.filter (·.event.isEntry)).filterMap (·.event.move?)

theorem indices_enters (track : Track) (gremlin : Instance) (now : Ticks) (id : InstanceId)
    (index : Nat) :
    (⟨gremlin, track.turns ++ [⟨now, .moveEntered id index⟩]⟩ : Track).indices =
      track.indices ++ [index] := by
  rw [indices, List.filter_append, List.filterMap_append]
  rfl

/-- The moves entered rise from the opening one up to the present one. -/
structure Climbs (track : Track) : Prop where
  rises : (0 :: track.indices).Pairwise (· < ·)
  below : ∀ index ∈ track.indices, index ≤ track.gremlin.move
  inside : ∀ index ∈ track.indices, index < track.gremlin.template.moves.length

theorem Climbs.enters {track : Track} (climbs : track.Climbs) {gremlin : Instance}
    (template : gremlin.template = track.gremlin.template) {index : Nat}
    (onward : track.gremlin.move < index) (exists_ : index < track.gremlin.template.moves.length)
    (now : Ticks) (id : InstanceId) :
    Climbs ⟨gremlin.enterMove index, track.turns ++ [⟨now, .moveEntered id index⟩]⟩ := by
  have indices := track.indices_enters (gremlin.enterMove index) now id index
  refine ⟨?_, fun other member => ?_, fun other member => ?_⟩
  · rw [indices, ← List.cons_append, List.pairwise_append]
    refine ⟨climbs.rises, List.pairwise_singleton .., fun early member late single => ?_⟩
    rw [List.mem_singleton] at single
    rw [single]
    rcases List.mem_cons.mp member with rfl | old
    · exact Nat.zero_lt_of_lt onward
    · exact Nat.lt_of_le_of_lt (climbs.below early old) onward
  · change other ≤ index
    rw [indices, List.mem_append, List.mem_singleton] at member
    rcases member with old | rfl
    · exact Nat.le_of_lt (Nat.lt_of_le_of_lt (climbs.below other old) onward)
    · exact Nat.le_refl _
  · change other < gremlin.template.moves.length
    rw [template]
    rw [indices, List.mem_append, List.mem_singleton] at member
    rcases member with old | rfl
    · exact climbs.inside other old
    · exact exists_

/-- A single move is never left, and sequences and patterns by health never go back. -/
structure Onward (track : Track) : Prop where
  holds : track.gremlin.template.pattern = .single → track.indices = []
  climbs : track.gremlin.template.pattern = .sequence ∨ track.gremlin.template.pattern = .byHealth →
    track.Climbs

/-- Only the entries, the template and the move decide whether a track leads onward. -/
theorem Onward.of_eq {track track' : Track} (onward : track.Onward)
    (entries : track'.turns.filter (·.event.isEntry) = track.turns.filter (·.event.isEntry))
    (template : track'.gremlin.template = track.gremlin.template)
    (move : track'.gremlin.move = track.gremlin.move) : track'.Onward := by
  have indices : track'.indices = track.indices := by rw [Track.indices, entries, Track.indices]
  refine ⟨fun single => ?_, fun rising => ?_⟩
  · rw [indices]
    exact onward.holds (template ▸ single)
  · have climbs := onward.climbs (template ▸ rising)
    exact ⟨indices ▸ climbs.rises, by rw [indices, move]; exact climbs.below,
      by rw [indices, template]; exact climbs.inside⟩

theorem Newborn.onward {bestiary : Bestiary} {now : Ticks} {track : Track}
    (born : Newborn bestiary now track) : track.Onward := by
  obtain ⟨id, template, summoner, known⟩ := born
  refine ⟨fun _ => rfl, fun _ => ⟨List.pairwise_singleton .., ?_, ?_⟩⟩ <;>
  · intro index member
    cases member

theorem Onward.changed {bestiary : Bestiary}
    (sound : ∀ template ∈ bestiary.templates, template.Sound)
    (staged : ∀ template ∈ bestiary.templates, template.pattern = .byHealth →
      template.thresholds.length = template.moves.length)
    {now : Ticks} {track track' : Track} (onward : track.Onward) (fit : track.gremlin.Fit bestiary)
    (changed : Changed now track track') : track'.Onward := by
  have kept := changed.template
  cases changed with
  | lifeless lifeless => exact onward
  | stays generator alive next =>
    obtain ⟨observed, same⟩ := track.gremlin.nextMove_gremlin generator
    rw [same]
    exact onward.of_eq rfl rfl rfl
  | enters generator index alive next =>
    have inside := Instance.nextMove_lt (sound _ fit.known) next
    have template : (track.gremlin.nextMove generator).2.1.template = track.gremlin.template := kept
    refine ⟨fun single => ?_, fun rising => ?_⟩
    · rw [Instance.nextMove_of_single (kept ▸ single)] at next
      cases next
    · rw [kept] at rising
      have ahead : track.gremlin.move < index := by
        rcases rising with sequence | byHealth
        · exact Instance.lt_nextMove_of_sequence sequence (sound _ fit.known) next
        · rw [Instance.nextMove_of_byHealth byHealth (staged _ fit.known byHealth),
            Option.ite_none_right_eq_some] at next
          exact Option.some.inj next.2 ▸ next.1
      exact (onward.climbs rising).enters template ahead inside now track.gremlin.id

end Track

section Sound

variable {bestiary : Bestiary} (sound : ∀ template ∈ bestiary.templates, template.Sound)
  (staged : ∀ template ∈ bestiary.templates, template.pattern = .byHealth →
    template.thresholds.length = template.moves.length) {s s' : Encounter}

include sound

include staged in
theorem Reachable.onward (reachable : Reachable bestiary s) {id : InstanceId} {track : Track}
    (found : s.track? id = some track) : track.Onward := by
  refine reachable.track_holds sound (motive := fun _ track => track.Onward) ?_ ?_ ?_ ?_ found
  · intro now track born
    exact born.onward
  · intro now track track' born changed
    exact born.onward.changed sound staged (born.gremlin_fit sound) changed
  · intro now track track' handled onward
    refine onward.of_eq (by rw [handled.turns]) ?_ ?_
    · exact (congrArg Instance.template handled.gremlin.course :)
    · exact (congrArg Instance.move handled.gremlin.course :)
  · intro now track track' fit onward changed
    have ticked := Track.ticked (Instance.isAlive_iff.mpr fit.health.positive) ⟨now.count + 1⟩
    exact (onward.of_eq ticked.entries ticked.template ticked.move).changed sound staged
      (Track.fire_fit (Track.hold_fit fit) _) changed

/-- Whoever is on the board after an operation and is not new was there before, of the same kind. -/
theorem Reachable.template_of_step (reachable : Reachable bestiary s) {operation : Operation}
    (success : operation.run s = .ok s') {id : InstanceId} {gremlin' : Instance}
    (found : s'.board.get? id = some gremlin') (used : id.value < s.board.next) :
    ∃ gremlin, s.board.get? id = some gremlin ∧ gremlin'.template = gremlin.template := by
  have after := track?_of_get? found
  rcases operation.cases_run sound (reachable.standing sound) success with
    ⟨_, advanced⟩ | ⟨_, struck⟩
  · rcases advanced.origin after with ⟨track, old, changed⟩ | ⟨fresh, _⟩
    · obtain ⟨gremlin, before, rfl⟩ := get?_of_track? old
      have fit := (reachable.standing sound).fit id _ old
      have ticked := Track.ticked (Instance.isAlive_iff.mpr fit.health.positive) s'.now
      exact ⟨gremlin, before, changed.template.trans ticked.template⟩
    · exact absurd used (Nat.not_lt.mpr fresh)
  · rcases struck.origin after with ⟨track, old, handled⟩ | ⟨fresh, _⟩
    · obtain ⟨gremlin, before, rfl⟩ := get?_of_track? old
      exact ⟨gremlin, before, (congrArg Instance.template handled.gremlin.course :)⟩
    · exact absurd used (Nat.not_lt.mpr fresh)

include staged in
/-- Whatever becomes of a gremlin, its moves have led onward. -/
theorem Reachable.onward_later (reachable : Reachable bestiary s) {id : InstanceId}
    {gremlin : Instance} (present : s.board.get? id = some gremlin) (later : Later s s') :
    (∀ gremlin', s'.board.get? id = some gremlin' → gremlin'.template = gremlin.template) ∧
      ∃ track : Track, track.Onward ∧ track.gremlin.template = gremlin.template ∧
        track.turns = s'.turns id := by
  induction later with
  | refl =>
    refine ⟨fun gremlin' found => ?_, _, reachable.onward sound staged (track?_of_get? present),
      rfl, rfl⟩
    rw [present] at found
    rw [Option.some.inj found]
  | @tail middle last steps final ih =>
    obtain ⟨operation, success⟩ := final
    obtain ⟨kind, track, onward, template, turns⟩ := ih
    have before := reachable.later steps
    have used : id.value < middle.board.next :=
      Nat.lt_of_lt_of_le
        ((reachable.standing sound).orderly.numbered.below id
          (Board.mem_ids_iff.mpr ⟨gremlin, present⟩))
        (reachable.not_mem_of_later sound steps).1
    have kept : ∀ gremlin', last.board.get? id = some gremlin' →
        gremlin'.template = gremlin.template := by
      intro gremlin' found
      obtain ⟨old, there, same⟩ := before.template_of_step sound success found used
      exact same.trans (kind old there)
    refine ⟨kept, ?_⟩
    by_cases there : id ∈ last.board.ids
    · obtain ⟨gremlin', found⟩ := Board.mem_ids_iff.mp there
      exact ⟨_, (before.step operation success).onward sound staged (track?_of_get? found),
        kept gremlin' found, rfl⟩
    · exact ⟨track, onward, template,
        turns.trans (before.turns_of_absent sound success there).symm⟩

/-- Whoever changes its move in a tick is fit by then. -/
theorem Standing.readied_fit {fired : Encounter} (standing : Standing bestiary s)
    (readied : Readied s.begun fired) {id : InstanceId} {track : Track}
    (found : fired.track? id = some track) : track.gremlin.Fit bestiary := by
  cases before : s.track? id with
  | some old =>
    have aged := readied.aged id old ((s.begun_track? id).trans before)
    rw [found] at aged
    rw [Option.some.inj aged]
    exact Track.fire_fit (Track.hold_fit (standing.fit id old before)) _
  | none =>
    obtain ⟨_, born⟩ := readied.joined id track ((s.begun_track? id).trans before) found
    exact Track.Newborn.gremlin_fit sound (standing.known ▸ born)

end Sound

/-! ### Stages by health -/

/-- At `here`, in the tick that follows `s`, a gremlin has its turn to change its move; the turn
leads to `there`. -/
structure Check (s : Encounter) (id : InstanceId) (here there : Encounter) : Prop where
  turn : ∃ held fired before after, s.begun.applyPassives = .ok held ∧
    held.fireMoves = .ok fired ∧ fired.board.ids = before ++ id :: after ∧
    before.foldlM changeMove fired = .ok here
  changes : here.changeMove id = .ok there

/-- The gremlins that have a turn to change their moves in the next tick. -/
def checked (s : Encounter) : List InstanceId :=
  match s.begun.applyPassives >>= fireMoves with
  | .ok fired => fired.board.ids
  | .error _ => []

/-- The stage that a gremlin's health has reached at its check, if an operation from `s` to `s'`
checks it. -/
def Operation.stageChecked (id : InstanceId) (s s' : Encounter) : Operation → List Nat
  | advance => if id ∈ s.checked then ((s'.board.get? id).map (·.stageReached)).toList else []
  | _ => []

/-- The stages that a gremlin's health has reached at its checks in the course of operations. -/
def stagesReached (id : InstanceId) : Encounter → List Operation → List Nat
  | _, [] => []
  | s, operation :: rest =>
    match operation.run s with
    | .ok s' => operation.stageChecked id s s' ++ stagesReached id s' rest
    | .error _ => []

/-- The move of a gremlin, or the opening one if the gremlin is yet to come. -/
def moveOf (s : Encounter) (id : InstanceId) : Nat := ((s.board.get? id).map (·.move)).getD 0

theorem moveOf_of_get? {s : Encounter} {id : InstanceId} {gremlin : Instance}
    (found : s.board.get? id = some gremlin) : s.moveOf id = gremlin.move := by
  rw [moveOf, found]
  rfl

theorem moveOf_of_absent {s : Encounter} {id : InstanceId} (absent : id ∉ s.board.ids) :
    s.moveOf id = 0 := by
  rw [moveOf, Board.get?_eq_none_iff.mpr absent]
  rfl

namespace Track

/-- A check leads to the stage that is reached, but never back. -/
theorem Changed.move_of_byHealth {now : Ticks} {track track' : Track}
    (changed : Changed now track track') (alive : track.gremlin.isAlive = true)
    (byHealth : track.gremlin.template.pattern = .byHealth)
    (stages : track.gremlin.template.thresholds.length = track.gremlin.template.moves.length) :
    track'.gremlin.move = max track.gremlin.move track.gremlin.stageReached := by
  obtain ⟨generator, same⟩ := changed.move_eq alive
  rw [same, Instance.nextMove_of_byHealth byHealth stages]
  by_cases behind : track.gremlin.move < track.gremlin.stageReached
  · rw [if_pos behind, Option.getD_some, Nat.max_eq_right (Nat.le_of_lt behind)]
  · rw [if_neg behind, Option.getD_none, Nat.max_eq_left (Nat.le_of_not_lt behind)]

end Track

section Sound

variable {bestiary : Bestiary} (sound : ∀ template ∈ bestiary.templates, template.Sound)
  (staged : ∀ template ∈ bestiary.templates, template.pattern = .byHealth →
    template.thresholds.length = template.moves.length) {s s' : Encounter}

include sound staged

/-- A check puts a gremlin into the furthest stage it has reached. -/
theorem Check.move_of_byHealth (standing : Standing bestiary s) {id : InstanceId}
    {here there : Encounter} (check : s.Check id here there) {gremlin : Instance}
    (found : here.board.get? id = some gremlin) (byHealth : gremlin.template.pattern = .byHealth) :
    ∃ gremlin', there.board.get? id = some gremlin' ∧
      gremlin'.move = max gremlin.move gremlin.stageReached := by
  obtain ⟨held, fired, before, after, holds, fires, order, reached⟩ := check.turn
  have readied := readied (begun_orderly standing.orderly) holds fires
  have distinct : (before ++ id :: after).Nodup := order ▸ readied.orderly.numbered.distinct
  have waiting : id ∉ before := fun early =>
    (List.nodup_append.mp distinct).2.2 id early id List.mem_cons_self rfl
  have earlier := foldlM_phase changeMove_phase readied.orderly (List.nodup_append.mp distinct).1
    (fun other member => order ▸ List.mem_append_left _ member) reached
  obtain ⟨early, present⟩ := Board.mem_ids_iff.mp
    (order ▸ List.mem_append_right _ List.mem_cons_self : id ∈ fired.board.ids)
  have same := earlier.kept id waiting _ (track?_of_get? present)
  rw [track?_of_get? found] at same
  have same : gremlin.bare = early.bare := congrArg Track.gremlin (Option.some.inj same)
  have fit : gremlin.bare.Fit bestiary :=
    same ▸ standing.readied_fit sound readied (track?_of_get? present)
  obtain ⟨track', turned, changed⟩ := (changeMove_phase earlier.orderly check.changes).taken id
    List.mem_cons_self _ (track?_of_get? found)
  obtain ⟨gremlin', final, rfl⟩ := get?_of_track? turned
  exact ⟨gremlin', final, changed.move_of_byHealth (Instance.isAlive_iff.mpr fit.health.positive)
    byHealth (staged _ fit.known byHealth)⟩

omit sound staged in
/-- Nobody changes its move before the last phase of a tick. -/
theorem Standing.moveOf_readied {fired : Encounter} (standing : Standing bestiary s)
    (readied : Readied s.begun fired) {id : InstanceId} {gremlin : Instance}
    (found : fired.board.get? id = some gremlin) : s.moveOf id = gremlin.move := by
  have ready := track?_of_get? found
  cases before : s.track? id with
  | some old =>
    obtain ⟨early, there, rfl⟩ := get?_of_track? before
    have aged := readied.aged id _ ((s.begun_track? id).trans before)
    rw [ready] at aged
    have alive := Instance.isAlive_iff.mpr (standing.fit id _ before).health.positive
    have same : gremlin.move = early.move :=
      (congrArg (·.gremlin.move) (Option.some.inj aged)).trans
        (Track.ticked alive s.begun.now).move
    rw [moveOf_of_get? there, same]
  | none =>
    obtain ⟨_, born⟩ := readied.joined id _ ((s.begun_track? id).trans before) ready
    rw [moveOf_of_absent (track?_eq_none_iff.mp before)]
    exact born.move_eq.symm

/-- After an operation a gremlin is in the furthest of its former move and of the stage that it has
reached at a check, if the operation checks it. -/
theorem Reachable.moveOf_step (reachable : Reachable bestiary s) {operation : Operation}
    (success : operation.run s = .ok s') {id : InstanceId} {gremlin' : Instance}
    (found : s'.board.get? id = some gremlin') (byHealth : gremlin'.template.pattern = .byHealth) :
    gremlin'.move = (operation.stageChecked id s s').foldl max (s.moveOf id) := by
  have standing := reachable.standing sound
  have after := track?_of_get? found
  have absent : s.board.next ≤ id.value → s.moveOf id = 0 := fun fresh =>
    moveOf_of_absent (track?_eq_none_iff.mp (standing.orderly.track?_of_le fresh))
  by_cases tick : operation = .advance
  · subst tick
    obtain ⟨held, fired, changed, stations⟩ := advance_stations standing.orderly
      (standing.known ▸ sound) standing.living success
    have readied := readied (begun_orderly standing.orderly) stations.holds stations.fires
    have turned := runTransitions_phase readied.orderly stations.changes
    have checks : s.checked = fired.board.ids := by
      rw [checked, stations.holds, show Except.ok held >>= fireMoves = held.fireMoves from rfl,
        stations.fires]
    rw [stations.track?_eq] at after
    rw [Operation.stageChecked, checks, found]
    by_cases member : id ∈ fired.board.ids
    · obtain ⟨early, present⟩ := Board.mem_ids_iff.mp member
      have ready := track?_of_get? present
      obtain ⟨track', final, change⟩ := turned.taken id member _ ready
      rw [after] at final
      cases final
      have fit := standing.readied_fit sound readied ready
      have alive := Instance.isAlive_iff.mpr fit.health.positive
      have template : gremlin'.template = early.template := change.template
      have stage : gremlin'.stageReached = early.stageReached :=
        congrArg₂ Template.stageAt template change.health
      have moved : gremlin'.move = max early.move early.stageReached :=
        change.move_of_byHealth alive (template ▸ byHealth)
          (staged _ fit.known (template ▸ byHealth))
      rw [if_pos member, Option.map_some, Option.toList_some, List.foldl_cons, List.foldl_nil,
        standing.moveOf_readied readied present, stage, moved]
    · obtain ⟨fresh, born⟩ := turned.joined id _ (track?_eq_none_iff.mpr member) after
      have newborn : gremlin'.move = 0 := born.move_eq
      rw [if_neg member, List.foldl_nil, absent (Nat.le_trans readied.next fresh), newborn]
  · have nothing : operation.stageChecked id s s' = [] := by
      cases operation <;> first | rfl | exact absurd rfl tick
    rw [nothing, List.foldl_nil]
    have struck := operation.struck standing.orderly standing.living tick success
    rcases struck.origin after with ⟨track, before, handled⟩ | ⟨fresh, born, newborn, handled⟩
    · obtain ⟨gremlin, there, rfl⟩ := get?_of_track? before
      rw [moveOf_of_get? there]
      exact handled.move_eq
    · rw [absent fresh]
      exact handled.move_eq.trans newborn.move_eq

/-- A gremlin is in the furthest stage that it has reached at any of its checks. -/
theorem Reachable.moveOf_run (reachable : Reachable bestiary s) {operations : List Operation}
    (success : Operation.runAll s operations = .ok s') {id : InstanceId} {gremlin : Instance}
    (found : s'.board.get? id = some gremlin) (byHealth : gremlin.template.pattern = .byHealth) :
    gremlin.move = (stagesReached id s operations).foldl max (s.moveOf id) := by
  induction operations generalizing s with
  | nil =>
    cases success
    exact (moveOf_of_get? found).symm
  | cons operation rest ih =>
    rw [Operation.runAll, List.foldlM_cons, bind_eq_ok] at success
    obtain ⟨middle, ran, success⟩ := success
    have between := reachable.step operation ran
    have later : Later middle s' := later_of_runAll success
    rw [stagesReached, ran]
    dsimp only
    rw [List.foldl_append, ih between success]
    congr 1
    by_cases there : id ∈ middle.board.ids
    · obtain ⟨early, present⟩ := Board.mem_ids_iff.mp there
      have template := (between.onward_later sound staged present later).1 gremlin found
      rw [moveOf_of_get? present]
      exact reachable.moveOf_step sound staged ran present (template ▸ byHealth)
    · -- nobody comes back, so the gremlin is yet to come
      have fresh : id ∉ s.board.ids := by
        intro old
        have used := (reachable.standing sound).orderly.numbered.below id old
        have grown := (reachable.not_mem_of_step sound ran).1
        exact (between.not_mem_of_later sound later).2 id (Nat.lt_of_lt_of_le used grown) there
          (Board.mem_ids_iff.mpr ⟨gremlin, found⟩)
      have nothing : operation.stageChecked id s middle = [] := by
        cases operation <;> first
          | rfl
          | rw [Operation.stageChecked, Board.get?_eq_none_iff.mpr there, Option.map_none,
              Option.toList_none, ite_self]
      rw [nothing, moveOf_of_absent there, moveOf_of_absent fresh, List.foldl_nil]

end Sound

theorem enteredMoves_eq_indices {s : Encounter} {gremlin : Instance} {track : Track}
    (turns : track.turns = s.turns gremlin.id) : s.enteredMoves gremlin = track.indices := by
  rw [Track.indices, turns]
  rfl

/-- A gremlin with a single move never enters another; one of a sequence or of a pattern by health
enters later and later moves, even to its death. By health, each check puts it into the furthest of
its move and of the stage its health has reached, so that its move is the furthest stage that it
has reached at any of its checks, whatever happens in between. -/
theorem moves_never_revert {records : List Record} {s : Encounter}
    (reachable : Reachable (Bestiary.load records).1 s) :
    (∀ gremlin ∈ s.board.gremlins, ∀ s', Later s s' →
      (gremlin.template.pattern = .single → s'.enteredMoves gremlin = []) ∧
      (gremlin.template.pattern = .sequence ∨ gremlin.template.pattern = .byHealth →
        (s'.enteredMoves gremlin).Pairwise (· < ·) ∧
        ∀ index ∈ s'.enteredMoves gremlin, 1 ≤ index ∧ index < gremlin.template.moves.length)) ∧
    (∀ id here there, s.Check id here there → ∀ gremlin, here.board.get? id = some gremlin →
      gremlin.template.pattern = .byHealth →
      ∃ gremlin', there.board.get? id = some gremlin' ∧
        gremlin'.move = max gremlin.move gremlin.stageReached) ∧
    ∀ operations s', Operation.runAll s operations = .ok s' → ∀ id gremlin,
      s'.board.get? id = some gremlin → gremlin.template.pattern = .byHealth →
      gremlin.move = (stagesReached id s operations).foldl max (s.moveOf id) := by
  have sound : ∀ template ∈ (Bestiary.load records).1.templates, template.Sound :=
    fun _ member => Bestiary.sound_of_mem_load member
  have staged : ∀ template ∈ (Bestiary.load records).1.templates, template.pattern = .byHealth →
      template.thresholds.length = template.moves.length :=
    fun _ member => Bestiary.thresholds_length_of_mem_load member
  have standing := reachable.standing sound
  refine ⟨?_, ?_, ?_⟩
  · intro gremlin present s' later
    have found := Board.get?_of_mem standing.orderly.numbered.distinct present
    obtain ⟨_, track, onward, template, turns⟩ :=
      reachable.onward_later sound staged found later
    rw [enteredMoves_eq_indices turns, ← template]
    refine ⟨onward.holds, fun rising => ?_⟩
    have climbs := onward.climbs rising
    obtain ⟨positive, rises⟩ := List.pairwise_cons.mp climbs.rises
    exact ⟨rises, fun index member => ⟨positive index member, climbs.inside index member⟩⟩
  · intro id here there check gremlin found byHealth
    exact check.move_of_byHealth sound staged standing found byHealth
  · intro operations s' success id gremlin found byHealth
    exact reachable.moveOf_run sound staged success found byHealth

/-- A gremlin that goes over to its second move at half its health. -/
def husk : Record where
  templateId := "husk"
  sizeCategory := "small"
  maxHealth := 8
  moves := "ticks=2,drain_heat=1|ticks=1,drain_heat=2"
  movePattern := "hp_based"
  moveTransitions := "0>1:at_50_percent_hp"

/-- A feedback loop enters its second and its third move, and a husk stays in the furthest stage
that it reaches, whatever is done to it. -/
theorem moves_never_revert_loop :
    (∃ s gremlin, Operation.runAll
        (new (Bestiary.load (Catalog.medium.filter (·.templateId = "feedback_loop"))).1 7)
        (.spawn "feedback_loop" :: List.replicate 12 .advance) = .ok s ∧
      gremlin ∈ s.board.gremlins ∧ gremlin.template.pattern = .sequence ∧
      s.enteredMoves gremlin = [1, 2] ∧ (s.enteredMoves gremlin).Pairwise (· < ·) ∧
      ∀ index ∈ s.enteredMoves gremlin, 1 ≤ index ∧ index < gremlin.template.moves.length) ∧
    ∃ s gremlin, Operation.runAll (new (Bestiary.load [husk]).1 7) [.spawn "husk"] = .ok s ∧
      s.board.get? ⟨0⟩ = some gremlin ∧ gremlin.template.pattern = .byHealth ∧
      ∀ operations s', Operation.runAll s operations = .ok s' →
        ∀ gremlin', s'.board.get? ⟨0⟩ = some gremlin' → gremlin'.template.pattern = .byHealth →
        gremlin'.move = (stagesReached ⟨0⟩ s operations).foldl max gremlin.move := by
  constructor
  · have ran : ((Operation.runAll
        (new (Bestiary.load (Catalog.medium.filter (·.templateId = "feedback_loop"))).1 7)
        (.spawn "feedback_loop" :: List.replicate 12 .advance)).toOption.map fun s =>
          (s.board.get? ⟨0⟩).map fun g => (g.template.pattern, s.enteredMoves g)) =
        some (some (.sequence, [1, 2])) := by
      decide +kernel
    obtain ⟨s, success, shown⟩ := toOption_map_eq_some.mp ran
    obtain ⟨gremlin, found, facts⟩ := Option.map_eq_some_iff.mp shown
    obtain ⟨sequence, entered⟩ := Prod.mk.inj facts
    have present := Board.mem_of_get? found
    obtain ⟨rises, inside⟩ := ((moves_never_revert ((Reachable.fresh 7).runAll success)).1 gremlin
      present s .refl).2 (.inl sequence)
    exact ⟨s, gremlin, success, present, sequence, entered, rises, inside⟩
  · have ran : ((Operation.runAll (new (Bestiary.load [husk]).1 7)
        [.spawn "husk"]).toOption.map fun s =>
          (s.board.get? ⟨0⟩).map (·.template.pattern)) = some (some .byHealth) := by
      decide +kernel
    obtain ⟨s, success, shown⟩ := toOption_map_eq_some.mp ran
    obtain ⟨gremlin, found, byHealth⟩ := Option.map_eq_some_iff.mp shown
    refine ⟨s, gremlin, success, found, byHealth, fun operations s' later gremlin' stays still => ?_⟩
    rw [← moveOf_of_get? found]
    exact (moves_never_revert ((Reachable.fresh 7).runAll success)).2.2 operations s' later ⟨0⟩
      gremlin' stays still

end Encounter

end Gremlin
