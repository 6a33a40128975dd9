import Gremlin.Proofs.Encounter.Phases
import Gremlin.Proofs.Schedule

set_option autoImplicit false

/-!
The three turns a gremlin has in a tick, as functions and a relation on its track: it holds its
move, it fires if that is due, and it changes its move if that is due. Each call of a phase gives
one gremlin its turn, whatever happens to everyone else by it.
-/

namespace Gremlin

open Gremlin.Random (Generator)

namespace Instance

/-- What does not look at a gremlin's shields stays as it is. -/
theorem regenerate_view {β : Type} (view : Instance → β) (gremlin : Instance)
    (blind : ∀ shields, view { gremlin with shields } = view gremlin) :
    view gremlin.regenerate = view gremlin := by
  unfold regenerate
  dsimp only
  split
  · exact blind _
  · rfl

/-- The choice of a next move does not look at what effects change on a gremlin. -/
theorem nextMove_bare (gremlin : Instance) (generator : Generator) :
    gremlin.bare.nextMove generator =
      ((gremlin.nextMove generator).1, (gremlin.nextMove generator).2.1.bare,
        (gremlin.nextMove generator).2.2) := by
  have template : gremlin.bare.template = gremlin.template := rfl
  unfold nextMove
  dsimp only
  rw [template]
  by_cases none : gremlin.template.moves.length = 0
  · rw [if_pos none, if_pos none]
  · rw [if_neg none, if_neg none]
    cases gremlin.template.pattern with
    | single | sequence | cycle | byHealth => rfl
    | random =>
      have complete : gremlin.bare.moveIsComplete = gremlin.moveIsComplete := rfl
      have explicit : gremlin.bare.explicitNext? = gremlin.explicitNext? := rfl
      dsimp only
      rw [complete, explicit]
      cases gremlin.moveIsComplete with
      | false => rfl
      | true => cases gremlin.explicitNext? <;> rfl
    | adaptive =>
      dsimp only
      cases gremlin.template.adaptive with
      | none => rfl
      | some table =>
        have due : gremlin.bare.checkIsDue table = gremlin.checkIsDue table := rfl
        dsimp only
        rw [due]
        cases gremlin.checkIsDue table <;> rfl

end Instance

namespace Encounter

namespace Track

/-- A live gremlin whose move is passive counts a trigger. -/
def hold (track : Track) : Track :=
  if track.gremlin.isAlive && track.gremlin.passiveMove?.isSome then
    { track with gremlin := track.gremlin.countTrigger }
  else track

/-- A live gremlin grows older; if its move fires at the new age, that is counted and written into
the journal. -/
def fire (now : Ticks) (track : Track) : Track :=
  if track.gremlin.isAlive then
    if track.gremlin.age.fires then
      ⟨track.gremlin.age.countTrigger,
        track.turns ++ [⟨now, .moveFired track.gremlin.id track.gremlin.move⟩]⟩
    else { track with gremlin := track.gremlin.age }
  else track

/-- A live gremlin changes its move if that is due, with whatever random draws. -/
inductive Changed (now : Ticks) : Track → Track → Prop
  | lifeless (track : Track) (lifeless : track.gremlin.isAlive = false) : Changed now track track
  | stays (track : Track) (generator : Generator) (alive : track.gremlin.isAlive = true)
      (next : (track.gremlin.nextMove generator).1 = none) :
      Changed now track { track with gremlin := (track.gremlin.nextMove generator).2.1 }
  | enters (track : Track) (generator : Generator) (index : Nat)
      (alive : track.gremlin.isAlive = true)
      (next : (track.gremlin.nextMove generator).1 = some index) :
      Changed now track
        ⟨(track.gremlin.nextMove generator).2.1.enterMove index,
          track.turns ++ [⟨now, .moveEntered track.gremlin.id index⟩]⟩

end Track

/-- What is left alone where one gremlin alone has its turn. -/
structure Touched (id : InstanceId) (s s' : Encounter) : Prop where
  clock : s'.clock = s.clock
  bestiary : s'.bestiary = s.bestiary
  ids : s'.board.ids = s.board.ids
  next : s'.board.next = s.board.next
  bare : ∀ other, other ≠ id →
    (s'.board.get? other).map Instance.bare = (s.board.get? other).map Instance.bare
  turns : ∀ other, other ≠ id → s'.turns other = s.turns other
  caps : s.CapsSound → s'.CapsSound

theorem Undisturbed.touched {s s' : Encounter} (same : Undisturbed s s') (id : InstanceId) :
    Touched id s s' :=
  ⟨same.clock, same.bestiary, same.ids, same.next, fun other _ => same.bare other,
    fun other _ => same.turns other, same.caps⟩

namespace Touched

variable {id : InstanceId}

theorem trans {s s' s'' : Encounter} (first : Touched id s s') (second : Touched id s' s'') :
    Touched id s s'' where
  clock := second.clock.trans first.clock
  bestiary := second.bestiary.trans first.bestiary
  ids := second.ids.trans first.ids
  next := second.next.trans first.next
  bare := fun other apart => (second.bare other apart).trans (first.bare other apart)
  turns := fun other apart => (second.turns other apart).trans (first.turns other apart)
  caps := fun sound => second.caps (first.caps sound)

theorem modify (change : Instance → Instance)
    (keeps : ∀ gremlin, gremlin.id = id → (change gremlin).id = id)
    {s : Encounter} {gremlin : Instance} (found : s.board.get? id = some gremlin)
    (caps : (change gremlin).installedCaps = gremlin.installedCaps) :
    Touched id s (s.modify id change) := by
  refine ⟨rfl, rfl, Board.ids_modify keeps, rfl, ?_, fun _ _ => rfl, ?_⟩
  · intro other apart
    change ((s.board.modify id change).get? other).map _ = _
    rw [Board.get?_modify_other apart keeps]
  · intro sound other changed present
    change (s.board.modify id change).get? other = some changed at present
    by_cases same : other = id
    · subst same
      rw [Board.get?_modify_same keeps, found] at present
      cases present
      exact (sound other gremlin found).of_eq caps
    · rw [Board.get?_modify_other same keeps] at present
      exact sound other changed present

theorem record (event : Event) (own : event.mover? = some id) (s : Encounter) :
    Touched id s (s.record event) := by
  refine ⟨rfl, rfl, rfl, rfl, fun _ _ => rfl, ?_, fun sound => sound⟩
  intro other apart
  rw [turns_record, own, if_neg, List.append_nil]
  intro same
  cases same
  exact apart rfl

end Touched

theorem get?_modify {s : Encounter} {id : InstanceId} (change : Instance → Instance)
    (keeps : ∀ gremlin, gremlin.id = id → (change gremlin).id = id) {gremlin : Instance}
    (found : s.board.get? id = some gremlin) :
    (s.modify id change).board.get? id = some (change gremlin) := by
  change (s.board.modify id change).get? id = _
  rw [Board.get?_modify_same keeps, found, Option.map_some]

theorem Undisturbed.track?_eq {s s' : Encounter} (same : Undisturbed s s') (id : InstanceId) :
    s'.track? id = s.track? id :=
  track?_congr (same.bare id) (same.turns id)

/-- A call that touches one gremlin alone gives that gremlin its turn. -/
theorem Touched.phase {turn : Ticks → Track → Track → Prop} {s s' : Encounter} {id : InstanceId}
    (touched : Touched id s s') (orderly : Orderly s)
    (turned : ∀ track, s.track? id = some track →
      ∃ track', s'.track? id = some track' ∧ turn s.now track track')
    (quiet : id ∉ s.board.ids → s'.turns id = s.turns id) : Phase turn [id] s s' := by
  have others : ∀ other, other ≠ id → s'.track? other = s.track? other := fun other apart =>
    track?_congr (touched.bare other apart) (touched.turns other apart)
  refine ⟨touched.clock, touched.bestiary, Nat.le_of_eq touched.next.symm, ⟨?_, ?_⟩, ?_, ?_, ?_,
    touched.caps⟩
  · exact orderly.numbered.of_ids_eq touched.ids (Nat.le_of_eq touched.next.symm)
  · intro other fresh
    rw [touched.next] at fresh
    by_cases same : other = id
    · subst same
      have absent : other ∉ s.board.ids := fun member =>
        Nat.not_lt.mpr fresh (orderly.numbered.below other member)
      rw [quiet absent]
      exact orderly.silent other fresh
    · rw [touched.turns other same]
      exact orderly.silent other fresh
  · intro other single track found
    rw [List.mem_singleton] at single
    subst single
    exact turned track found
  · intro other outside track found
    rw [List.mem_singleton] at outside
    rw [others other outside]
    exact found
  · intro other track absent found
    by_cases same : other = id
    · subst same
      rw [track?_eq_none_iff] at absent
      exact absurd (touched.ids ▸ mem_ids_of_track? found) absent
    · rw [others other same, absent] at found
      cases found

theorem Touched.phase_of_get? {turn : Ticks → Track → Track → Prop} {s s' : Encounter}
    {id : InstanceId} (touched : Touched id s s') (orderly : Orderly s) {gremlin : Instance}
    (found : s.board.get? id = some gremlin) {track : Track} (after : s'.track? id = some track)
    (turned : turn s.now ⟨gremlin.bare, s.turns id⟩ track) : Phase turn [id] s s' := by
  have present : id ∈ s.board.ids := Board.mem_ids_iff.mpr ⟨gremlin, found⟩
  refine touched.phase orderly ?_ fun absent => absurd present absent
  intro before old
  rw [track?_of_get? found] at old
  cases old
  exact ⟨track, after, turned⟩

/-! ### Each call of a phase gives one gremlin its turn -/

theorem ifAlive_eq_ok {s s' : Encounter} {id : InstanceId}
    {act : Instance → Except EncounterError Encounter} (success : s.ifAlive id act = .ok s') :
    (∃ gremlin, s.board.get? id = some gremlin ∧ gremlin.isAlive = true ∧ act gremlin = .ok s') ∨
      (s' = s ∧ ∀ track, s.track? id = some track → track.gremlin.isAlive = false) := by
  unfold ifAlive at success
  split at success
  · rename_i gremlin found
    by_cases alive : gremlin.isAlive = true
    · rw [if_pos alive] at success
      exact .inl ⟨gremlin, found, alive, success⟩
    · rw [if_neg alive] at success
      cases success
      refine .inr ⟨rfl, fun track present => ?_⟩
      rw [track?_of_get? found] at present
      cases present
      exact Bool.eq_false_iff.mpr alive
  · rename_i absent
    cases success
    refine .inr ⟨rfl, fun track present => ?_⟩
    rw [track?, absent] at present
    cases present

/-- The ways a gremlin can hold its move: not if it is lifeless; otherwise it regenerates, and if the
move is passive it counts a trigger and does what the move goes on doing. -/
inductive HoldsMove (s : Encounter) (id : InstanceId) : Encounter → Prop
  | lifeless (still : ∀ track, s.track? id = some track → track.gremlin.isAlive = false) :
      HoldsMove s id s
  | active (gremlin : Instance) (found : s.board.get? id = some gremlin)
      (alive : gremlin.isAlive = true) (active : gremlin.passiveMove? = none) :
      HoldsMove s id (s.modify id (·.regenerate))
  | passive (gremlin : Instance) (move : Move) (s' : Encounter)
      (found : s.board.get? id = some gremlin) (alive : gremlin.isAlive = true)
      (passive : gremlin.passiveMove? = some move)
      (done : ((s.modify id (·.regenerate)).modify id (·.countTrigger)).applyEffects (some id)
        .passive (move.effects.filter (·.isContinuous)) = .ok s') : HoldsMove s id s'

/-- The ways a gremlin can fire: not if it is lifeless; otherwise it grows older, and if its move is
due it counts and logs that and does what the move does. -/
inductive FiresMove (s : Encounter) (id : InstanceId) : Encounter → Prop
  | lifeless (still : ∀ track, s.track? id = some track → track.gremlin.isAlive = false) :
      FiresMove s id s
  | waits (gremlin : Instance) (found : s.board.get? id = some gremlin)
      (alive : gremlin.isAlive = true) (waits : gremlin.age.fires = false) :
      FiresMove s id (s.modify id (·.age))
  | fires (gremlin : Instance) (move : Move) (s' : Encounter)
      (found : s.board.get? id = some gremlin) (alive : gremlin.isAlive = true)
      (current : gremlin.currentMove? = some move) (due : gremlin.age.fires = true)
      (done : (((s.modify id (·.age)).modify id (·.countTrigger)).record
        (.moveFired id gremlin.move)).applyEffects (some id) (.ticks move.interval) move.effects =
          .ok s') : FiresMove s id s'

/-- The ways a gremlin can enter a move: it drops its passive overlays, and if it is there it logs
the entry and does what the move does on being entered. -/
inductive EntersMove (s : Encounter) (id : InstanceId) (index : Nat) : Encounter → Prop
  | absent (absent : s.board.get? id = none) : EntersMove s id index (s.releasePassive id)
  | enters (gremlin : Instance) (s' : Encounter) (found : s.board.get? id = some gremlin)
      (done : enterPassive s.nesting id (((s.releasePassive id).modify id
        (·.enterMove index)).record (.moveEntered id index)) = .ok s') : EntersMove s id index s'

/-- The ways a gremlin can change its move: not if it is lifeless; otherwise it decides, and enters
the move it decides on. -/
inductive ChangesMove (s : Encounter) (id : InstanceId) : Encounter → Prop
  | lifeless (still : ∀ track, s.track? id = some track → track.gremlin.isAlive = false) :
      ChangesMove s id s
  | stays (gremlin : Instance) (found : s.board.get? id = some gremlin)
      (alive : gremlin.isAlive = true) (next : (gremlin.nextMove s.generator).1 = none) :
      ChangesMove s id { s.modify id (fun _ => (gremlin.nextMove s.generator).2.1) with
        generator := (gremlin.nextMove s.generator).2.2 }
  | enters (gremlin : Instance) (index : Nat) (s' : Encounter)
      (found : s.board.get? id = some gremlin) (alive : gremlin.isAlive = true)
      (next : (gremlin.nextMove s.generator).1 = some index)
      (done : ({ s.modify id (fun _ => (gremlin.nextMove s.generator).2.1) with
        generator := (gremlin.nextMove s.generator).2.2 } : Encounter).enterMove id index =
          .ok s') : ChangesMove s id s'

section Ways

variable {s s' : Encounter} {id : InstanceId}

theorem holdMove_holdsMove (success : s.holdMove id = .ok s') : HoldsMove s id s' := by
  rcases ifAlive_eq_ok success with ⟨gremlin, found, alive, acted⟩ | ⟨rfl, still⟩
  · dsimp only at acted
    split at acted
    · rename_i move passive
      exact .passive gremlin move s' found alive passive acted
    · rename_i active
      cases acted
      exact .active gremlin found alive active
  · exact .lifeless still

theorem fireMove_firesMove (success : s.fireMove id = .ok s') : FiresMove s id s' := by
  rcases ifAlive_eq_ok success with ⟨gremlin, found, alive, acted⟩ | ⟨rfl, still⟩
  · dsimp only at acted
    split at acted
    · rename_i move current
      split at acted
      · rename_i due
        exact .fires gremlin move s' found alive current due acted
      · rename_i waits
        cases acted
        exact .waits gremlin found alive (Bool.eq_false_iff.mpr waits)
    · rename_i moveless
      cases acted
      have current : gremlin.age.currentMove? = none := moveless
      exact .waits gremlin found alive (by rw [Instance.fires, current])
  · exact .lifeless still

theorem enterMove_entersMove {index : Nat} (success : s.enterMove id index = .ok s') :
    EntersMove s id index s' := by
  unfold enterMove at success
  dsimp only at success
  split at success
  · rename_i gremlin found
    exact .enters gremlin s' found success
  · rename_i absent
    cases success
    exact .absent absent

theorem changeMove_changesMove (success : s.changeMove id = .ok s') : ChangesMove s id s' := by
  rcases ifAlive_eq_ok success with ⟨gremlin, found, alive, acted⟩ | ⟨rfl, still⟩
  · dsimp only at acted
    split at acted
    · rename_i index next
      exact .enters gremlin index s' found alive next acted
    · rename_i next
      cases acted
      exact .stays gremlin found alive next
  · exact .lifeless still

/-- Deciding on a move leaves a gremlin who it is. -/
theorem nextMove_id {gremlin : Instance} (found : s.board.get? id = some gremlin)
    (generator : Generator) : (gremlin.nextMove generator).2.1.id = id :=
  (gremlin.nextMove_view (·.id) generator fun _ => rfl).trans (Board.id_of_get? found)

end Ways

/-- A turn in which nothing happens. -/
theorem Phase.of_still {turn : Ticks → Track → Track → Prop} {s : Encounter} {id : InstanceId}
    (orderly : Orderly s) (still : ∀ track, s.track? id = some track → turn s.now track track) :
    Phase turn [id] s s := by
  refine ((Undisturbed.refl s).touched id).phase orderly ?_ fun _ => rfl
  intro track found
  exact ⟨track, found, still track found⟩

theorem regenerate_undisturbed (s : Encounter) (id : InstanceId) :
    Undisturbed s (s.modify id (·.regenerate)) := by
  refine .modify (fun gremlin => gremlin.regenerate_view Instance.bare fun _ => rfl) ?_ s id
  intro gremlin sound
  exact sound.of_eq (gremlin.regenerate_view (·.installedCaps) fun _ => rfl)

theorem regenerate_id (gremlin : Instance) : gremlin.regenerate.id = gremlin.id :=
  gremlin.regenerate_view (·.id) fun _ => rfl

theorem regenerate_template (gremlin : Instance) :
    gremlin.regenerate.template = gremlin.template :=
  gremlin.regenerate_view (·.template) fun _ => rfl

/-- Holding a move touches nobody else, and brings nobody onto the board. -/
theorem holdMove_touched {s s' : Encounter} {id : InstanceId} (success : s.holdMove id = .ok s') :
    Touched id s s' ∧ (∀ track, s.track? id = some track → s'.track? id = some track.hold) ∧
      s'.turns id = s.turns id := by
  have regenerated := regenerate_undisturbed s id
  cases holdMove_holdsMove success with
  | lifeless still =>
    refine ⟨(Undisturbed.refl s).touched id, ?_, rfl⟩
    intro track found
    rw [Track.hold, still track found, Bool.false_and, if_neg Bool.false_ne_true]
    exact found
  | active gremlin found alive active =>
    refine ⟨regenerated.touched id, ?_, rfl⟩
    intro track old
    rw [regenerated.track?_eq, old]
    rw [track?_of_get? found] at old
    cases old
    have idle : gremlin.bare.passiveMove? = none := active
    rw [Track.hold, idle, Option.isSome_none, Bool.and_false, if_neg Bool.false_ne_true]
  | passive gremlin move _ found alive passive done =>
    have present := get?_modify (·.regenerate) (fun gremlin => (regenerate_id gremlin).trans) found
    have counted := Touched.modify (·.countTrigger) (fun _ named => named) present rfl
    have deeds := (continuous_deeds (fun effect member => (List.mem_filter.mp member).2)
      done).undisturbed
    refine ⟨((regenerated.touched id).trans counted).trans (deeds.touched id), ?_, ?_⟩
    · intro track old
      rw [track?_of_get? found] at old
      cases old
      rw [deeds.track?_eq, track?_of_get? (get?_modify (·.countTrigger) (fun _ named => named) present)]
      have bare : gremlin.regenerate.bare = gremlin.bare :=
        gremlin.regenerate_view Instance.bare fun _ => rfl
      have counts : gremlin.bare.isAlive && gremlin.bare.passiveMove?.isSome :=
        Bool.and_eq_true_iff.mpr ⟨alive, Option.isSome_iff_exists.mpr ⟨move, passive⟩⟩
      rw [Track.hold, if_pos counts, ← bare]
      rfl
    · rw [deeds.turns]
      rfl

theorem holdMove_phase {s s' : Encounter} {id : InstanceId} (orderly : Orderly s)
    (success : s.holdMove id = .ok s') : Phase (fun _ track track' => track' = track.hold) [id] s s' := by
  obtain ⟨touched, held, quiet⟩ := holdMove_touched success
  exact touched.phase orderly (fun track found => ⟨_, held track found, rfl⟩) fun _ => quiet

theorem fireMove_phase {s s' : Encounter} {id : InstanceId} (orderly : Orderly s)
    (success : s.fireMove id = .ok s') :
    Phase (fun now track track' => track' = track.fire now) [id] s s' := by
  cases fireMove_firesMove success with
  | lifeless still =>
    refine .of_still orderly fun track found => ?_
    rw [Track.fire, still track found, if_neg Bool.false_ne_true]
  | waits gremlin found alive waits =>
    have aged := Touched.modify (·.age) (fun _ named => named) found rfl
    have older := get?_modify (·.age) (fun _ named => named) found
    refine aged.phase_of_get? orderly found (track?_of_get? older) ?_
    have living : gremlin.bare.isAlive = true := alive
    have still : gremlin.bare.age.fires = false := waits
    rw [Track.fire, if_pos living, still, if_neg Bool.false_ne_true]
    rfl
  | fires gremlin move _ found alive current due done =>
    have aged := Touched.modify (·.age) (fun _ named => named) found rfl
    have older := get?_modify (·.age) (fun _ named => named) found
    have counted := Touched.modify (·.countTrigger) (fun _ named => named) older rfl
    have counts := get?_modify (·.countTrigger) (fun _ named => named) older
    have fired := (aged.trans counted).trans (Touched.record (.moveFired id gremlin.move) rfl _)
    have turned : Phase (fun now track track' => track' = track.fire now) [id] s
        (((s.modify id (·.age)).modify id (·.countTrigger)).record
          (.moveFired id gremlin.move)) := by
      refine fired.phase_of_get? orderly found (track?_of_get? counts) ?_
      have living : gremlin.bare.isAlive = true := alive
      have ready : gremlin.bare.age.fires = true := due
      have named : gremlin.bare.id = id := (Board.id_of_get? found : gremlin.id = id)
      rw [Track.fire, if_pos living, if_pos ready, turns_record, named]
      simp only [Event.mover?, ↓reduceIte]
      rfl
    exact turned.trans ((applyEffects_effected done).phase turned.orderly) (by simp) (by simp)

theorem releasePassive_undisturbed (s : Encounter) (id : InstanceId) :
    Undisturbed s (s.releasePassive id) :=
  .of_board_eq rfl rfl rfl fun _ => rfl

/-- Entering a move touches nobody else; then the entry effects of a passive move are done. -/
theorem enterMove_touched {s s' : Encounter} {id : InstanceId} {index : Nat} {gremlin : Instance}
    (found : s.board.get? id = some gremlin) (success : s.enterMove id index = .ok s') :
    ∃ after, Touched id s after ∧ after.board.get? id = some (gremlin.enterMove index) ∧
      after.turns id = s.turns id ++ [⟨s.now, .moveEntered id index⟩] ∧ Effected after s' := by
  have stays : (s.releasePassive id).board.get? id = some gremlin := found
  rw [enterMove, stays] at success
  refine ⟨_, ?_, ?_, ?_, enterPassive_effected success⟩
  · exact (((s.releasePassive_undisturbed id).touched id).trans
      (Touched.modify (·.enterMove index) (fun _ named => named) stays rfl)).trans
        (Touched.record (.moveEntered id index) rfl _)
  · exact get?_modify (·.enterMove index) (fun _ named => named) stays
  · rw [turns_record]
    simp only [Event.mover?, ↓reduceIte]
    rfl

/-- Deciding touches nobody else, and leaves a gremlin's track to its decision. -/
theorem nextMove_touched {s : Encounter} {id : InstanceId} {gremlin : Instance}
    (found : s.board.get? id = some gremlin) :
    Touched id s { s.modify id (fun _ => (gremlin.nextMove s.generator).2.1) with
        generator := (gremlin.nextMove s.generator).2.2 } ∧
      ({ s.modify id (fun _ => (gremlin.nextMove s.generator).2.1) with
        generator := (gremlin.nextMove s.generator).2.2 } : Encounter).board.get? id =
        some (gremlin.nextMove s.generator).2.1 := by
  have keeps : ∀ other : Instance, other.id = id → (gremlin.nextMove s.generator).2.1.id = id :=
    fun _ _ => nextMove_id found s.generator
  have caps : (gremlin.nextMove s.generator).2.1.installedCaps = gremlin.installedCaps :=
    gremlin.nextMove_view (·.installedCaps) _ fun _ => rfl
  refine ⟨?_, get?_modify (fun _ => (gremlin.nextMove s.generator).2.1) keeps found⟩
  exact (Touched.modify (fun _ => (gremlin.nextMove s.generator).2.1) keeps found caps).trans
    ((Deed.draw _ (gremlin.nextMove s.generator).2.2).undisturbed.touched id)

theorem changeMove_phase {s s' : Encounter} {id : InstanceId} (orderly : Orderly s)
    (success : s.changeMove id = .ok s') : Phase Track.Changed [id] s s' := by
  cases changeMove_changesMove success with
  | lifeless still => exact .of_still orderly fun track found => .lifeless track (still track found)
  | stays gremlin found alive next =>
    obtain ⟨touched, decides⟩ := nextMove_touched found
    refine touched.phase_of_get? orderly found (track?_of_get? decides) ?_
    have bare := gremlin.nextMove_bare s.generator
    have stayed : Track.Changed s.now _ _ :=
      .stays ⟨gremlin.bare, s.turns id⟩ s.generator alive ((congrArg Prod.fst bare).trans next)
    rw [bare] at stayed
    exact stayed
  | enters gremlin index _ found alive next done =>
    obtain ⟨touched, decides⟩ := nextMove_touched found
    obtain ⟨inside, entered, enters, written, effects⟩ := enterMove_touched decides done
    have bare := gremlin.nextMove_bare s.generator
    have turned : Phase Track.Changed [id] s inside := by
      refine (touched.trans entered).phase_of_get? orderly found (track?_of_get? enters) ?_
      have entry : Track.Changed s.now _ _ := .enters ⟨gremlin.bare, s.turns id⟩ s.generator index
        alive ((congrArg Prod.fst bare).trans next)
      rw [bare] at entry
      have own : gremlin.bare.id = id := (Board.id_of_get? found : gremlin.id = id)
      rw [own] at entry
      rw [written]
      exact entry
    exact turned.trans (effects.phase turned.orderly) (by simp) (by simp)

end Encounter

end Gremlin
