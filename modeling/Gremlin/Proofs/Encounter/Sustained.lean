import Gremlin.Proofs.Encounter.Firings
import Gremlin.Proofs.Encounter.Timing

set_option autoImplicit false

/-!
A move that goes on firing keeps its overlays in force. Each firing renews them for as many ticks as
the next firing is away, and nothing but the end of a tick takes one of these ticks; so there is one
left whenever a tick ends.
-/

namespace Gremlin

namespace Encounter

/-- The active move that a live gremlin has fired and not entered anew since, and the tick of its
last firing. -/
def Track.fired? (track : Track) : Option (Move × Ticks) :=
  if track.gremlin.isAlive then
    (track.gremlin.currentMove?.filter (!·.isPassive)).bind fun move =>
      (track.turns.getLast?.filter (!·.event.isEntry)).map fun turn => (move, turn.now)
  else none

/-- The active move that a gremlin on the board has fired and not entered anew since, and the tick of
its last firing. -/
def fired? (s : Encounter) (id : InstanceId) : Option (Move × Ticks) :=
  (s.track? id).bind Track.fired?

section Fired

variable {s s' : Encounter} {id : InstanceId} {gremlin : Instance} {move : Move} {tick : Ticks}

theorem Track.fired?_eq_some_iff {track : Track} : track.fired? = some (move, tick) ↔
    track.gremlin.isAlive = true ∧ track.gremlin.currentMove? = some move ∧
      move.isPassive = false ∧
      ∃ event, track.turns.getLast? = some ⟨tick, event⟩ ∧ event.isEntry = false := by
  unfold fired?
  constructor
  · intro fires
    split at fires
    · rename_i alive
      obtain ⟨other, current, fires⟩ := Option.bind_eq_some_iff.mp fires
      obtain ⟨⟨now, event⟩, last, same⟩ := Option.map_eq_some_iff.mp fires
      cases same
      obtain ⟨current, active⟩ := Option.filter_eq_some_iff.mp current
      obtain ⟨last, firing⟩ := Option.filter_eq_some_iff.mp last
      exact ⟨alive, current, (Bool.not_eq_true' _).mp active, event, last,
        (Bool.not_eq_true' _).mp firing⟩
    · cases fires
  · rintro ⟨alive, current, active, event, last, firing⟩
    simp [alive, current, active, last, firing, Option.filter_some]

theorem fired?_of_get? (found : s.board.get? id = some gremlin) :
    s.fired? id = Track.fired? ⟨gremlin, s.turns id⟩ := by
  rw [fired?, track?_of_get? found]
  rfl

/-- Whoever has fired is on the board, alive, and in an active move. -/
theorem exists_of_fired? (fires : s.fired? id = some (move, tick)) :
    ∃ gremlin, s.board.get? id = some gremlin ∧ gremlin.isAlive = true ∧
      gremlin.currentMove? = some move ∧ move.isPassive = false := by
  obtain ⟨track, found, fires⟩ := Option.bind_eq_some_iff.mp fires
  obtain ⟨gremlin, present, rfl⟩ := get?_of_track? found
  obtain ⟨alive, current, active, _⟩ := Track.fired?_eq_some_iff.mp fires
  exact ⟨gremlin, present, alive, current, active⟩

theorem fired?_congr (same : s'.track? id = s.track? id) : s'.fired? id = s.fired? id := by
  rw [fired?, fired?, same]

theorem fired?_of_absent (absent : id ∉ s.board.ids) : s.fired? id = none := by
  rw [fired?, track?_eq_none_iff.mpr absent]
  rfl

theorem fired?_of_turns_nil (none : s.turns id = []) : s.fired? id = .none := by
  cases found : s.board.get? id with
  | none => exact fired?_of_absent (Board.get?_eq_none_iff.mp found)
  | some gremlin =>
    rw [fired?_of_get? found, none]
    cases fires : Track.fired? ⟨gremlin, []⟩ with
    | none => rfl
    | some pair =>
      obtain ⟨_, _, _, _, last, _⟩ := Track.fired?_eq_some_iff.mp fires
      cases last

/-- Whoever holds a passive move has fired nothing. -/
theorem fired?_of_held? (held : s.held? id = some move) : s.fired? id = none := by
  cases fires : s.fired? id with
  | none => rfl
  | some pair =>
    obtain ⟨gremlin, found, _, current, active⟩ := exists_of_fired? fires
    rw [held?_of_get? found, Instance.passiveMove?, current, Option.filter_some, active,
      if_neg Bool.false_ne_true] at held
    cases held

theorem fired?_of_lifeless (found : s.board.get? id = some gremlin)
    (lifeless : gremlin.isAlive = false) : s.fired? id = none := by
  cases fires : s.fired? id with
  | none => rfl
  | some pair =>
    obtain ⟨other, found', alive, _⟩ := exists_of_fired? fires
    cases found.symm.trans found'
    cases lifeless.symm.trans alive

/-- The last firing has been, and the next one is less than an interval away from it. -/
theorem Track.Timely.of_fired? {now : Ticks} {track : Track} (timely : track.Timely now)
    (fires : track.fired? = some (move, tick)) :
    tick.count ≤ now.count ∧ now.count < tick.count + move.interval := by
  obtain ⟨_, current, active, event, last, firing⟩ := Track.fired?_eq_some_iff.mp fires
  have firings := timely.fired move current
  obtain ⟨earlier, turns⟩ := List.getLast?_eq_some_iff.mp last
  rw [Track.fired, turns, List.rtakeWhile_concat_pos _ _ _ (by rw [firing]; rfl), Move.firings,
    active, if_neg Bool.false_ne_true] at firings
  have held := timely.held
  cases times : track.gremlin.ticksInMove / move.interval with
  | zero =>
    rw [times] at firings
    simp at firings
  | succ k =>
    rw [times, List.range_succ, List.map_append, List.map_singleton] at firings
    have same := (List.append_inj' firings rfl).2
    simp only [List.cons.injEq, TimedEvent.mk.injEq, and_true] at same
    have positive : 0 < move.interval := Nat.pos_of_ne_zero (beq_eq_false_iff_ne.mp active)
    have whole := Nat.div_add_mod' track.gremlin.ticksInMove move.interval
    have within := Nat.mod_lt track.gremlin.ticksInMove positive
    rw [times] at whole
    rw [same.1]
    dsimp only
    omega

end Fired

/-! ### What keeps overlays in force -/

/-- A gremlin has fired, and not left its move, only if that was so before. -/
def GoesOn (id : InstanceId) (s s' : Encounter) : Prop :=
  s'.fired? id = s.fired? id ∨ s'.fired? id = none

namespace GoesOn

variable {id : InstanceId} {s s' s'' : Encounter}

theorem refl (s : Encounter) : GoesOn id s s := .inl rfl

theorem trans (first : GoesOn id s s') (second : GoesOn id s' s'') : GoesOn id s s'' := by
  rcases second with same | none
  · rcases first with same' | none'
    · exact .inl (same.trans same')
    · exact .inr (same.trans none')
  · exact .inr none

theorem eq_none (goes : GoesOn id s s') (none : s.fired? id = none) : s'.fired? id = .none := by
  rcases goes with same | none'
  · exact same.trans none
  · exact none'

theorem of_track?_eq (same : s'.track? id = s.track? id) : GoesOn id s s' := .inl (fired?_congr same)

/-- Whoever has no turn goes on, and newcomers have fired nothing. -/
theorem of_phase {turn : Ticks → Track → Track → Prop} {ids : List InstanceId}
    (phase : Phase turn ids s s') (outside : id ∉ ids) : GoesOn id s s' := by
  cases before : s.track? id with
  | some track => exact of_track?_eq ((phase.kept id outside track before).trans before.symm)
  | none =>
    cases after : s'.track? id with
    | none => exact of_track?_eq (after.trans before.symm)
    | some track =>
      obtain ⟨_, born⟩ := phase.joined id track before after
      cases born
      obtain ⟨_, _, same⟩ := get?_of_track? after
      exact .inr (fired?_of_turns_nil (Track.mk.inj same).2.symm)

end GoesOn

/-- After the tick `since`, whoever has fired a plain move and not left it has the overlays of its
last firing. They have as many ticks left as the next firing is away; one less if the tick has
ended. -/
def Sustains (since : Ticks) (id : InstanceId) (slot : Slot) (ended : Nat) (s : Encounter) : Prop :=
  ∀ move tick value, s.fired? id = some (move, tick) → since.count < tick.count →
    move.isPlain = true → move.standing? slot = some value →
    s.overlay? slot id =
      some ⟨value, .ticks (tick.count + move.interval - (s.now.count + ended)), some id⟩

/-- Where nobody installs or releases on behalf of a gremlin, its timed overlays stay. -/
theorem Alters.overlay?_kept {slot : Slot} {authors : Option InstanceId → Prop} {s s' : Encounter}
    (alters : Alters slot authors 0 s s') (single : (s.overlays slot).Single) {id : InstanceId}
    (foreign : ¬ authors (some id)) {value ticks : Nat}
    (timed : s.overlay? slot id = some ⟨value, .ticks ticks, some id⟩) :
    s'.overlay? slot id = some ⟨value, .ticks ticks, some id⟩ := by
  obtain ⟨changes, lines, overlays, count, _, told⟩ := alters
  rw [overlay?, overlays, OverlaySet.of?_changeAll_of_timed single (fun change member own =>
    foreign (told change member _ own).1) timed, count]
  rfl

section Sustains

variable {since : Ticks} {id other : InstanceId} {slot : Slot} {ended : Nat} {s s' : Encounter}

theorem Sustains.of_fired?_eq_none (none : s.fired? id = none) : Sustains since id slot ended s := by
  intro move tick value fires
  rw [none] at fires
  cases fires

/-- While a gremlin goes on and its timed overlays stay, they are those of its last firing. -/
theorem Sustains.goesOn (sustains : Sustains since id slot ended s) (now : s'.now = s.now)
    (goes : GoesOn id s s') (kept : s.fired? id ≠ none → ∀ value ticks,
      s.overlay? slot id = some ⟨value, .ticks ticks, some id⟩ →
      s'.overlay? slot id = some ⟨value, .ticks ticks, some id⟩) :
    Sustains since id slot ended s' := by
  rcases goes with same | none
  · intro move tick value fires later plain covers
    rw [same] at fires
    rw [now]
    exact kept (by simp [fires]) _ _ (sustains move tick value fires later plain covers)
  · exact .of_fired?_eq_none none

/-- What others do leaves the overlays of a gremlin in force. -/
theorem Sustains.of_alters (sustains : Sustains since id slot ended s) (tidy : Tidy s)
    (now : s'.now = s.now) (goes : GoesOn id s s') {authors : Option InstanceId → Prop}
    (alters : Alters slot authors 0 s s')
    (foreign : id.value < s.board.next → ¬ authors (some id)) : Sustains since id slot ended s' := by
  refine sustains.goesOn now goes fun fires value ticks timed => ?_
  obtain ⟨⟨move, tick⟩, fires⟩ := Option.ne_none_iff_exists'.mp fires
  obtain ⟨gremlin, found, _⟩ := exists_of_fired? fires
  exact alters.overlay?_kept (tidy.single slot) (foreign (tidy.joined found)) timed

theorem Sustains.of_overlays_eq (sustains : Sustains since id slot ended s) (now : s'.now = s.now)
    (goes : GoesOn id s s') (overlays : s'.overlays slot = s.overlays slot) :
    Sustains since id slot ended s' :=
  sustains.goesOn now goes fun _ _ _ timed =>
    (congrArg (OverlaySet.of? · (some id)) overlays :).trans timed

/-- What others do with all it leads to, and what is done by someone who has fired nothing. -/
theorem Unfolds.sustains {offered : SummonSpec → Prop}
    (unfolds : Unfolds offered (some other) s s') (tidy : Tidy s)
    (sustains : Sustains since id slot ended s) (idle : id = other → s.fired? id = none) :
    Sustains since id slot ended s' := by
  have phase : Phase (fun _ _ _ => True) [] s s' := unfolds.effected.phase tidy.orderly
  have goes : GoesOn id s s' := .of_phase phase List.not_mem_nil
  by_cases apart : id = other
  · exact .of_fired?_eq_none (goes.eq_none (idle apart))
  · exact sustains.of_alters tidy phase.now_eq goes unfolds.alters fun joined =>
      OwnOrNew.not_of_joined joined fun same => apart (Option.some.inj same)

/-! ### Turns -/

/-- The turn of somebody else. -/
theorem Sustains.of_turn {turn : Ticks → Track → Track → Prop} (apart : id ≠ other)
    (sustains : Sustains since id slot ended s) (tidy : Tidy s) (phase : Phase turn [other] s s')
    (alters : Alters slot (OwnOrNew (some other) s.board.next) 0 s s') :
    Sustains since id slot ended s' :=
  sustains.of_alters tidy phase.now_eq (.of_phase phase (by rwa [List.mem_singleton])) alters
    fun joined => OwnOrNew.not_of_joined joined fun same => apart (Option.some.inj same)

theorem Track.fired?_hold (track : Track) : track.hold.fired? = track.fired? := by
  unfold Track.hold
  split <;> rfl

theorem holdMove_sustains (tidy : Tidy s) (sustains : Sustains since id slot ended s)
    (success : s.holdMove other = .ok s') : Sustains since id slot ended s' := by
  have phase := holdMove_phase tidy.orderly success
  by_cases apart : id = other
  · subst apart
    refine sustains.goesOn phase.now_eq ?_ fun fires value ticks timed => ?_
    · cases before : s.track? id with
      | none =>
        have absent := track?_eq_none_iff.mp before
        have idle : s.holdMove id = .ok s := by
          rw [holdMove, ifAlive, Board.get?_eq_none_iff.mpr absent]
        cases idle.symm.trans success
        exact .refl s
      | some track =>
        obtain ⟨_, after, rfl⟩ := phase.taken id (List.mem_singleton_self id) track before
        refine .inl ?_
        rw [fired?, fired?, before, after]
        exact track.fired?_hold
    · -- an active move does nothing in the passive phase
      obtain ⟨⟨move, tick⟩, fires⟩ := Option.ne_none_iff_exists'.mp fires
      obtain ⟨gremlin, found, alive, current, active⟩ := exists_of_fired? fires
      rw [holdMove_of_alive found alive, Instance.passiveMove?, current, Option.filter_some, active,
        if_neg Bool.false_ne_true] at success
      cases success
      exact timed
  · exact sustains.of_turn apart tidy phase (holdMove_alters success)

/-- A gremlin that fires renews its overlays. -/
theorem fireMove_sustains (tidy : Tidy s) (sustains : Sustains since id slot 0 s)
    (success : s.fireMove other = .ok s') : Sustains since id slot 0 s' := by
  have phase := fireMove_phase tidy.orderly success
  by_cases apart : id = other
  · subst apart
    rcases ifAlive_eq_ok success with ⟨gremlin, found, alive, _⟩ | ⟨rfl, _⟩
    · obtain ⟨_, after, rfl⟩ := phase.taken id (List.mem_singleton_self id) _ (track?_of_get? found)
      have living : gremlin.bare.isAlive = true := alive
      cases due : gremlin.age.fires with
      | false =>
        have waits : gremlin.bare.age.fires = false := due
        rw [Track.fire, if_pos living, waits, if_neg Bool.false_ne_true] at after
        rw [fireMove_of_waiting found alive due] at success
        cases success
        refine sustains.of_overlays_eq rfl (.inl ?_) rfl
        rw [fired?, after, fired?_of_get? found]
        rfl
      | true =>
        have fires : gremlin.bare.age.fires = true := due
        rw [Track.fire, if_pos living, if_pos fires] at after
        intro move tick value fired later plain covers
        rw [fired?, after] at fired
        obtain ⟨_, current, active, event, last, _⟩ := Track.fired?_eq_some_iff.mp fired
        have current : gremlin.currentMove? = some move := current
        have laid := (fireMove_due_laid tidy found alive current due success).own slot
        rw [Move.fates_of_plain plain (List.Subset.refl _) slot,
          show (move.effects.filterMap (Effect.value? slot)).getLast? = some value from covers] at laid
        rw [List.getLast?_concat] at last
        cases last
        rw [phase.now_eq, Nat.add_zero, Nat.add_sub_cancel_left]
        exact laid
    · exact sustains
  · exact sustains.of_turn apart tidy phase (fireMove_alters success)

/-- Whoever enters a move has fired nothing since. -/
theorem enterMove_fired? {index : Nat} {gremlin : Instance} (orderly : Orderly s)
    (found : s.board.get? id = some gremlin) (success : s.enterMove id index = .ok s') :
    s'.fired? id = none := by
  obtain ⟨after, touched, entered, turns, effects⟩ := enterMove_touched found success
  have tracked := track?_of_get? entered
  have silent : after.fired? id = none := by
    rw [fired?_of_get? entered, turns]
    cases fires : Track.fired? ⟨_, s.turns id ++ [⟨s.now, .moveEntered id index⟩]⟩ with
    | none => rfl
    | some pair =>
      obtain ⟨move, tick⟩ := pair
      obtain ⟨_, _, _, event, last, firing⟩ := Track.fired?_eq_some_iff.mp fires
      rw [List.getLast?_concat] at last
      cases last
      cases firing
  have orderly' : Orderly after := by
    have present : id ∈ s.board.ids := Board.mem_ids_iff.mpr ⟨gremlin, found⟩
    have phase : Phase (fun _ _ _ => True) [id] s after :=
      touched.phase_of_get? orderly found tracked trivial
    exact phase.orderly
  have phase : Phase (fun _ _ _ => True) [] after s' := effects.phase orderly'
  exact (GoesOn.of_phase phase List.not_mem_nil).eq_none silent

theorem changeMove_sustains (tidy : Tidy s) (sustains : Sustains since id slot ended s)
    (success : s.changeMove other = .ok s') : Sustains since id slot ended s' := by
  have phase := changeMove_phase tidy.orderly success
  by_cases apart : id = other
  · subst apart
    cases changeMove_changesMove success with
    | lifeless => exact sustains
    | stays gremlin found alive next =>
      refine sustains.of_overlays_eq rfl (.inl ?_) rfl
      rw [fired?_of_get? (nextMove_touched found).2, fired?_of_get? found]
      exact gremlin.nextMove_view (fun gremlin => Track.fired? ⟨gremlin, s.turns id⟩) _ fun _ => rfl
    | enters gremlin index _ found alive next done =>
      have laid : Laid id .permanent (fun _ => .keeps) s
          (s.modify id fun _ => (gremlin.nextMove s.generator).2.1) :=
        modify_laid tidy found (fun _ => (gremlin.nextMove s.generator).2.1)
          (fun _ _ => nextMove_id found s.generator)
          (gremlin.nextMove_view (·.installedCaps) _ fun _ => rfl)
          (gremlin.nextMove_view (·.passiveMove?) _ fun _ => rfl)
      have drawn := (Deed.draw (s.modify id fun _ => (gremlin.nextMove s.generator).2.1)
        (gremlin.nextMove s.generator).2.2).undisturbed
      have orderly := (laid.spares.tidy.of_undisturbed drawn
        (.of_overlays_eq (Nat.le_refl _) fun _ => rfl)).orderly
      exact .of_fired?_eq_none (enterMove_fired? orderly (nextMove_touched found).2 done)
  · exact sustains.of_turn apart tidy phase (changeMove_alters success)

/-! ### Burials -/

theorem fired?_observe (s : Encounter) (action : PlayerAction) (id : InstanceId) :
    (s.observe action).fired? id = s.fired? id := by
  have found : (s.observe action).board.get? id = (s.board.get? id).map (·.observe action) :=
    Board.get?_map fun _ => rfl
  cases present : s.board.get? id with
  | none =>
    rw [present, Option.map_none] at found
    rw [fired?_of_absent (Board.get?_eq_none_iff.mp found),
      fired?_of_absent (Board.get?_eq_none_iff.mp present)]
  | some gremlin =>
    rw [present, Option.map_some] at found
    rw [fired?_of_get? found, fired?_of_get? present]
    rfl

/-- Whoever is buried is gone, and all others go on. -/
theorem parting_goesOn (s : Encounter) (gremlin : Instance) :
    GoesOn id s (s.parting other gremlin) := by
  let gone : Encounter := { s with board := s.board.remove other }
  have quiet : ∀ id, (s.parting other gremlin).turns id = (gone.observe .gremlinKilled).turns id :=
    @turns_record_of_none _ (.died other gremlin.template.id) rfl
  have tracked : (s.parting other gremlin).track? id = (gone.observe .gremlinKilled).track? id :=
    track?_congr rfl (quiet id)
  have told : (s.parting other gremlin).fired? id = gone.fired? id :=
    (fired?_congr tracked).trans (gone.fired?_observe .gremlinKilled id)
  by_cases same : id = other
  · subst same
    refine .inr (told.trans (fired?_of_absent ?_))
    exact Board.get?_eq_none_iff.mp (Board.get?_remove_same)
  · refine .inl (told.trans (fired?_congr (track?_congr ?_ rfl)))
    exact congrArg (Option.map _) (Board.get?_remove_other same)

theorem bury_goesOn (tidy : Tidy s) (success : s.bury other = .ok s') : GoesOn id s s' := by
  rcases bury_eq_ok success with ⟨_, rfl⟩ | ⟨gremlin, after, _, effects, rfl⟩
  · exact .refl s'
  · have phase : Phase (fun _ _ _ => True) [] s after :=
      (applyEffects_effected effects).phase tidy.orderly
    exact (GoesOn.of_phase phase List.not_mem_nil).trans (after.parting_goesOn gremlin)

theorem bury_sustains (tidy : Tidy s) (sustains : Sustains since id slot ended s)
    (success : s.bury other = .ok s') : Sustains since id slot ended s' := by
  rcases bury_eq_ok success with ⟨_, rfl⟩ | ⟨gremlin, after, found, effects, rfl⟩
  · exact sustains
  · by_cases apart : id = other
    · subst apart
      exact .of_fired?_eq_none (fired?_of_absent (bury_played tidy.orderly success).2)
    · have unfolds : Unfolds (fun _ => True) (some other) s after :=
        applyEffects_unfolds (fun _ _ => trivial) effects
      have avenged := unfolds.sustains tidy sustains fun same => absurd same apart
      exact avenged.of_alters (unfolds.effected.tidy tidy) rfl (after.parting_goesOn gremlin)
        (@parting_alters slot (fun _ => False) after other gremlin) fun _ none => none

theorem terminate_sustains (sustains : Sustains since id slot ended s) :
    Sustains since id slot ended s.terminate := by
  obtain ⟨now, board, _, turns, _⟩ := s.terminate_concluded
  exact sustains.of_overlays_eq now (.of_track?_eq (track?_of_board_eq board turns id))
    (s.overlays_terminate slot)

theorem pruneDead_sustains (tidy : Tidy s) (sustains : Sustains since id slot ended s)
    (success : s.pruneDead = .ok s') : Sustains since id slot ended s' := by
  obtain ⟨after, burials, ends⟩ := bind_eq_ok.mp success
  have buried : Tidy after ∧ Sustains since id slot ended after :=
    foldlM_preserves (motive := fun u => Tidy u ∧ Sustains since id slot ended u) _
      (fun _ _ _ _ so_far done => ⟨(bury_steady so_far.1 done).tidy,
        bury_sustains so_far.1 so_far.2 done⟩) ⟨tidy, sustains⟩ burials
  cases ends
  split
  · exact terminate_sustains buried.2
  · exact buried.2

/-! ### The clock -/

/-- When a tick begins the ticks that are left are counted from the new one. -/
theorem begun_sustains (sustains : Sustains since id slot 1 s) : Sustains since id slot 0 s.begun := by
  intro move tick value fires later plain covers
  rw [fired?_congr (s.begun_track? id)] at fires
  rw [overlay?, begun_overlays]
  exact sustains move tick value fires later plain covers

theorem lifted_sustains (tidy : Tidy s) (sustains : Sustains since id slot ended s) :
    Sustains since id slot ended s.lifted :=
  sustains.of_alters tidy rfl (.of_track?_eq rfl)
    (@lifted_alters slot (fun _ => False) s) fun _ none => none

/-- The end of a tick takes a tick from overlays that have one left, since the next firing is less
than an interval away. -/
theorem expire_sustains (tidy : Tidy s) (sustains : Sustains since id slot 0 s)
    (timely : ∀ track, s.track? id = some track → track.Timely s.now) :
    Sustains since id slot 1 s.expire := by
  intro move tick value fires later plain covers
  have track := s.expire_undisturbed.track?_eq id
  rw [fired?_congr track] at fires
  have timed := sustains move tick value fires later plain covers
  obtain ⟨track, found, fires⟩ := Option.bind_eq_some_iff.mp fires
  have soon := ((timely track found).of_fired? fires).2
  change s.now.count < tick.count + move.interval at soon
  have left : tick.count + move.interval - (s.now.count + 0) =
      tick.count + move.interval - (s.now.count + 1) + 1 := by omega
  rw [left] at timed
  rw [overlay?, overlays_expire]
  exact OverlaySet.of?_expire_timed (tidy.single slot) timed

end Sustains

end Encounter

end Gremlin
