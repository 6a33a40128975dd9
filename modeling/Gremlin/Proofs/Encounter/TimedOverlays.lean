import Gremlin.Catalog
import Gremlin.Proofs.Encounter.Moments
import Gremlin.Proofs.Encounter.Sustained

set_option autoImplicit false

/-!
Timed overlays last exactly as long as they were installed for, and are renewed without a gap: at
every moment of a fight whoever has fired a move and not left it has the overlays of its last firing.
-/

namespace Gremlin

namespace Encounter

/-! ### Between phases -/

/-- An encounter is tidy, and the overlay of a gremlin's last firing is in force in a slot. -/
structure Upholds (since : Ticks) (id : InstanceId) (slot : Slot) (ended : Nat) (s : Encounter) :
    Prop where
  tidy : Tidy s
  sustains : Sustains since id slot ended s

section Phases

variable {since : Ticks} {id other : InstanceId} {slot : Slot} {ended : Nat} {s s' m : Encounter}
  {ids : List InstanceId}

theorem Upholds.lifted (upholds : Upholds since id slot 1 s) :
    Upholds since id slot 0 s.begun.lifted := by
  have begins := begun_tidy upholds.tidy
  exact ⟨lifted_tidy begins, lifted_sustains begins (begun_sustains upholds.sustains)⟩

theorem Upholds.holding (upholds : Upholds since id slot 0 s) (comes : ComesThrough holdMove ids s m) :
    Upholds since id slot 0 m :=
  comes.preserves (fun _ _ _ so_far acted => ⟨(holdMove_spares so_far.tidy acted).tidy,
    holdMove_sustains so_far.tidy so_far.sustains acted⟩) upholds

theorem Upholds.firing (upholds : Upholds since id slot 0 s) (comes : ComesThrough fireMove ids s m) :
    Upholds since id slot 0 m :=
  comes.preserves (fun _ _ _ so_far acted => ⟨(fireMove_spares so_far.tidy acted).tidy,
    fireMove_sustains so_far.tidy so_far.sustains acted⟩) upholds

theorem Upholds.changing (upholds : Upholds since id slot ended s)
    (comes : ComesThrough changeMove ids s m) : Upholds since id slot ended m :=
  comes.preserves (fun _ _ _ so_far acted => ⟨(changeMove_spares so_far.tidy acted).1.tidy,
    changeMove_sustains so_far.tidy so_far.sustains acted⟩) upholds

theorem Upholds.burying (upholds : Upholds since id slot ended s)
    (comes : ComesThrough bury ids s m) : Upholds since id slot ended m :=
  comes.preserves (fun _ _ _ so_far acted => ⟨(bury_steady so_far.tidy acted).tidy,
    bury_sustains so_far.tidy so_far.sustains acted⟩) upholds

theorem Upholds.prepares (upholds : Upholds since id slot ended s) {gremlin : Instance}
    (found : s.board.get? other = some gremlin) (prepares : Prepares other s s')
    (own : id = other → s'.fired? id = none) : Upholds since id slot ended s' := by
  have goes : GoesOn id s s' := by
    by_cases apart : id = other
    · exact .inr (own apart)
    · exact .of_track?_eq
        (track?_congr (prepares.touched.bare id apart) (prepares.touched.turns id apart))
  exact ⟨prepares.tidy upholds.tidy found, upholds.sustains.of_alters upholds.tidy
    (congrArg Clock.now prepares.touched.clock) goes (prepares.alters slot) fun _ none => none⟩

theorem Unfolds.upholds {offered : SummonSpec → Prop}
    (unfolds : Unfolds offered (some other) s s') (upholds : Upholds since id slot ended s)
    (idle : id = other → s.fired? id = none) : Upholds since id slot ended s' :=
  ⟨unfolds.effected.tidy upholds.tidy, unfolds.sustains upholds.tidy upholds.sustains idle⟩

/-- When moves have been changed everyone's counters are those of the new tick. -/
theorem timely_of_phased {bestiary : Bestiary}
    (sound : ∀ template ∈ bestiary.templates, template.Sound) (reachable : Reachable bestiary s)
    (phased : Phased s.begun s') {track : Track} (found : s'.track? id = some track) :
    track.Timely s'.now := by
  have standing := reachable.standing sound
  rw [phased.now]
  cases before : s.begun.track? id with
  | some old =>
    obtain ⟨track', after, changed⟩ := phased.aged id old before
    cases found.symm.trans after
    have known : s.track? id = some old := (s.begun_track? id).symm.trans before
    have fit := standing.fit id old known
    have aged := (reachable.timely sound known).tick (Instance.isAlive_iff.mpr fit.health.positive)
    exact aged.changed sound (Track.fire_fit (Track.hold_fit fit) _) changed
  | none =>
    obtain ⟨_, born, newborn, same | changed⟩ := phased.joined id track before found
    · exact same ▸ newborn.timely
    · have newborn : Track.Newborn bestiary s.begun.now born := standing.known ▸ newborn
      exact newborn.timely.changed sound (newborn.gremlin_fit sound) changed

end Phases

/-! ### Operations -/

/-- From outside of a gremlin's turns, an operation does nothing on its behalf in a slot. -/
def Operation.Leaves (slot : Slot) (id : InstanceId) (operation : Operation) : Prop :=
  ∀ duration given, operation = .effect (some id) duration given → given.fate slot = .keeps

section Operations

variable {bestiary : Bestiary} {since : Ticks} {id : InstanceId} {slot : Slot} {ended : Nat}
  {s s' struck : Encounter} {operation : Operation}

/-- Between ticks nobody comes to have fired anything, and whoever has fired goes on or dies. -/
theorem Struck.goesOn {victim : Option InstanceId} (struck : Struck victim s s') (living : s.Living) :
    GoesOn id s s' := by
  by_cases outside : id ∈ victim.toList
  · exact .inr (fired?_of_absent (struck.absent id (Option.mem_toList.mp outside)))
  · cases before : s.track? id with
    | some track =>
      obtain ⟨track', after, handled⟩ := struck.played.kept id outside track before
      have fit := living id track before
      have alive : track'.gremlin.isAlive = track.gremlin.isAlive :=
        (Instance.isAlive_iff.mpr (handled.gremlin.fit fit).positive).trans
          (Instance.isAlive_iff.mpr fit.positive).symm
      have current : track'.gremlin.currentMove? = track.gremlin.currentMove? :=
        (congrArg Instance.currentMove? handled.gremlin.course :
          track'.gremlin.course.currentMove? = track.gremlin.course.currentMove?)
      refine .inl ?_
      rw [fired?, fired?, before, after]
      change track'.fired? = track.fired?
      rw [Track.fired?, Track.fired?, alive, current, handled.turns]
    | none =>
      cases after : s'.track? id with
      | none => exact .of_track?_eq (after.trans before.symm)
      | some track =>
        obtain ⟨_, born, newborn, handled⟩ := struck.played.joined id outside track before after
        cases newborn
        obtain ⟨_, _, rfl⟩ := get?_of_track? after
        exact .inr (fired?_of_turns_nil handled.turns)

theorem blow_upholds {other : InstanceId} {gremlin dead : Instance} {event : Event}
    (upholds : Upholds since id slot ended s) (found : s.board.get? other = some gremlin)
    (same : dead.id = gremlin.id) (caps : dead.installedCaps = gremlin.installedCaps)
    (lifeless : dead.isAlive = false) (still : event.mover? = none) :
    Upholds since id slot ended ((s.modify other fun _ => dead).record event) := by
  have named : dead.id = other := same.trans (Board.id_of_get? found)
  have strikes : Prepares other s (s.modify other fun _ => dead) :=
    .modify _ (fun _ _ => named) found caps
  have told : Prepares other s ((s.modify other fun _ => dead).record event) :=
    strikes.trans (.of_undisturbed (.record still _) (fun _ => rfl) ⟨_, (Array.toList_push ..).symm⟩)
  refine upholds.prepares found told ?_
  rintro rfl
  exact fired?_of_lifeless (get?_modify (fun _ => dead) (fun _ _ => named) found) lifeless

/-- Before the dead are buried everything is in force, and after a tick for one tick less. -/
theorem Fells.upholds (fells : Fells s operation struck)
    (sound : ∀ template ∈ bestiary.templates, template.Sound) (reachable : Reachable bestiary s)
    (upholds : Upholds since id slot 1 s) : Upholds since id slot 1 struck := by
  cases fells with
  | hit found killed =>
    exact blow_upholds upholds found (Instance.applyHit_id _ _) (Instance.applyHit_installedCaps _ _)
      (Instance.applyHit_lifeless killed) rfl
  | execute found landed =>
    exact blow_upholds upholds found (Instance.execute_id _) (Instance.execute_installedCaps _)
      (Instance.execute_lifeless landed) rfl
  | @advance held fired changed holds fires changes =>
    have orderly := begun_orderly (reachable.standing sound).orderly
    have phases := phased orderly holds fires changes
    have third := ((upholds.lifted.holding (comesThrough_of_eq_ok holds)).firing
      (comesThrough_of_eq_ok fires)).changing (comesThrough_of_eq_ok changes)
    exact ⟨(expire_steady third.tidy).tidy, expire_sustains third.tidy third.sustains fun track =>
      timely_of_phased sound reachable phases⟩

/-- Whoever joins finds everything in force. -/
theorem arriving_upholds {template : Template} {templateId : String}
    (upholds : Upholds since id slot ended s) (known : s.bestiary.get? templateId = some template) :
    Upholds since id slot ended (s.arriving template templateId) := by
  have named : template.id = templateId := by simpa using List.find?_some known
  subst named
  have joins := (Arrival.spawned s template (Bestiary.mem_of_get? known)).effected
  have phase : Phase (fun _ _ _ => True) [] s (s.arriving template template.id) :=
    joins.phase upholds.tidy.orderly
  exact ⟨joins.tidy upholds.tidy, upholds.sustains.of_overlays_eq phase.now_eq
    (.of_phase phase List.not_mem_nil) rfl⟩

theorem BringsIn.upholds {source : Option InstanceId} {spec : SummonSpec} {newcomer : InstanceId}
    {welcomed : Encounter} (brings : BringsIn s source spec newcomer welcomed)
    (upholds : Upholds since id slot ended s) : Upholds since id slot ended welcomed := by
  obtain ⟨after, template, position, allowed, drawn, _, rfl⟩ := brings.welcomes
  have joins := welcome_effected position allowed drawn
  have phase : Phase (fun _ _ _ => True) [] s (after.welcome template position source) :=
    joins.phase upholds.tidy.orderly
  have alters : Alters slot (fun _ => False) 0 s (after.welcome template position source) :=
    (summonTemplate_alters drawn).trans (welcome_alters ..)
  exact ⟨joins.tidy upholds.tidy, upholds.sustains.of_alters upholds.tidy phase.now_eq
    (.of_phase phase List.not_mem_nil) alters fun _ none => none⟩

theorem Ensues.sustains {told : Encounter} {killed : Bool} (ensues : Ensues told killed s')
    (felled : killed = true → Upholds since id slot ended told)
    (spared : s' = told → Sustains since id slot ended s') : Sustains since id slot ended s' := by
  cases ensues with
  | burial kills prunes => exact pruneDead_sustains (felled kills).tidy (felled kills).sustains prunes
  | nothing _ same => exact spared same

/-- Whatever is done, what was in force stays so. -/
theorem Operation.sustains (sound : ∀ template ∈ bestiary.templates, template.Sound)
    (reachable : Reachable bestiary s) (leaves : operation.Leaves slot id)
    (upholds : Upholds since id slot 1 s) (success : operation.run s = .ok s') :
    Sustains since id slot 1 s' := by
  have standing := reachable.standing sound
  by_cases ticks : operation = .advance
  · subst ticks
    obtain ⟨_, held, fired, changed, holds, fires, changes, prunes⟩ := advance_eq_ok success
    have struck := (Fells.advance holds fires changes).upholds sound reachable upholds
    exact pruneDead_sustains struck.tidy struck.sustains prunes
  · have strikes := operation.struck standing.orderly standing.living ticks success
    have goes : GoesOn id s s' := strikes.goesOn standing.living
    have now := strikes.played.now
    have quiet : s'.overlays slot = s.overlays slot → Sustains since id slot 1 s' :=
      upholds.sustains.of_overlays_eq now goes
    cases operation with
    | spawn templateId =>
      obtain ⟨joined, spawned⟩ := map_fst_eq_ok.mp success
      obtain ⟨template, _, _, entered⟩ := spawn_eq_ok spawned
      have joins : Alters slot (Newcomer s.board.next) 0 s (s.arriving template templateId) :=
        .of_overlays_eq rfl ⟨_, (Array.toList_push ..).symm⟩
      refine upholds.sustains.of_alters upholds.tidy now goes
        (joins.trans ((enterPassive_alters entered).mono fun author among =>
          among.newcomer (Nat.le_succ _) (Nat.le_refl _))) Newcomer.not_of_joined
    | effect source duration given =>
      by_cases own : some id = source
      · subst own
        refine upholds.sustains.goesOn now goes fun fires value ticks timed => ?_
        obtain ⟨⟨move, tick⟩, fires⟩ := Option.ne_none_iff_exists'.mp fires
        obtain ⟨gremlin, found, _⟩ := exists_of_fired? fires
        have joined := upholds.tidy.joined found
        have fares := (applyWith_laid enterPassive_laid upholds.tidy joined success).own slot
        rw [leaves duration given rfl] at fares
        exact fares.trans timed
      · have unfolds : Unfolds (fun _ => True) source s s' :=
          applyEffect_unfolds (fun _ _ => trivial) success
        exact upholds.sustains.of_alters upholds.tidy now goes unfolds.alters fun joined =>
          OwnOrNew.not_of_joined joined own
    | gain force amount =>
      cases success
      exact quiet (s.overlays_gain force amount slot)
    | spend force amount =>
      cases success
      exact quiet (s.overlays_spend force amount slot)
    | hit other given =>
      obtain ⟨gremlin, found, ensues⟩ := Operation.run_hit_eq_ok success
      exact ensues.sustains
        (fun killed => (Fells.hit found killed).upholds sound reachable upholds)
        fun same => quiet (same ▸ rfl)
    | execute other =>
      obtain ⟨gremlin, found, ensues⟩ := Operation.run_execute_eq_ok success
      exact ensues.sustains
        (fun landed => (Fells.execute found landed).upholds sound reachable upholds)
        fun same => quiet (same ▸ rfl)
    | heal other amount =>
      obtain ⟨_, _, rfl⟩ := heal_eq_ok success
      exact quiet rfl
    | terminate =>
      cases success
      exact quiet (s.overlays_terminate slot)
    | advance => exact absurd rfl ticks
    | observe _ | notify _ | reseed _ | nest _ =>
      cases success
      exact quiet rfl

end Operations

/-! ### At every moment -/

/-- In a tick from `s` on, a gremlin has come to its turn in the state `here` and is in the middle of
firing its move. -/
def MidFiring (s : Encounter) (id : InstanceId) (here m : Encounter) : Prop :=
  s.FiringTurn id here ∧ ∃ own, here.fire? id = some own ∧ own.During m

/-- A gremlin has one overlay in a slot, of some value, and it is a timed one. -/
def InForce (s : Encounter) (slot : Slot) (id : InstanceId) (value : Nat) : Prop :=
  ∃ left, (s.overlays slot).overlays.filter (·.source = some id) = [⟨value, .ticks left, some id⟩]

theorem Tidy.inForce {s : Encounter} {slot : Slot} {id : InstanceId} {value left : Nat}
    (tidy : Tidy s) (timed : s.overlay? slot id = some ⟨value, .ticks left, some id⟩) :
    s.InForce slot id value := by
  refine ⟨left, ?_⟩
  rw [tidy.filter_source, timed]
  rfl

section Moments

variable {bestiary : Bestiary} {since : Ticks} {id : InstanceId} {slot : Slot}
  {s m : Encounter} {operation : Operation} {batch : Batch}

/-- In the middle of a batch of somebody else, or of someone who has fired nothing, everything is in
force. -/
theorem Upholds.during {ended : Nat} (upholds : Upholds since id slot ended batch.start)
    (idle : id = batch.doer → batch.start.fired? id = none) (during : batch.During m) :
    Upholds since id slot ended m := by
  have unfolds : Unfolds (fun _ => True) (some batch.doer) batch.start m :=
    during.unfolds fun _ _ => trivial
  exact unfolds.upholds upholds idle

theorem Upholds.opening {ended depth : Nat} {newcomer : InstanceId}
    (upholds : Upholds since id slot ended s) (opens : opening? depth newcomer s = some batch)
    (during : batch.During m) : Upholds since id slot ended m := by
  obtain ⟨doer, start, move, held, _⟩ := opening?_eq_some opens
  refine Upholds.during (start ▸ upholds) (fun own => ?_) during
  rw [own, doer, start]
  exact fired?_of_held? held

/-- Whoever does its batch in a passive move has fired nothing. -/
theorem Upholds.passively {ended : Nat} {other : InstanceId} {gremlin : Instance} {move : Move}
    (upholds : Upholds since id slot ended s) (found : s.board.get? other = some gremlin)
    (prepares : Prepares other s batch.start) (doer : batch.doer = other)
    (held : batch.start.held? other = some move) (during : batch.During m) :
    Upholds since id slot ended m := by
  have idle : id = other → batch.start.fired? id = none := fun own => own ▸ fired?_of_held? held
  exact (upholds.prepares found prepares idle).during (fun own => idle (own.trans doer)) during

/-- Whoever is buried is dead. -/
theorem fired?_of_burial {struck here : Encounter} {other : InstanceId} (tidy : Tidy struck)
    (turn : ComesTo bury struck.board.dead struck other here) : here.fired? other = none := by
  obtain ⟨gremlin, found, lifeless⟩ :=
    (Board.mem_dead_iff tidy.orderly.numbered.distinct).mp turn.mem
  have kept : Tidy here ∧ here.fired? other = none :=
    turn.preserves (motive := fun u => Tidy u ∧ u.fired? other = none)
      (fun _ _ _ _ so_far acted => ⟨(bury_steady so_far.1 acted).tidy,
        (bury_goesOn so_far.1 acted).eq_none so_far.2⟩) ⟨tidy, fired?_of_lifeless found lifeless⟩
  exact kept.2

/-- In the middle of each batch everything is in force, but for what its doer lays anew. By induction
on how the batch came about. -/
theorem Occasion.upholds (sound : ∀ template ∈ bestiary.templates, template.Sound)
    (reachable : Reachable bestiary s) (upholds : Upholds since id slot 1 s)
    (occasion : Occasion s operation batch) (during : batch.During m) :
    (∃ ended, Upholds since id slot ended m) ∨
      ∃ here, MidFiring s id here m ∧ Upholds since id slot 0 here := by
  induction occasion generalizing m with
  | spawned known opens => exact .inl ⟨1, (arriving_upholds upholds known).opening opens during⟩
  | summoned brings opens => exact .inl ⟨1, (brings.upholds upholds).opening opens during⟩
  | held turn holds =>
    obtain ⟨doer, prepares, gremlin, move, found, held⟩ := hold?_eq_some holds
    have comes := upholds.lifted.holding turn.through
    exact .inl ⟨0, comes.passively found prepares doer held during⟩
  | @fired other held here batch holds turn fires =>
    have comes := (upholds.lifted.holding (comesThrough_of_eq_ok holds)).firing turn.through
    by_cases own : id = other
    · subst own
      exact .inr ⟨here, ⟨⟨held, holds, turn⟩, batch, fires, during⟩, comes⟩
    · obtain ⟨gremlin, move, found, _, _, _, rfl⟩ := fire?_eq_some fires
      have prepared := comes.prepares found (firing_prepares found) fun same => absurd same own
      exact .inl ⟨0, prepared.during (fun same => absurd same own) during⟩
  | changed holds fires turn changes =>
    obtain ⟨doer, prepares, gremlin, move, found, held⟩ := change?_eq_some changes
    have comes := ((upholds.lifted.holding (comesThrough_of_eq_ok holds)).firing
      (comesThrough_of_eq_ok fires)).changing turn.through
    exact .inl ⟨0, comes.passively found prepares doer held during⟩
  | buried fells turn buries =>
    have struck := fells.upholds sound reachable upholds
    have comes := struck.burying turn.through
    obtain ⟨gremlin, found, rfl⟩ := Option.map_eq_some_iff.mp buries
    exact .inl ⟨1, Upholds.during comes (fun own => own ▸ fired?_of_burial struck.tidy turn) during⟩
  | nested around reaches brings opens ih => exact ih (.nested reaches brings opens during)

/-- At every moment of an operation everything is in force, but for what a gremlin in the middle of
its firing lays anew. -/
theorem Moment.upholds (sound : ∀ template ∈ bestiary.templates, template.Sound)
    (reachable : Reachable bestiary s) (leaves : operation.Leaves slot id)
    (upholds : Upholds since id slot 1 s) (moment : Moment s operation m) :
    (∃ ended, Upholds since id slot ended m) ∨
      ∃ here, MidFiring s id here m ∧ Upholds since id slot 0 here := by
  cases moment with
  | before => exact .inl ⟨1, upholds⟩
  | after success =>
    exact .inl ⟨1, operation.tidy upholds.tidy sound (reachable.standing sound) success,
      operation.sustains sound reachable leaves upholds success⟩
  | begun => exact .inl ⟨0, begun_tidy upholds.tidy, begun_sustains upholds.sustains⟩
  | holding comes => exact .inl ⟨0, upholds.lifted.holding comes⟩
  | firing holds comes =>
    exact .inl ⟨0, (upholds.lifted.holding (comesThrough_of_eq_ok holds)).firing comes⟩
  | changing holds fires comes =>
    exact .inl ⟨0, ((upholds.lifted.holding (comesThrough_of_eq_ok holds)).firing
      (comesThrough_of_eq_ok fires)).changing comes⟩
  | burying fells comes =>
    exact .inl ⟨1, (fells.upholds sound reachable upholds).burying comes⟩
  | parting fells turn buries ran =>
    have struck := fells.upholds sound reachable upholds
    obtain ⟨gremlin, found, rfl⟩ := Option.map_eq_some_iff.mp buries
    exact .inl ⟨1, (Batch.run_unfolds ran).upholds (struck.burying turn.through) fun own =>
      own ▸ fired?_of_burial struck.tidy turn⟩
  | acting occasion during => exact occasion.upholds sound reachable upholds during

/-- Of the effects that a plain move has done so far, the last one for a slot decides. -/
theorem applyEffects_overlay? {duration : Duration} {move : Move} {before : List Effect}
    {here : Encounter} (tidy : Tidy s) (joined : id.value < s.board.next)
    (plain : move.isPlain = true) (own : before ⊆ move.effects)
    (success : s.applyEffects (some id) duration before = .ok here) :
    here.overlay? slot id = s.overlay? slot id ∨ ∃ effect ∈ move.effects, ∃ value,
      effect.value? slot = some value ∧ here.overlay? slot id = some ⟨value, duration, some id⟩ := by
  have fares := (applyEffects_laid tidy joined success).own slot
  rw [Move.fates_of_plain plain own slot] at fares
  cases last : (before.filterMap (Effect.value? slot)).getLast? with
  | none =>
    rw [last] at fares
    exact .inl fares
  | some value =>
    rw [last] at fares
    obtain ⟨effect, member, lays⟩ := List.mem_filterMap.mp (List.mem_of_getLast? last)
    exact .inr ⟨effect, own member, value, lays, fares⟩

/-- Whoever begins to fire a move has fired it by then, as the journal tells. -/
theorem firing_fired? {gremlin : Instance} {move : Move} {tick : Ticks}
    (found : s.board.get? id = some gremlin)
    (fired : (s.firing id gremlin).fired? id = some (move, tick)) :
    gremlin.currentMove? = some move ∧ tick = s.now := by
  have aged := get?_modify (·.age) (fun _ named => named) found
  have counted := get?_modify (·.countTrigger) (fun _ named => named) aged
  rw [fired?_of_get? (s := s.firing id gremlin) counted] at fired
  obtain ⟨_, current, _, event, last, _⟩ := Track.fired?_eq_some_iff.mp fired
  have own : (s.firing id gremlin).turns id = s.turns id ++ [⟨s.now, .moveFired id gremlin.move⟩] :=
    (turns_record ..).trans (congrArg (s.turns id ++ ·) (if_pos rfl))
  have last : ((s.firing id gremlin).turns id).getLast? = some ⟨tick, event⟩ := last
  rw [own, List.getLast?_concat] at last
  cases last
  exact ⟨current, rfl⟩

/-- In the middle of a firing that is not the first, an overlay that the move lays is in force. -/
theorem MidFiring.renews {here : Encounter} {move : Move} {tick : Ticks} {value : Nat}
    (mid : MidFiring s id here m) (upholds : Upholds since id slot 0 here)
    (fired : m.fired? id = some (move, tick)) (plain : move.isPlain = true)
    (covers : move.standing? slot = some value) :
    tick = m.now ∧ ((∀ other earlier, here.fired? id = some (other, earlier) →
        earlier.count ≤ since.count) ∨
      ∃ effect ∈ move.effects, ∃ value, effect.value? slot = some value ∧ m.InForce slot id value) := by
  obtain ⟨_, own, fires, during⟩ := mid
  obtain ⟨gremlin, current, found, _, holds, _, rfl⟩ := fire?_eq_some fires
  have starts := (firing_prepares found).tidy upholds.tidy found
  have unfolds : Unfolds (fun _ => True) (some id) (here.firing id gremlin) m :=
    during.unfolds fun _ _ => trivial
  have tidy := unfolds.effected.tidy starts
  have phase : Phase (fun _ _ _ => True) [] (here.firing id gremlin) m :=
    unfolds.effected.phase starts.orderly
  -- the move that has fired at this moment is the one that is being fired
  obtain ⟨rfl, now⟩ : current = move ∧ tick = here.now := by
    rcases GoesOn.of_phase phase List.not_mem_nil with same | none
    · obtain ⟨holds', now⟩ := firing_fired? found (same.symm.trans fired)
      exact ⟨Option.some.inj (holds.symm.trans holds'), now⟩
    · cases none.symm.trans fired
  refine ⟨now.trans phase.now_eq.symm, ?_⟩
  by_cases again : ∃ other earlier, here.fired? id = some (other, earlier) ∧
      since.count < earlier.count
  · obtain ⟨other, earlier, before, later⟩ := again
    right
    obtain ⟨gremlin', found', _, holds', _⟩ := exists_of_fired? before
    cases found.symm.trans found'
    cases holds.symm.trans holds'
    have timed := upholds.sustains _ _ _ before later plain covers
    obtain ⟨effect, there, reaches, alters⟩ := during.reached slot
    have done : Unfolds (fun _ => True) (some id) (here.firing id gremlin) there :=
      Batch.reaches_unfolds (fun _ _ => trivial) reaches
    have reached := done.effected.tidy starts
    have joined := upholds.tidy.joined found
    have stays : ∀ {value ticks}, there.overlay? slot id = some ⟨value, .ticks ticks, some id⟩ →
        m.InForce slot id value := fun timed =>
      tidy.inForce (alters.overlay?_kept (reached.single slot)
        (Newcomer.not_of_joined (Nat.lt_of_lt_of_le joined done.rears.next)) timed)
    obtain ⟨early, late, effects, ran⟩ := reaches
    have own : early ⊆ current.effects := by
      rw [show current.effects = early ++ effect :: late from effects]
      exact List.subset_append_left _ _
    rcases applyEffects_overlay? starts joined plain own ran with
      same | ⟨other, member, value, lays, laid⟩
    · obtain ⟨last, member, lays⟩ := List.mem_filterMap.mp (List.mem_of_getLast? covers)
      exact ⟨last, member, value, lays, stays (same.trans timed)⟩
    · exact ⟨other, member, value, lays, stays laid⟩
  · left
    intro other earlier before
    exact Nat.not_lt.mp fun later => again ⟨other, earlier, before, later⟩

/-- What is in force before some operations is so after them. -/
theorem Upholds.runAll {s' : Encounter} {operations : List Operation}
    (upholds : Upholds since id slot 1 s) (sound : ∀ template ∈ bestiary.templates, template.Sound)
    (reachable : Reachable bestiary s) (leave : ∀ operation ∈ operations, operation.Leaves slot id)
    (success : Operation.runAll s operations = .ok s') : Upholds since id slot 1 s' := by
  have kept : Reachable bestiary s' ∧ Upholds since id slot 1 s' :=
    foldlM_preserves (motive := fun u => Reachable bestiary u ∧ Upholds since id slot 1 u) operations
      (fun _ operation _ member so_far ran => ⟨so_far.1.step operation ran,
        operation.tidy so_far.2.tidy sound (so_far.1.standing sound) ran,
        operation.sustains sound so_far.1 (leave operation member) so_far.2 ran⟩)
      ⟨reachable, upholds⟩ success
  exact kept.2

/-- Nothing that has fired by now has fired since. -/
theorem Reachable.upholds (sound : ∀ template ∈ bestiary.templates, template.Sound)
    (reachable : Reachable bestiary s) : Upholds s.now id slot 1 s := by
  refine ⟨reachable.tidy sound, fun move tick value fires later => ?_⟩
  obtain ⟨track, found, fires⟩ := Option.bind_eq_some_iff.mp fires
  exact absurd later (Nat.not_lt.mpr ((reachable.timely sound found).of_fired? fires).1)

end Moments

/-- In the firing phase it is the tick that has begun. -/
theorem FiringTurn.now_eq {s here : Encounter} {id : InstanceId} (tidy : Tidy s) (living : s.Living)
    (turn : s.FiringTurn id here) : here.now = ⟨s.now.count + 1⟩ := by
  obtain ⟨held, holds, comes⟩ := turn
  have begins := begun_tidy tidy
  have start : held.now = ⟨s.now.count + 1⟩ := (applyPassives_phase begins.orderly holds).1.now_eq
  have kept : Tidy here ∧ here.now = ⟨s.now.count + 1⟩ :=
    comes.preserves (motive := fun u => Tidy u ∧ u.now = ⟨s.now.count + 1⟩)
      (fun _ _ _ _ so_far acted => ⟨(fireMove_spares so_far.1 acted).tidy,
        (fireMove_phase so_far.1.orderly acted).now_eq.trans so_far.2⟩)
      ⟨(applyPassives_synced begins (begun_living living) holds).1, start⟩
  exact kept.2

/-- Whoever fires its move has fired it in this tick. -/
theorem FiresAt.fired? {s here after : Encounter} {id : InstanceId} {gremlin : Instance} {move : Move}
    (fires : s.FiresAt id gremlin move here) (tidy : Tidy s) (living : s.Living)
    (done : here.fireMove id = .ok after) : after.fired? id = some (move, ⟨s.now.count + 1⟩) := by
  obtain ⟨found, alive⟩ := get?_of_living? fires.living
  have phase := fireMove_phase (fires.tidy tidy living).orderly done
  obtain ⟨_, tracked, rfl⟩ := phase.taken id (List.mem_singleton_self id) _ (track?_of_get? found)
  have lives : gremlin.bare.isAlive = true := alive
  have due : gremlin.bare.age.fires = true := fires.due
  rw [Track.fire, if_pos lives, if_pos due, fires.turn.now_eq tidy living] at tracked
  rw [Encounter.fired?, tracked, Option.bind_some, Track.fired?_eq_some_iff]
  exact ⟨alive, fires.current, isPassive_of_due fires.current fires.due, _,
    List.getLast?_concat, rfl⟩

/-! ### The law -/

open OverlaySet (Change)

/-- An overlay that is installed for some ticks is its source's only one through as many ends of
ticks, and gone at the next, whatever others install and release; and none is counted down that has
no ticks left. So the overlays of a plain move that fires stay through as many ticks as its interval,
that of the firing included, unless its gremlin installs or releases in the slot again. And whoever
has fired a plain move since `s`, as every firing tells, and not entered a move anew has the move's
overlays at every moment, except that in the middle of a firing it may have none yet, if that is the
first, and the one that an earlier effect lays, if it is not. -/
theorem timed_overlays_last {records : List Record} {s : Encounter}
    (reachable : Reachable (Bestiary.load records).1 s) :
    (∀ (before after : List Change) (value ticks : Nat) (source : Option InstanceId),
      (∀ change ∈ after, change.author? ≠ some source) →
      (((({} : OverlaySet).changeAll before).install ⟨value, .ticks ticks, source⟩).changeAll
          after).overlays.filter (·.source = source) =
        if after.countP Change.isExpire ≤ ticks then
          [⟨value, .ticks (ticks - after.countP Change.isExpire), source⟩]
        else []) ∧
    (∀ (set : OverlaySet) (overlay : Overlay) (left : Nat), overlay ∈ set.expire.overlays →
      overlay.duration = .ticks left →
      ⟨overlay.value, .ticks (left + 1), overlay.source⟩ ∈ set.overlays) ∧
    (∀ (id : InstanceId) (gremlin : Instance) (move : Move) (here after : Encounter),
      s.FiresAt id gremlin move here → here.fireMove id = .ok after →
      after.fired? id = some (move, ⟨s.now.count + 1⟩) ∧
      ∀ (s₁ s₂ : Encounter) (operations : List Operation) (slot : Slot) (value : Nat),
        s.advance = .ok s₁ → Operation.runAll s₁ operations = .ok s₂ → move.isPlain = true →
        move.standing? slot = some value → Untouched slot id after s₂ →
        (s₂.overlays slot).overlays.filter (·.source = some id) =
          if operations.countP Operation.isAdvance < move.interval then
            [⟨value, .ticks (move.interval - 1 - operations.countP Operation.isAdvance), some id⟩]
          else []) ∧
    ∀ (id : InstanceId) (slot : Slot) (operations : List Operation) (s' : Encounter)
      (operation : Operation) (m : Encounter) (move : Move) (tick : Ticks) (value : Nat),
      (∀ operation ∈ operations, operation.Leaves slot id) →
      Operation.runAll s operations = .ok s' → operation.Leaves slot id → Moment s' operation m →
      m.fired? id = some (move, tick) → s.now.count < tick.count → move.isPlain = true →
      move.standing? slot = some value →
      m.InForce slot id value ∨
        tick = m.now ∧ ∃ here, s'.MidFiring id here m ∧
          ((∀ other earlier, here.fired? id = some (other, earlier) →
              earlier.count ≤ s.now.count) ∨
            ∃ effect ∈ move.effects, ∃ value, effect.value? slot = some value ∧
              m.InForce slot id value) := by
  have sound : ∀ template ∈ (Bestiary.load records).1.templates, template.Sound :=
    fun _ member => Bestiary.sound_of_mem_load member
  refine ⟨fun before after value ticks source foreign =>
      OverlaySet.overlays_changeAll_install before after value ticks foreign,
    fun set overlay left member timed => OverlaySet.one_more_before_expire member timed, ?_, ?_⟩
  · intro id gremlin move here after fires done
    have tidy := reachable.tidy sound
    have living := (reachable.standing sound).living
    refine ⟨fires.fired? tidy living done, ?_⟩
    intro s₁ s₂ operations slot value success ran plain covers untouched
    exact fires.lasts tidy living plain done success ran covers untouched
  · intro id slot operations s' operation m move tick value leave success leaves moment fired later
      plain covers
    have upholds := (reachable.upholds sound).runAll sound reachable leave success
    rcases moment.upholds sound (reachable.runAll success) leaves upholds with
      ⟨ended, kept⟩ | ⟨here, mid, kept⟩
    · exact .inl (kept.tidy.inForce (kept.sustains _ _ _ fired later plain covers))
    · obtain ⟨now, renews⟩ := mid.renews kept fired plain covers
      exact .inr ⟨now, here, mid, renews⟩

/-- A gremlin that caps heat at every other tick. -/
def damper : Record where
  templateId := "damper"
  sizeCategory := "small"
  maxHealth := 10
  moves := "ticks=2,heat_hard_cap=3"

/-- A gremlin that caps precision once. -/
def passer : Record where
  templateId := "passer"
  sizeCategory := "small"
  maxHealth := 10
  moves := "ticks=2,precision_hard_cap=4|ticks=9,drain_heat=1"
  movePattern := "sequence"

/-- At the beginning of the fourth tick the cap of a damper has no tick left and is in force, and the
one of a passer has stayed for two ticks. -/
theorem timed_overlays_last_damper : ∃ s s₁ s₂,
    Operation.runAll (new (Bestiary.load [damper, passer]).1 7)
      [.spawn "damper", .spawn "passer", .advance] = .ok s ∧
    s.advance = .ok s₁ ∧ Operation.runAll s₁ [.advance] = .ok s₂ ∧
    (s₂.overlays (.hardCap .precision)).overlays.filter (·.source = some ⟨1⟩) =
      [⟨4, .ticks 0, some ⟨1⟩⟩] ∧
    s₂.begun.InForce (.hardCap .heat) ⟨0⟩ 3 := by
  have ran : ((Operation.runAll (new (Bestiary.load [damper, passer]).1 7)
      [.spawn "damper", .spawn "passer", .advance]).toOption.bind fun s =>
        s.advance.toOption.bind fun s₁ => (Operation.runAll s₁ [.advance]).toOption.bind fun s₂ =>
          s.begun.applyPassives.toOption.bind fun held =>
            (List.foldlM fireMove held [⟨0⟩]).toOption.bind fun here =>
              (here.fireMove ⟨1⟩).toOption.bind fun after =>
                (here.living? ⟨1⟩).bind fun gremlin => gremlin.currentMove?.bind fun move =>
                  (s₂.begun.fired? ⟨0⟩).map fun other => decide (
                    (held.board.ids = [⟨0⟩, ⟨1⟩] ∧ gremlin.age.fires = true ∧
                      move.isPlain = true ∧ move.standing? (.hardCap .precision) = some 4 ∧
                      move.interval = 2 ∧ Untouched (.hardCap .precision) ⟨1⟩ after s₂) ∧
                    s.now.count < other.2.count ∧ other.1.isPlain = true ∧
                      other.1.standing? (.hardCap .heat) = some 3 ∧ other.2 ≠ s₂.begun.now)) =
      some true := by
    decide +kernel
  obtain ⟨s, success, ran⟩ := toOption_bind_eq_some.mp ran
  obtain ⟨s₁, first, ran⟩ := toOption_bind_eq_some.mp ran
  obtain ⟨s₂, second, ran⟩ := toOption_bind_eq_some.mp ran
  obtain ⟨held, holds, ran⟩ := toOption_bind_eq_some.mp ran
  obtain ⟨here, early, ran⟩ := toOption_bind_eq_some.mp ran
  obtain ⟨after, done, ran⟩ := toOption_bind_eq_some.mp ran
  obtain ⟨gremlin, living, ran⟩ := Option.bind_eq_some_iff.mp ran
  obtain ⟨move, current, ran⟩ := Option.bind_eq_some_iff.mp ran
  obtain ⟨⟨other, tick⟩, has, ran⟩ := Option.map_eq_some_iff.mp ran
  obtain ⟨⟨ids, due, plain, covers, interval, untouched⟩, later, plain', covers', apart⟩ :=
    of_decide_eq_true ran
  have turn : s.FiringTurn ⟨1⟩ here := ⟨held, holds, [⟨0⟩], [], ids, early⟩
  obtain ⟨_, _, lasts, sustained⟩ := timed_overlays_last ((Reachable.fresh 7).runAll success)
  refine ⟨s, s₁, s₂, success, first, second, ?_, ?_⟩
  · have stays := (lasts ⟨1⟩ gremlin move here after ⟨turn, living, current, due⟩ done).2 s₁ s₂
      [.advance] (.hardCap .precision) 4 first second plain covers untouched
    rw [interval] at stays
    exact stays
  · have both : Operation.runAll s [.advance, .advance] = .ok s₂ :=
      Operation.runAll_cons.mpr ⟨s₁, first, second⟩
    rcases sustained ⟨0⟩ (.hardCap .heat) [.advance, .advance] s₂ .advance s₂.begun other tick 3
      (by simp [Operation.Leaves]) both (by simp [Operation.Leaves]) .begun has later plain'
      covers' with inForce | ⟨now, _⟩
    · exact inForce
    · exact absurd now apart

end Encounter

end Gremlin
