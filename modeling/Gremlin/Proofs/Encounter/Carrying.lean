import Gremlin.Proofs.Encounter.Notices
import Gremlin.Proofs.Encounter.Stays

set_option autoImplicit false

/-!
What has been told of a gremlin is kept by all that happens to it and around it: by what others do,
by its birth and its entries, by the ticks it lives through, and by its death.
-/

namespace Gremlin

namespace Encounter

/-! ### Boards with known gremlins -/

/-- Everyone on the board is of a template of the bestiary, and remembers caps alone. -/
structure Peopled (bestiary : Bestiary) (s : Encounter) : Prop where
  stocked : Stocked bestiary s
  caps : s.CapsSound

namespace Peopled

variable {bestiary : Bestiary} {id : InstanceId} {s s' : Encounter}

theorem arranged (peopled : Peopled bestiary s) : Arranged s :=
  ⟨peopled.stocked.orderly.numbered, peopled.caps⟩

theorem enlisted (peopled : Peopled bestiary s) {gremlin : Instance}
    (found : s.board.get? id = some gremlin) : Enlisted id s :=
  ⟨peopled.stocked.orderly.numbered.below id (Board.mem_ids_iff.mpr ⟨gremlin, found⟩),
    peopled.arranged⟩

theorem effected (peopled : Peopled bestiary s) (effected : Effected s s') : Peopled bestiary s' := by
  have phase : Phase (fun _ track track' => track' = track) [] s s' :=
    effected.phase peopled.stocked.orderly
  exact ⟨peopled.stocked.effected effected, phase.caps peopled.caps⟩

theorem fireMove (peopled : Peopled bestiary s) (success : s.fireMove id = .ok s') :
    Peopled bestiary s' :=
  ⟨peopled.stocked.fireMove success,
    (fireMove_phase peopled.stocked.orderly success).caps peopled.caps⟩

theorem changeMove (peopled : Peopled bestiary s) (success : s.changeMove id = .ok s') :
    Peopled bestiary s' :=
  ⟨peopled.stocked.changeMove success,
    (changeMove_phase peopled.stocked.orderly success).caps peopled.caps⟩

/-- In a closed bestiary there is a template for each summon that names one. -/
theorem answered (closed : Bestiary.Closed bestiary.templates) (peopled : Peopled bestiary s)
    {target : String} (offers : s.Offers id (.named target)) :
    (s.bestiary.get? target).isSome = true := by
  obtain ⟨heir, member, named⟩ := peopled.stocked.heir closed offers
  rw [peopled.stocked.known, Bestiary.get?, List.find?_isSome]
  exact ⟨heir, member, decide_eq_true named⟩

end Peopled

/-! ### What others do -/

theorem Resolves.carries {id : InstanceId} {all : List Resolution} {s s' : Encounter}
    (resolves : Resolves id [] all s s') : Carries id all s s' :=
  (resolves.continues fun _ _ => rfl).carries

/-- What all calls carry, going over a list does. -/
theorem Carries.collect {α : Type} {id : InstanceId} {s s' : Encounter} {motive : Encounter → Prop}
    {act : Encounter → α → Except EncounterError Encounter}
    {yields : Encounter → α → List Resolution} {arguments : List α}
    (each : ∀ {here argument next}, argument ∈ arguments → motive here →
      act here argument = .ok next → Carries id (yields here argument) here next ∧ motive next)
    (start : motive s) (success : arguments.foldlM act s = .ok s') :
    Carries id (collect act yields arguments s) s s' ∧ motive s' := by
  refine collect_induction motive (fun _ given here => Carries id given here s' ∧ motive s')
    (fun member so_far acted => (each member so_far acted).2)
    (fun ended => ⟨(Resolves.refl s').carries, ended⟩) ?_ start success
  intro here argument next rest given member so_far acted others
  exact ⟨(each member so_far acted).1.trans others.1, others.2⟩

section Nested

variable {bestiary : Bestiary} {id : InstanceId}
  {enter : InstanceId → Encounter → Except EncounterError Encounter}
  {opens : InstanceId → Encounter → List Resolution}
  (inner : ∀ {newcomer welcomed entered}, newcomer ≠ id → Peopled bestiary welcomed →
    enter newcomer welcomed = .ok entered → Carries id (opens newcomer welcomed) welcomed entered)
  (own : ∀ {welcomed entered}, Enlisted id welcomed → Peopled bestiary welcomed →
    enter id welcomed = .ok entered →
    Resolves id ((welcomed.held? id).elim [] entryEffects) (opens id welcomed) welcomed entered)
  {source : Option InstanceId} {duration : Duration} {effect : Effect} {s s' : Encounter}

include inner own

/-- An effect of others, and all it leads to: the gremlin may be born by it. -/
theorem resolve_carries (peopled : Peopled bestiary s) (other : source ≠ some id)
    (success : s.applyWith enter source duration effect = .ok s') :
    Carries id (resolve opens source s effect) s s' := by
  have nothing : ∀ effect, doneBy id source [effect] = [] := fun effect => doneBy_other other [effect]
  cases effect with
  | summon spec =>
    rw [resolve, Effect.summonSpec?, Option.bind_some]
    rcases summon_cases success with ⟨summoner, rfl, none, rfl⟩ | ⟨after, drawn, none, rfl⟩ |
      ⟨after, template, allowed, drawn, joins, entered⟩
    · rw [none]
      have away : Resolves id _ _ s (s.turnAway summoner spec) := turnAway_resolves summoner spec
      exact (nothing _ ▸ away).carries
    · rw [none]
      exact (nothing _ ▸ missing_resolves (fun _ own => absurd own other) drawn).carries
    · rw [joins]
      have welcomed := peopled.effected (welcome_effected (s.summonPosition source) allowed drawn)
      obtain ⟨journal, clock, board⟩ := drawn_same drawn
      by_cases newborn : (⟨s.board.next⟩ : InstanceId) = id
      · subst newborn
        have noted : Resolves ⟨s.board.next⟩ (doneBy ⟨s.board.next⟩ source [.summon spec])
            [⟨source, .summon spec, s.now, s.journal.size⟩] s s :=
          .one (.refl s) fun _ => by
            rw [nothing, written_of_journal_eq rfl]
            rfl
        have born : (after.welcome template (s.summonPosition source) source).board.get?
            ⟨s.board.next⟩ = some (Instance.spawn ⟨s.board.next⟩ template after.now source) := by
          rw [← board]
          exact Board.Numbered.get?_spawn_same template after.now _ source
            (board.symm ▸ peopled.stocked.orderly.numbered)
        have enlisted := welcomed.enlisted born
        refine (nothing _ ▸ noted).carries.trans ?_
        refine .enters (welcome_journal drawn template _ source) (congrArg Clock.now clock)
          (if_pos rfl) ?_ born rfl enlisted.born ?_ (own enlisted welcomed entered)
        · rw [← board]
          exact Nat.le_succ _
        · exact fun old => absurd old (Nat.lt_irrefl _)
      · have first := joins_resolves newborn drawn
        exact (nothing _ ▸ first).carries.trans (inner newborn welcomed entered)
  | reinstateConstraints =>
    cases success
    exact (nothing _ ▸ reinstate_resolves peopled.caps).carries
  | _ =>
    cases success
    exact (nothing _ ▸ applyPlain_resolves rfl (by rintro ⟨⟩) s).carries

end Nested

section Others

variable {bestiary : Bestiary} {id other : InstanceId} {depth : Nat} {batch : Batch}
  {s s' : Encounter}

theorem Batch.collects_carries {opens : Encounter → InstanceId → Encounter → List Resolution}
    (inner : ∀ {here newcomer welcomed entered}, newcomer ≠ id → Peopled bestiary welcomed →
      enterPassive (batch.depth here) newcomer welcomed = .ok entered →
      Carries id (opens here newcomer welcomed) welcomed entered)
    (own : ∀ {here welcomed entered}, Enlisted id welcomed → Peopled bestiary welcomed →
      enterPassive (batch.depth here) id welcomed = .ok entered →
      Resolves id ((welcomed.held? id).elim [] entryEffects) (opens here id welcomed) welcomed
        entered)
    (peopled : Peopled bestiary batch.start) (apart : batch.doer ≠ id)
    (success : batch.run = .ok s') : Carries id (batch.collects opens) batch.start s' := by
  refine (Carries.collect (motive := Peopled bestiary) ?_ peopled success).1
  intro here effect next _ peopled done
  exact ⟨resolve_carries inner own peopled (fun same => apart (Option.some.inj same)) done,
    peopled.effected (Batch.does_effected done)⟩

variable (closed : Bestiary.Closed bestiary.templates)

include closed

/-- A gremlin of a closed bestiary does the effects of its entry. -/
theorem Peopled.opens (enlisted : Enlisted id s) (peopled : Peopled bestiary s)
    (success : enterPassive depth id s = .ok s') :
    Resolves id ((s.held? id).elim [] entryEffects) (openings depth id s) s s' :=
  own_openings_resolves enlisted (fun _ _ held member =>
    peopled.answered closed (offers_of_entryEffects held member)) success

/-- What others do on joining the board or entering a move, and all that it leads to. By induction on
how deep the openings may still be nested. -/
theorem openings_carries (apart : other ≠ id) (peopled : Peopled bestiary s)
    (success : enterPassive depth other s = .ok s') :
    Carries id (openings depth other s) s s' := by
  induction depth generalizing other s s' with
  | zero => cases success
  | succ depth ih =>
    rw [enterPassive] at success
    rw [openings, opening?]
    split at success
    · rename_i move passive
      rw [passive]
      have ran : Batch.run ⟨other, .passive, entryEffects move, s, fun _ => depth⟩ = .ok s' := success
      exact Batch.collects_carries ih (fun enlisted peopled => peopled.opens closed enlisted) peopled
        apart ran
    · rename_i active
      cases success
      rw [active]
      exact (Resolves.refl s).carries

/-- What others do in a batch, and all that it leads to. -/
theorem Batch.carries (peopled : Peopled bestiary batch.start) (apart : batch.doer ≠ id)
    (success : batch.run = .ok s') : Carries id batch.resolutions batch.start s' :=
  Batch.collects_carries (fun apart => openings_carries closed apart)
    (fun enlisted peopled => peopled.opens closed enlisted) peopled apart success

end Others

/-! ### Single lines -/

section Lines

variable {id : InstanceId} {s s' : Encounter} (next : s.board.next ≤ s'.board.next)
  (place : (s'.board.get? id).map Instance.place = (s.board.get? id).map Instance.place)

include next place

theorem Continues.silent (same : s'.journal = s.journal) : Continues id [] s s' := by
  have none := written_of_journal_eq same
  refine ⟨next, place, ⟨[], by rw [same, List.append_nil]⟩, ?_, List.forall_mem_nil _, fun _ _ => ?_⟩
  · rw [none]
    exact List.forall_mem_nil _
  · rw [none]
    exact ⟨rfl, List.forall_mem_nil _, List.forall_mem_nil _⟩

/-- A line that neither brings the gremlin into a move nor fells it; while a passive move is held, it
is not of a tick, nor does it tell what the gremlin has done. -/
theorem Continues.line {event : Event}
    (journal : s'.journal.toList = s.journal.toList ++ [⟨s.now, event⟩])
    (entry : event.enters? id = none) (fells : event.fells? ≠ some id)
    (told : s.held? id = none ∨
      event.tiding? id = none ∧ event.isTick = false ∧ ∀ index, event ≠ .moveFired id index) :
    Continues id [] s s' := by
  have one := written_of_eq journal
  refine ⟨next, place, ⟨_, journal.symm⟩, ?_, List.forall_mem_nil _, fun move held => ?_⟩
  · rw [one]
    exact List.forall_mem_singleton.mpr ⟨entry, fells⟩
  · rcases told with idle | ⟨silent, still, unfired⟩
    · rw [idle] at held
      cases held
    · rw [one]
      refine ⟨?_, List.forall_mem_singleton.mpr silent, List.forall_mem_singleton.mpr unfired⟩
      have ticks : ticksIn [⟨s.now, event⟩] = [] := by
        rw [ticksIn, List.filter_cons_of_neg (by rw [still]; exact Bool.false_ne_true)]
        rfl
      rw [ticks]
      rfl

omit next place in
theorem Carries.record {event : Event} (entry : event.enters? id = none)
    (fells : event.fells? ≠ some id)
    (told : s.held? id = none ∨
      event.tiding? id = none ∧ event.isTick = false ∧ ∀ index, event ≠ .moveFired id index) :
    Carries id [] s (s.record event) := by
  have line : Continues id [] s (s.record event) :=
    .line (Nat.le_refl _) rfl (Array.toList_push ..) entry fells told
  exact line.carries

end Lines

/-! ### Turns -/

section Turns

variable {id other : InstanceId} {s s' : Encounter}

/-- One gremlin alone is changed, but not in what matters here. -/
theorem Sits.of_touched (touched : Touched other s s') (writes : Writes (·.Beside id) s s')
    (own : id = other →
      (s'.board.get? id).map Instance.station = (s.board.get? id).map Instance.station) :
    Sits id s s' := by
  refine ⟨writes.now_eq, touched.bestiary, Nat.le_of_eq touched.next.symm, fun arranged => ?_, ?_,
    writes.journal_kept, fun line member => writes.mem_written member⟩
  · exact ⟨arranged.numbered.of_ids_eq touched.ids (Nat.le_of_eq touched.next.symm),
      touched.caps arranged.caps⟩
  · by_cases same : id = other
    · exact own same
    · rw [← Instance.map_station_bare, touched.bare id same, Instance.map_station_bare]

theorem Sits.modify {change : Instance → Instance} {gremlin : Instance}
    (keeps : ∀ gremlin : Instance, gremlin.id = other → (change gremlin).id = other)
    (found : s.board.get? other = some gremlin)
    (caps : (change gremlin).installedCaps = gremlin.installedCaps)
    (same : (change gremlin).station = gremlin.station) : Sits id s (s.modify other change) := by
  refine .of_touched (.modify change keeps found caps) (.modify s other change) ?_
  rintro rfl
  rw [get?_modify change keeps found, found, Option.map_some, Option.map_some, same]

/-- What changes without a line being written. -/
theorem Sits.resolves (sits : Sits id s s') (same : s'.journal = s.journal) :
    Resolves id [] [] s s' :=
  .quiet sits fun line member => by
    rw [written_of_journal_eq same] at member
    cases member

theorem held?_of_place (same : (s'.board.get? id).map Instance.place =
    (s.board.get? id).map Instance.place) : s'.held? id = s.held? id := by
  have moves : ∀ found : Option Instance, found.bind (·.passiveMove?) =
      (found.map Instance.place).bind fun at_ => (at_.1.moves[at_.2]?).filter Move.isPassive := by
    intro found
    cases found <;> rfl
  rw [held?, held?, moves, same, ← moves]

/-- A gremlin holds its move: it gets ready, and does what a passive one goes on doing. -/
theorem holdMove_resolves (success : s.holdMove other = .ok s') :
    Resolves id (doneBy id (some other) ((s.hold? other).elim [] Batch.effects))
      (resolvedIn (s.hold? other)) s s' := by
  rw [holdMove, ifAlive_eq] at success
  rw [hold?]
  split at success
  · rename_i gremlin living
    have found := (get?_of_living? living).1
    have regenerated : Sits id s (s.modify other (·.regenerate)) :=
      .of_undisturbed (regenerate_undisturbed s other) (.modify s other _)
    have present := get?_modify (·.regenerate) (fun other => (regenerate_id other).trans) found
    rw [living, Option.bind_some]
    dsimp only at success
    split at success
    · rename_i move passive
      have counted : Sits id s ((s.modify other (·.regenerate)).modify other (·.countTrigger)) :=
        regenerated.trans (.modify (fun _ named => named) present rfl rfl)
      rw [passive, Option.map_some]
      have ran : Batch.run ⟨other, .passive, continuousEffects move, _, nesting⟩ = .ok s' := success
      exact (counted.resolves rfl).trans
        (Batch.resolves_continuous (fun _ member => (List.mem_filter.mp member).2) ran)
    · rename_i active
      cases success
      rw [active, Option.map_none]
      exact doneBy_nil.symm ▸ regenerated.resolves rfl
  · rename_i absent
    cases success
    rw [absent]
    exact doneBy_nil.symm ▸ .refl s

/-- Who does nothing in its turn, and how one that fires gets ready. -/
theorem fireMove_cases (success : s.fireMove other = .ok s') :
    (s.fire? other = none ∧ ∀ id, Resolves id [] [] s s') ∨
    ∃ gremlin move aged, s.board.get? other = some gremlin ∧ s.held? other = none ∧
      gremlin.currentMove? = some move ∧ (∀ id, Resolves id [] [] s aged) ∧
      s.fire? other = some ⟨other, .ticks move.interval, move.effects,
        aged.record (.moveFired other gremlin.move), nesting⟩ ∧
      (aged.record (.moveFired other gremlin.move)).applyEffects (some other)
        (.ticks move.interval) move.effects = .ok s' := by
  rw [fireMove, ifAlive_eq] at success
  split at success
  · rename_i gremlin living
    have found := (get?_of_living? living).1
    have older := get?_modify (·.age) (fun _ named => named) found
    have aged : ∀ id, Sits id s (s.modify other (·.age)) := fun id =>
      .modify (fun _ named => named) found rfl rfl
    rw [fire?, living, Option.bind_some]
    dsimp only at success
    split at success
    · rename_i move current
      rw [current, Option.filter_some]
      split at success
      · rename_i fires
        have counted : ∀ id, Sits id s ((s.modify other (·.age)).modify other (·.countTrigger)) :=
          fun id => (aged id).trans (.modify (fun _ named => named) older rfl rfl)
        refine .inr ⟨gremlin, move, _, found, ?_, current, fun id => (counted id).resolves rfl, ?_,
          success⟩
        · -- a move that fires is not passive
          have same : gremlin.age.currentMove? = some move := current
          rw [Instance.fires, same, Bool.and_eq_true, Bool.not_eq_true'] at fires
          rw [held?_of_get? found, Instance.passiveMove?, current, Option.filter_some, fires.1,
            if_neg Bool.false_ne_true]
        · rw [if_pos fires]
          rfl
      · rename_i waits
        cases success
        rw [if_neg waits]
        exact .inl ⟨rfl, fun id => (aged id).resolves rfl⟩
    · rename_i moveless
      cases success
      rw [moveless]
      exact .inl ⟨rfl, fun id => (aged id).resolves rfl⟩
  · rename_i absent
    cases success
    rw [fire?, absent]
    exact .inl ⟨rfl, fun id => .refl s⟩

/-- The effects that are done when a gremlin is made to enter a move. -/
def entryResolutions (s : Encounter) (id : InstanceId) (index : Nat) : List Resolution :=
  (s.board.get? id).elim [] fun _ => openings s.nesting id (s.entered id index)

theorem releasePassive_resolves (s : Encounter) (id other : InstanceId) :
    Resolves id [] [] s (s.releasePassive other) :=
  (Sits.of_undisturbed (releasePassive_undisturbed s other) (.of_journal_eq rfl rfl rfl)).resolves rfl

end Turns

section Closed

variable {bestiary : Bestiary} (closed : Bestiary.Closed bestiary.templates) {id other : InstanceId}
  {s s' : Encounter}

theorem entered_touched {gremlin : Instance} (found : s.board.get? other = some gremlin)
    (index : Nat) : Touched other s (s.entered other index) := by
  have stays : (s.releasePassive other).board.get? other = some gremlin := found
  exact (((releasePassive_undisturbed s other).touched other).trans
    (Touched.modify (·.enterMove index) (fun _ named => named) stays rfl)).trans
      (.record (.moveEntered other index) rfl _)

theorem Peopled.entered (peopled : Peopled bestiary s) {gremlin : Instance}
    (found : s.board.get? other = some gremlin) (index : Nat) :
    Peopled bestiary (s.entered other index) :=
  ⟨peopled.stocked.entered found index, (entered_touched found index).caps peopled.caps⟩

theorem Touched.place (touched : Touched other s s') (apart : id ≠ other) :
    (s'.board.get? id).map Instance.place = (s.board.get? id).map Instance.place := by
  rw [← Instance.map_place_bare, touched.bare id apart, Instance.map_place_bare]

theorem decided_sits {gremlin : Instance} (found : s.board.get? other = some gremlin) :
    Sits id s (s.decided other gremlin) := by
  have caps : (gremlin.nextMove s.generator).2.1.installedCaps = gremlin.installedCaps :=
    gremlin.nextMove_view (·.installedCaps) _ fun _ => rfl
  have station : (gremlin.nextMove s.generator).2.1.station = gremlin.station :=
    gremlin.nextMove_view (·.station) _ fun _ => rfl
  have decides : Sits id s (s.modify other fun _ => (gremlin.nextMove s.generator).2.1) :=
    .modify (fun _ _ => nextMove_id found _) found caps station
  exact decides.trans (.of_undisturbed (Deed.draw _ _).undisturbed (.of_journal_eq rfl rfl rfl))

include closed

/-- What others do, or the gremlin itself while it holds no passive move. -/
theorem Batch.Grounded.carries {batch : Batch} (grounded : batch.Grounded bestiary)
    (caps : batch.start.CapsSound)
    (idle : batch.doer = id → id.value < batch.start.board.next ∧ batch.start.held? id = none)
    (success : batch.run = .ok s') : Carries id batch.resolutions batch.start s' := by
  have peopled : Peopled bestiary batch.start := ⟨grounded.stocked, caps⟩
  by_cases own : batch.doer = id
  · have resolves := Batch.resolves ⟨(idle own).1, peopled.arranged⟩
      (fun target own member => peopled.answered closed (own ▸ grounded.offers _ member)) success
    refine (resolves.continues fun move held => ?_).carries
    rw [(idle own).2] at held
    cases held
  · exact Batch.carries closed peopled own success

/-- Somebody fires, or does nothing. -/
theorem fireMove_carries (peopled : Peopled bestiary s) (success : s.fireMove other = .ok s') :
    Carries id (resolvedIn (s.fire? other)) s s' := by
  rcases fireMove_cases success with ⟨rests, resolves⟩ |
    ⟨gremlin, move, aged, found, active, current, ready, fires, done⟩
  · rw [rests]
    exact (resolves id).carries
  · rw [fires]
    have sits := (ready id).sits
    have idle : other = id → id.value < aged.board.next ∧ aged.held? id = none := by
      rintro rfl
      have same : aged.held? other = s.held? other :=
        held?_of_place ((ready other).continues fun _ _ => rfl).place
      exact ⟨(sits.enlisted (peopled.enlisted found)).born, same.trans active⟩
    have fired : Carries id [] aged (aged.record (.moveFired other gremlin.move)) := by
      refine .record rfl nofun ?_
      by_cases own : other = id
      · exact .inl (idle own).2
      · exact .inr ⟨rfl, rfl, fun index same => own (Event.moveFired.inj same).1⟩
    have done := (fire?_grounded peopled.stocked fires).carries closed
      (sits.arranged peopled.arranged).caps idle done
    exact ((ready id).carries.trans fired).trans done

/-- Somebody enters a move. -/
theorem enterMove_carries {index : Nat} (peopled : Peopled bestiary s)
    (success : s.enterMove other index = .ok s') :
    Carries id (s.entryResolutions other index) s s' := by
  rw [entryResolutions]
  cases enterMove_entersMove success with
  | absent absent =>
    rw [absent]
    exact (s.releasePassive_resolves id other).carries
  | enters gremlin _ found done =>
    rw [found]
    have ready := peopled.entered found index
    have journal : (s.entered other index).journal.toList =
        s.journal.toList ++ [⟨s.now, .moveEntered other index⟩] := Array.toList_push ..
    have entered : (s.entered other index).board.get? other = some (gremlin.enterMove index) :=
      get?_modify (·.enterMove index) (fun _ named => named) found
    by_cases own : other = id
    · subst own
      have enlisted := ready.enlisted entered
      have entry : (Event.moveEntered other index).enters? other = some index := if_pos rfl
      exact .enters journal rfl entry (Nat.le_refl _) entered rfl enlisted.born
        (fun _ => ⟨gremlin, found, rfl⟩) (ready.opens closed enlisted done)
    · have entry : (Event.moveEntered other index).enters? id = none := if_neg own
      have same : ((s.entered other index).board.get? id).map Instance.place =
          (s.board.get? id).map Instance.place :=
        (entered_touched found index).place fun same => own same.symm
      have line : Continues id [] s (s.entered other index) :=
        .line (Nat.le_refl _) same journal entry nofun (.inr ⟨rfl, rfl, nofun⟩)
      exact line.carries.trans (openings_carries closed own ready done)

/-- Somebody changes its move, or does not. -/
theorem changeMove_carries (peopled : Peopled bestiary s) (success : s.changeMove other = .ok s') :
    Carries id (resolvedIn (s.change? other)) s s' := by
  rw [changeMove, ifAlive_eq] at success
  rw [change?]
  split at success
  · rename_i gremlin living
    have found := (get?_of_living? living).1
    rw [living, Option.bind_some]
    have decides : Sits id s (s.decided other gremlin) := decided_sits found
    dsimp only at success
    split at success
    · rename_i index next
      rw [next, Option.bind_some]
      have decided : Peopled bestiary (s.decided other gremlin) :=
        ⟨peopled.stocked.decided found, (decides.arranged peopled.arranged).caps⟩
      have enters : Carries id ((s.decided other gremlin).entryResolutions other index) _ s' :=
        enterMove_carries closed decided success
      have resolved : (s.decided other gremlin).entryResolutions other index =
          resolvedIn (opening? s.nesting other (s.entering other gremlin index)) := by
        rw [entryResolutions, get?_decided found]
        exact openings_eq ..
      exact resolved ▸ (decides.resolves rfl).carries.trans enters
    · rename_i stays
      cases success
      rw [stays]
      exact (decides.resolves rfl).carries
  · rename_i absent
    cases success
    rw [absent]
    exact (Resolves.refl s).carries

end Closed

end Encounter

end Gremlin
