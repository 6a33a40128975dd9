import Gremlin.Proofs.Encounter.Journal
import Gremlin.Proofs.Encounter.Stocks

set_option autoImplicit false

/-!
Who does effects, and when. In an operation gremlins do effects in batches: when they join the board,
in their turns of a tick, and when they are buried. Whoever is summoned by an effect of a batch may
do a batch of its own before the next effect.
-/

namespace Gremlin

open Gremlin.Random (Generator)

/-- The gremlin whose summon an event tells of. -/
def Event.summoner? : Event → Option InstanceId
  | summoned summoner _ => summoner
  | summonBlocked id _ => some id
  | _ => none

theorem Event.summoner?_of_aside {event : Event} (aside : event.isAside = true) :
    event.summoner? = none := by
  cases event <;> first | rfl | cases aside

namespace Encounter

/-! ### What is logged -/

/-- From `s` to `s'` nothing is lost that was written. -/
def Grows (s s' : Encounter) : Prop := s.journal.toList <+: s'.journal.toList

theorem Grows.trans {s s' s'' : Encounter} (first : Grows s s') (second : Grows s' s'') :
    Grows s s'' :=
  List.IsPrefix.trans first second

/-- From `s` to `s'` events of a kind are logged, and nothing is lost. -/
def Logs (kind : Event → Prop) (s s' : Encounter) : Prop :=
  ∃ lines, s'.journal.toList = s.journal.toList ++ lines ∧ ∀ line ∈ lines, kind line.event

namespace Logs

variable {kind : Event → Prop} {s s' s'' : Encounter}

theorem of_journal_eq (same : s'.journal = s.journal) : Logs kind s s' :=
  ⟨[], by rw [same, List.append_nil], List.forall_mem_nil _⟩

theorem of_writes (writes : Writes kind s s') : Logs kind s s' := by
  obtain ⟨lines, journal, told⟩ := writes.lines
  exact ⟨lines, journal, fun line member => (told line member).2⟩

theorem trans (first : Logs kind s s') (second : Logs kind s' s'') : Logs kind s s'' := by
  obtain ⟨early, journal, told⟩ := first
  obtain ⟨late, journal', told'⟩ := second
  exact ⟨early ++ late, by rw [journal', journal, List.append_assoc],
    List.forall_mem_append.mpr ⟨told, told'⟩⟩

theorem mono {wider : Event → Prop} (logs : Logs kind s s')
    (among : ∀ event, kind event → wider event) : Logs wider s s' := by
  obtain ⟨lines, journal, told⟩ := logs
  exact ⟨lines, journal, fun line member => among _ (told line member)⟩

theorem grows (logs : Logs kind s s') : Grows s s' := by
  obtain ⟨lines, journal, _⟩ := logs
  exact ⟨lines, journal.symm⟩

end Logs

/-- From `s` to `s'` no summon is logged, and listeners are told nothing. -/
structure Idle (s s' : Encounter) : Prop where
  notices : s'.notices = s.notices
  logs : Logs (·.summoner? = none) s s'

namespace Idle

variable {s s' s'' : Encounter}

theorem of_eq (notices : s'.notices = s.notices) (journal : s'.journal = s.journal) : Idle s s' :=
  ⟨notices, .of_journal_eq journal⟩

theorem record (same : Idle s s') {event : Event} (silent : event.summoner? = none) :
    Idle s (s'.record event) := by
  refine ⟨same.notices, same.logs.trans ⟨[⟨s'.now, event⟩], Array.toList_push .., ?_⟩⟩
  exact List.forall_mem_singleton.mpr silent

theorem trans (first : Idle s s') (second : Idle s' s'') : Idle s s'' :=
  ⟨second.notices.trans first.notices, first.logs.trans second.logs⟩

end Idle

/-! ### Going over a list -/

/-- Going over a list, from `s` on, comes to one of its elements in the state `here`. -/
def ComesTo {α : Type} (act : Encounter → α → Except EncounterError Encounter) (arguments : List α)
    (s : Encounter) (argument : α) (here : Encounter) : Prop :=
  ∃ before after, arguments = before ++ argument :: after ∧ before.foldlM act s = .ok here

section ComesTo

variable {α : Type} {act : Encounter → α → Except EncounterError Encounter} {arguments : List α}
  {s here s' : Encounter} {argument : α}

theorem foldlM_grows (each : ∀ {s argument s'}, act s argument = .ok s' → Grows s s')
    (success : arguments.foldlM act s = .ok s') : Grows s s' :=
  foldlM_preserves (motive := Grows s) arguments
    (fun _ _ _ _ so_far stepped => so_far.trans (each stepped)) (List.prefix_refl _) success

/-- What each call keeps that going over a list comes to is kept all the way. -/
theorem foldlM_preserves_in_turn {motive : Encounter → Prop}
    (kept : ∀ here argument next, ComesTo act arguments s argument here → motive here →
      act here argument = .ok next → motive next)
    (initial : motive s) (success : arguments.foldlM act s = .ok s') : motive s' := by
  have onwards : ∀ after before here, arguments = before ++ after →
      before.foldlM act s = .ok here → motive here → after.foldlM act here = .ok s' →
      motive s' := by
    intro after
    induction after with
    | nil =>
      rintro before here rfl early so_far done
      cases done
      exact so_far
    | cons argument rest ih =>
      rintro before here rfl early so_far late
      rw [List.foldlM_cons] at late
      obtain ⟨next, acted, late⟩ := bind_eq_ok.mp late
      refine ih (before ++ [argument]) next (List.append_cons ..) ?_ ?_ late
      · rw [List.foldlM_append, early]
        exact (List.foldlM_cons ..).trans (bind_eq_ok.mpr ⟨next, acted, rfl⟩)
      · exact kept here argument next ⟨before, rest, rfl, early⟩ so_far acted
  exact onwards arguments [] s rfl rfl initial success

theorem ComesTo.mem (comes : ComesTo act arguments s argument here) : argument ∈ arguments := by
  obtain ⟨before, after, rfl, _⟩ := comes
  exact List.mem_append_right _ List.mem_cons_self

/-- What every call keeps still holds when going over a list comes to an element. -/
theorem ComesTo.preserves {motive : Encounter → Prop}
    (kept : ∀ state argument next, argument ∈ arguments → motive state →
      act state argument = .ok next → motive next)
    (initial : motive s) (comes : ComesTo act arguments s argument here) : motive here := by
  obtain ⟨before, after, rfl, early⟩ := comes
  exact foldlM_preserves before
    (fun state argument next member => kept state argument next (List.mem_append_left _ member))
    initial early

/-- If going over a list succeeds, so does the call for each element it comes to, and the rest. -/
theorem ComesTo.rest (comes : ComesTo act arguments s argument here)
    (success : arguments.foldlM act s = .ok s') :
    ∃ (next : Encounter) (after : List α), act here argument = .ok next ∧
      after.foldlM act next = .ok s' := by
  obtain ⟨before, after, rfl, early⟩ := comes
  rw [List.foldlM_append, early] at success
  obtain ⟨next, acted, late⟩ := bind_eq_ok.mp ((List.foldlM_cons ..).symm.trans success)
  exact ⟨next, after, acted, late⟩

/-- What the call for an element it comes to writes is kept. -/
theorem ComesTo.goes_on (each : ∀ {s argument s'}, act s argument = .ok s' → Grows s s')
    (comes : ComesTo act arguments s argument here)
    (success : arguments.foldlM act s = .ok s') :
    ∃ next, act here argument = .ok next ∧ Grows next s' := by
  obtain ⟨next, after, acted, late⟩ := comes.rest success
  exact ⟨next, acted, foldlM_grows each late⟩

end ComesTo

/-! ### Batches of effects -/

/-- Effects that a gremlin does one after another. -/
structure Batch where
  doer : InstanceId
  duration : Duration
  effects : List Effect
  start : Encounter
  /-- How deep the openings of those it summons may be nested. -/
  depth : Encounter → Nat

namespace Batch

/-- Does an effect of a batch. -/
def does (batch : Batch) (s : Encounter) (effect : Effect) : Except EncounterError Encounter :=
  s.applyWith (enterPassive (batch.depth s)) (some batch.doer) batch.duration effect

/-- Does all effects of a batch. -/
def run (batch : Batch) : Except EncounterError Encounter :=
  batch.effects.foldlM batch.does batch.start

/-- Doing a batch comes to an effect in the state `here`. -/
def Reaches (batch : Batch) (effect : Effect) (here : Encounter) : Prop :=
  ComesTo batch.does batch.effects batch.start effect here

variable {batch : Batch} {effect : Effect} {s s' : Encounter}

theorem does_unfolds {offered : SummonSpec → Prop}
    (among : ∀ spec, effect = .summon spec → offered spec) (success : batch.does s effect = .ok s') :
    Unfolds offered (some batch.doer) s s' :=
  applyWith_unfolds enterPassive_unfolds among success

theorem does_effected (success : batch.does s effect = .ok s') : Effected s s' := by
  have unfolds : Unfolds (fun _ => True) (some batch.doer) s s' :=
    does_unfolds (fun _ _ => trivial) success
  exact unfolds.effected

theorem does_grows (success : batch.does s effect = .ok s') : Grows s s' := by
  have unfolds : Unfolds (fun _ => True) (some batch.doer) s s' :=
    does_unfolds (fun _ _ => trivial) success
  exact unfolds.writes.journal_kept

/-- A batch is of effects that its doer's template can do, over a board with known gremlins. -/
structure Grounded (bestiary : Bestiary) (batch : Batch) : Prop where
  stocked : Stocked bestiary batch.start
  offers : ∀ spec, .summon spec ∈ batch.effects → batch.start.Offers batch.doer spec

/-- When a grounded batch comes to a summon, its doer is still there to do it. -/
theorem Grounded.reaches {bestiary : Bestiary} (grounded : Grounded bestiary batch)
    {spec : SummonSpec} (reaches : batch.Reaches (.summon spec) s) :
    Stocked bestiary s ∧ s.Offers batch.doer spec :=
  reaches.preserves
    (motive := fun here => Stocked bestiary here ∧ here.Offers batch.doer spec)
    (fun _ _ _ _ so_far done => ⟨so_far.1.effected (does_effected done),
      so_far.2.effected so_far.1.orderly (does_effected done)⟩)
    ⟨grounded.stocked, grounded.offers spec reaches.mem⟩

/-- A batch is done in full, and what it writes is in the journal of `s'`. -/
def Completed (batch : Batch) (s' : Encounter) : Prop :=
  ∃ last, batch.run = .ok last ∧ Grows last s'

end Batch

/-! ### The batches of a gremlin -/

/-- What a gremlin does on joining the board or on entering a move. -/
def opening? : Nat → InstanceId → Encounter → Option Batch
  | 0, _, _ => none
  | depth + 1, id, s =>
    ((s.board.get? id).bind (·.passiveMove?)).map fun move =>
      ⟨id, .passive, entryEffects move, s, fun _ => depth⟩

/-- The gremlin with an identity, if it is alive. -/
def living? (s : Encounter) (id : InstanceId) : Option Instance :=
  (s.board.get? id).filter (·.isAlive)

/-- What a gremlin does when it holds its move. -/
def hold? (s : Encounter) (id : InstanceId) : Option Batch :=
  (s.living? id).bind fun gremlin => gremlin.passiveMove?.map fun move =>
    ⟨id, .passive, move.effects.filter (·.isContinuous),
      (s.modify id (·.regenerate)).modify id (·.countTrigger), nesting⟩

/-- What a gremlin does when it fires its move. -/
def fire? (s : Encounter) (id : InstanceId) : Option Batch :=
  (s.living? id).bind fun gremlin =>
    (gremlin.currentMove?.filter fun _ => gremlin.age.fires).map fun move =>
      ⟨id, .ticks move.interval, move.effects,
        ((s.modify id (·.age)).modify id (·.countTrigger)).record (.moveFired id gremlin.move),
        nesting⟩

/-- A gremlin has just entered a move. -/
def entering (s : Encounter) (id : InstanceId) (gremlin : Instance) (index : Nat) : Encounter :=
  (({ s.modify id (fun _ => (gremlin.nextMove s.generator).2.1) with
      generator := (gremlin.nextMove s.generator).2.2 }.releasePassive id).modify id
    (·.enterMove index)).record (.moveEntered id index)

/-- A gremlin has just decided whether to change its move. -/
def decided (s : Encounter) (id : InstanceId) (gremlin : Instance) : Encounter :=
  { s.modify id (fun _ => (gremlin.nextMove s.generator).2.1) with
    generator := (gremlin.nextMove s.generator).2.2 }

/-- A gremlin is about to do the effects of its entry. -/
def entered (s : Encounter) (id : InstanceId) (index : Nat) : Encounter :=
  ((s.releasePassive id).modify id (·.enterMove index)).record (.moveEntered id index)

/-- What a gremlin does when it changes its move. -/
def change? (s : Encounter) (id : InstanceId) : Option Batch :=
  (s.living? id).bind fun gremlin => (gremlin.nextMove s.generator).1.bind fun index =>
    opening? s.nesting id (s.entering id gremlin index)

/-- What a gremlin does before it is buried. -/
def burial? (s : Encounter) (id : InstanceId) : Option Batch :=
  (s.board.get? id).map fun gremlin => ⟨id, .permanent, gremlin.template.onDeath, s, nesting⟩

/-- From `s` to `s'` a gremlin does its batch, if it has one, and nothing else that counts. -/
inductive Takes (s s' : Encounter) : Option Batch → Prop
  | acts {batch : Batch} (idle : Idle s batch.start) (success : batch.run = .ok s') :
      Takes s s' (some batch)
  | rests (idle : Idle s s') : Takes s s' none

section Takes

variable {s s' : Encounter} {id : InstanceId}

theorem ifAlive_eq (s : Encounter) (id : InstanceId)
    (act : Instance → Except EncounterError Encounter) :
    s.ifAlive id act = match s.living? id with
      | some gremlin => act gremlin
      | none => .ok s := by
  unfold ifAlive living?
  cases s.board.get? id with
  | none => rfl
  | some gremlin =>
    cases alive : gremlin.isAlive with
    | true =>
      rw [Option.filter_some_pos alive]
      exact if_pos alive
    | false =>
      rw [Option.filter_some_neg alive]
      exact if_neg (Bool.eq_false_iff.mp alive)

theorem enterPassive_takes {depth : Nat} (success : enterPassive depth id s = .ok s') :
    Takes s s' (opening? depth id s) := by
  cases depth with
  | zero => cases success
  | succ depth =>
    rw [enterPassive] at success
    rw [opening?]
    split at success
    · rename_i move passive
      rw [passive]
      exact .acts (.of_eq rfl rfl) success
    · rename_i active
      cases success
      rw [active]
      exact .rests (.of_eq rfl rfl)

/-- A gremlin that is alive has a turn, and one that is not rests. -/
theorem Takes.of_ifAlive {act : Instance → Except EncounterError Encounter}
    {turn : Instance → Option Batch} (success : s.ifAlive id act = .ok s')
    (acts : ∀ gremlin, s.living? id = some gremlin → act gremlin = .ok s' →
      Takes s s' (turn gremlin)) : Takes s s' ((s.living? id).bind turn) := by
  rw [ifAlive_eq] at success
  split at success
  · rename_i gremlin living
    rw [living, Option.bind_some]
    exact acts gremlin living success
  · rename_i absent
    cases success
    rw [absent]
    exact .rests (.of_eq rfl rfl)

theorem holdMove_takes (success : s.holdMove id = .ok s') : Takes s s' (s.hold? id) := by
  refine .of_ifAlive success fun gremlin _ acted => ?_
  dsimp only at acted
  split at acted
  · rename_i move passive
    rw [passive]
    exact .acts (.of_eq rfl rfl) acted
  · rename_i active
    cases acted
    rw [active]
    exact .rests (.of_eq rfl rfl)

theorem fireMove_takes (success : s.fireMove id = .ok s') : Takes s s' (s.fire? id) := by
  refine .of_ifAlive success fun gremlin _ acted => ?_
  dsimp only at acted
  split at acted
  · rename_i move current
    rw [current]
    split at acted
    · rename_i fires
      rw [Option.filter_some, if_pos fires]
      have older : Idle s ((s.modify id (·.age)).modify id (·.countTrigger)) := .of_eq rfl rfl
      exact .acts (older.record rfl) acted
    · rename_i waits
      cases acted
      rw [Option.filter_some, if_neg waits]
      exact .rests (.of_eq rfl rfl)
  · rename_i moveless
    cases acted
    rw [moveless]
    exact .rests (.of_eq rfl rfl)

theorem get?_of_living? {gremlin : Instance} (found : s.living? id = some gremlin) :
    s.board.get? id = some gremlin ∧ gremlin.isAlive = true :=
  Option.filter_eq_some_iff.mp found

/-- Entering a move logs the entry alone. -/
theorem entering_idle (s : Encounter) (id : InstanceId) (gremlin : Instance) (index : Nat) :
    Idle s (s.entering id gremlin index) := by
  have decides : Idle s (({ s.modify id (fun _ => (gremlin.nextMove s.generator).2.1) with
      generator := (gremlin.nextMove s.generator).2.2 }.releasePassive id).modify id
        (·.enterMove index)) := .of_eq rfl rfl
  have silent : (Event.moveEntered id index).summoner? = none := rfl
  exact decides.record silent

theorem changeMove_takes (success : s.changeMove id = .ok s') : Takes s s' (s.change? id) := by
  refine .of_ifAlive success fun gremlin living acted => ?_
  dsimp only at acted
  split at acted
  · rename_i index next
    rw [next, Option.bind_some]
    have found := (get?_of_living? living).1
    have enters : enterPassive s.nesting id (s.entering id gremlin index) = .ok s' := by
      cases enterMove_entersMove acted with
      | absent absent => cases (nextMove_touched found).2.symm.trans absent
      | enters _ _ _ done => exact done
    have takes := enterPassive_takes enters
    have entered := s.entering_idle id gremlin index
    generalize opening? s.nesting id (s.entering id gremlin index) = opening at takes
    cases takes with
    | acts idle success => exact .acts (entered.trans idle) success
    | rests idle => exact .rests (entered.trans idle)
  · rename_i stays
    cases acted
    rw [stays]
    exact .rests (.of_eq rfl rfl)

/-- Whoever is buried does its batch; then its death is written and told. -/
theorem bury_takes (success : s.bury id = .ok s') :
    (s.burial? id = none ∧ s' = s) ∨ ∃ batch last summary, s.burial? id = some batch ∧
      batch.start = s ∧ batch.run = .ok last ∧ Logs (·.summoner? = none) last s' ∧
        s'.notices = last.notices.push (.died summary last.now) := by
  unfold burial?
  rcases bury_eq_ok success with ⟨absent, rfl⟩ | ⟨gremlin, avenged, found, effects, rfl⟩
  · exact .inl ⟨by rw [absent, Option.map_none], rfl⟩
  · refine .inr ⟨⟨id, .permanent, gremlin.template.onDeath, s, nesting⟩, avenged, gremlin.summary,
      by rw [found, Option.map_some], rfl, effects, ?_, rfl⟩
    exact ⟨_, Array.toList_push .., List.forall_mem_singleton.mpr rfl⟩

end Takes

/-! ### Where batches stand -/

section Grounded

variable {bestiary : Bestiary} {s : Encounter} {id : InstanceId} {batch : Batch}

/-- What a move does, its gremlin's template offers. -/
theorem offers_of_currentMove {gremlin : Instance} {move : Move} {spec : SummonSpec}
    (found : s.board.get? id = some gremlin) (current : gremlin.currentMove? = some move)
    (member : .summon spec ∈ move.effects) : s.Offers id spec := by
  refine ⟨gremlin, found, List.mem_filterMap.mpr ⟨.summon spec, List.mem_append_left _ ?_, rfl⟩⟩
  exact List.mem_flatMap.mpr ⟨move, List.mem_of_getElem? current, member⟩

theorem opening?_grounded {depth : Nat} (stocked : Stocked bestiary s)
    (opens : opening? depth id s = some batch) : batch.Grounded bestiary := by
  cases depth with
  | zero => cases opens
  | succ depth =>
    obtain ⟨move, passive, rfl⟩ := Option.map_eq_some_iff.mp opens
    exact ⟨stocked, fun spec member => offers_of_entryEffects passive member⟩

theorem hold?_grounded (stocked : Stocked bestiary s) (holds : s.hold? id = some batch) :
    batch.Grounded bestiary := by
  obtain ⟨gremlin, living, holds⟩ := Option.bind_eq_some_iff.mp holds
  obtain ⟨move, passive, rfl⟩ := Option.map_eq_some_iff.mp holds
  have regenerated : Stocked bestiary (s.modify id (·.regenerate)) :=
    stocked.modify (fun gremlin => (regenerate_id gremlin).trans) fun gremlin _ =>
      regenerate_template gremlin
  refine ⟨regenerated.modify (fun _ named => named) fun _ _ => rfl, fun spec member => ?_⟩
  -- no summon goes on while a move is held
  have continuous : (Effect.summon spec).isContinuous = true := (List.mem_filter.mp member).2
  cases continuous

theorem fire?_grounded (stocked : Stocked bestiary s) (fires : s.fire? id = some batch) :
    batch.Grounded bestiary := by
  obtain ⟨gremlin, living, fires⟩ := Option.bind_eq_some_iff.mp fires
  obtain ⟨move, due, rfl⟩ := Option.map_eq_some_iff.mp fires
  have found := (get?_of_living? living).1
  have current : gremlin.currentMove? = some move := (Option.filter_eq_some_iff.mp due).1
  have aged := get?_modify (·.age) (fun _ named => named) found
  have counted := get?_modify (·.countTrigger) (fun _ named => named) aged
  refine ⟨?_, fun spec member => offers_of_currentMove counted current member⟩
  have older : Stocked bestiary (s.modify id (·.age)) :=
    stocked.modify (fun _ named => named) fun _ _ => rfl
  have counts : Stocked bestiary ((s.modify id (·.age)).modify id (·.countTrigger)) :=
    older.modify (fun _ named => named) fun _ _ => rfl
  refine counts.record ?_
  rintro other ⟨⟩
  exact stocked.orderly.numbered.below id (Board.mem_ids_iff.mpr ⟨gremlin, found⟩)

theorem get?_decided {gremlin : Instance} (found : s.board.get? id = some gremlin) :
    (s.decided id gremlin).board.get? id = some (gremlin.nextMove s.generator).2.1 :=
  (nextMove_touched found).2

theorem Stocked.decided {gremlin : Instance} (stocked : Stocked bestiary s)
    (found : s.board.get? id = some gremlin) : Stocked bestiary (s.decided id gremlin) := by
  have decided : Stocked bestiary (s.modify id fun _ => (gremlin.nextMove s.generator).2.1) := by
    refine stocked.modify (fun _ _ => nextMove_id found _) fun other present => ?_
    rw [found] at present
    cases present
    exact gremlin.nextMove_view (·.template) _ fun _ => rfl
  exact decided.undisturbed (Deed.draw _ (gremlin.nextMove s.generator).2.2).undisturbed

theorem Stocked.entered {gremlin : Instance} (stocked : Stocked bestiary s)
    (found : s.board.get? id = some gremlin) (index : Nat) :
    Stocked bestiary (s.entered id index) := by
  have released := stocked.undisturbed (releasePassive_undisturbed s id)
  have enters : Stocked bestiary ((s.releasePassive id).modify id (·.enterMove index)) :=
    released.modify (fun _ named => named) fun _ _ => rfl
  refine enters.record ?_
  rintro other ⟨⟩
  exact stocked.orderly.numbered.below id (Board.mem_ids_iff.mpr ⟨gremlin, found⟩)

theorem entering_stocked {gremlin : Instance} {index : Nat} (stocked : Stocked bestiary s)
    (found : s.board.get? id = some gremlin) : Stocked bestiary (s.entering id gremlin index) :=
  (stocked.decided found).entered (get?_decided found) index

theorem change?_grounded (stocked : Stocked bestiary s) (changes : s.change? id = some batch) :
    batch.Grounded bestiary := by
  obtain ⟨gremlin, living, changes⟩ := Option.bind_eq_some_iff.mp changes
  obtain ⟨index, _, opens⟩ := Option.bind_eq_some_iff.mp changes
  exact opening?_grounded (entering_stocked stocked (get?_of_living? living).1) opens

theorem burial?_grounded (stocked : Stocked bestiary s) (buries : s.burial? id = some batch) :
    batch.Grounded bestiary := by
  obtain ⟨gremlin, found, rfl⟩ := Option.map_eq_some_iff.mp buries
  refine ⟨stocked, fun spec member => ⟨gremlin, found, ?_⟩⟩
  exact List.mem_filterMap.mpr ⟨.summon spec, List.mem_append_right _ member, rfl⟩

end Grounded

end Encounter

end Gremlin
