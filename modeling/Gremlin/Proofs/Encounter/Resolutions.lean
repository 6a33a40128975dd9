import Gremlin.Proofs.Encounter.Lives
import Gremlin.Proofs.Encounter.Upkeep

set_option autoImplicit false

/-!
The effects that are done in an operation, one by one: on whose behalf, when, and where in the
journal. What an effect leads to comes after it and before the next one. While effects are done
nobody who was there changes its move or dies, and a gremlin is told to have done its own effects
only.
-/

namespace Gremlin

/-- What a gremlin can be told to have done, besides what it has done to resources and gremlins. -/
inductive Tiding where
  | request (request : PlayerRequest)
  | removal
  | reinstatement
  /-- It has summoned, or has been kept from it. -/
  | summon
deriving DecidableEq

/-- What its source is told to have done whenever an effect is done. -/
def Effect.tiding? : Effect → Option Tiding
  | forceDiscard cards => some (.request (.discard cards))
  | shuffleHand => some (.request .shuffleHand)
  | copyLastCard => some (.request .copyLastCard)
  | removeConstraints => some .removal
  | reinstateConstraints => some .reinstatement
  | summon _ => some .summon
  | _ => none

/-- Effects that a passive move goes on doing are not told of. -/
theorem Effect.tiding?_of_isContinuous {effect : Effect} (continuous : effect.isContinuous = true) :
    effect.tiding? = none := by
  cases effect <;> first | rfl | cases continuous

namespace Event

variable {id : InstanceId} {event : Event}

/-- What an event tells that a gremlin has done. -/
def tiding? (id : InstanceId) : Event → Option Tiding
  | requested source request => if source = some id then some (.request request) else none
  | constraintsRemoved other => if other = id then some .removal else none
  | constraintsReinstated other _ => if other = id then some .reinstatement else none
  | summoned summoner _ => if summoner = some id then some .summon else none
  | summonBlocked other _ => if other = id then some .summon else none
  | _ => none

/-- The move that a gremlin enters with an event: a newcomer its first one. -/
def enters? (id : InstanceId) : Event → Option Nat
  | spawned other _ | summoned _ other => if other = id then some 0 else none
  | moveEntered other index => if other = id then some index else none
  | _ => none

/-- An event that neither brings a gremlin into a move nor tells that it fires or is felled, nor
that a tick begins. -/
structure Beside (id : InstanceId) (event : Event) : Prop where
  entry : event.enters? id = none
  fells : event.fells? ≠ some id
  fired : ∀ index, event ≠ .moveFired id index
  tick : event.isTick = false

theorem Beside.of_aside (aside : event.isAside = true) : event.Beside id := by
  cases event <;> first
    | cases aside; done
    | exact ⟨rfl, nofun, nofun, rfl⟩

theorem tiding?_of_aside (aside : event.isAside = true) (silent : event.announces = false) :
    event.tiding? id = none := by
  cases event <;> first | rfl | (cases silent; done) | cases aside

/-- A blow that fells a gremlin brings nobody into a move, and tells of nothing else. -/
theorem aside_of_fells {other : InstanceId} (fells : event.fells? = some other) :
    event.enters? id = none ∧ event.tiding? id = none ∧ event.isTick = false ∧
      ∀ index, event ≠ .moveFired id index := by
  cases event <;> first
    | cases fells
    | exact ⟨rfl, rfl, rfl, nofun⟩

end Event

/-- What of a gremlin effects leave alone: its template, its move, and whether it is alive. -/
def Instance.station (gremlin : Instance) : Template × Nat × Bool :=
  (gremlin.template, gremlin.move, gremlin.isAlive)

theorem Instance.map_station_bare (found : Option Instance) :
    (found.map bare).map station = found.map station := by
  rw [Option.map_map]
  rfl

namespace Encounter

/-! ### The lines that are written -/

section Written

variable {s s' s'' : Encounter}

/-- The lines that the journal of `s'` has beyond those of `s`. -/
def written (s s' : Encounter) : List TimedEvent := s'.journal.toList.drop s.journal.size

theorem written_of_eq {lines : List TimedEvent}
    (journal : s'.journal.toList = s.journal.toList ++ lines) : written s s' = lines := by
  rw [written, journal, ← Array.length_toList, List.drop_left]

theorem written_of_journal_eq (same : s'.journal = s.journal) : written s s' = [] :=
  written_of_eq (by rw [same, List.append_nil])

theorem written_record (s : Encounter) (event : Event) :
    written s (s.record event) = [⟨s.now, event⟩] :=
  written_of_eq (Array.toList_push ..)

theorem grows_record (s : Encounter) (event : Event) : Grows s (s.record event) :=
  ⟨_, (Array.toList_push ..).symm⟩

theorem Grows.journal (grows : Grows s s') :
    s'.journal.toList = s.journal.toList ++ written s s' := by
  obtain ⟨lines, journal⟩ := grows
  rw [written_of_eq journal.symm, journal]

theorem Grows.size (grows : Grows s s') :
    s'.journal.size = s.journal.size + (written s s').length := by
  rw [← Array.length_toList, grows.journal, List.length_append, Array.length_toList]

theorem written_trans (first : Grows s s') (second : Grows s' s'') :
    written s s'' = written s s' ++ written s' s'' :=
  written_of_eq (by rw [second.journal, first.journal, List.append_assoc])

theorem Writes.mem_written {kind : Event → Prop} (writes : Writes kind s s') {line : TimedEvent}
    (member : line ∈ written s s') : line.now = s.now ∧ kind line.event := by
  obtain ⟨lines, journal, told⟩ := writes.lines
  rw [written_of_eq journal] at member
  exact told line member

end Written

/-! ### The effects that are done -/

/-- An effect is done: on whose behalf, when, and after how many lines of the journal. -/
structure Resolution where
  doer : Option InstanceId
  effect : Effect
  now : Ticks
  line : Nat

section Collect

variable {α β : Type}

/-- What comes of going on, unless it has come to an error. -/
def onward : Except EncounterError Encounter → (Encounter → List β) → List β
  | .ok s, rest => rest s
  | .error _, _ => []

/-- What all calls yield as a list is gone over, up to the first error. -/
def collect (act : Encounter → α → Except EncounterError Encounter)
    (yields : Encounter → α → List β) : List α → Encounter → List β
  | [], _ => []
  | argument :: rest, s => yields s argument ++ onward (act s argument) (collect act yields rest)

theorem collect_append {act : Encounter → α → Except EncounterError Encounter}
    {yields : Encounter → α → List β} {before after : List α} {s here : Encounter}
    (early : before.foldlM act s = .ok here) :
    collect act yields (before ++ after) s =
      collect act yields before s ++ collect act yields after here := by
  induction before generalizing s with
  | nil =>
    cases early
    rfl
  | cons argument rest ih =>
    obtain ⟨next, acted, early⟩ := bind_eq_ok.mp ((List.foldlM_cons ..).symm.trans early)
    rw [List.cons_append, collect, collect, acted, onward, onward, ih early, List.append_assoc]

/-- By induction on the list: what is given once all calls are done, and by each call together with
what the calls after it give, is given by going over the whole list. -/
theorem collect_induction {act : Encounter → α → Except EncounterError Encounter}
    {yields : Encounter → α → List β} {arguments : List α} {s s' : Encounter}
    (motive : Encounter → Prop) (gives : List α → List β → Encounter → Prop)
    (keeps : ∀ {here argument next}, argument ∈ arguments → motive here →
      act here argument = .ok next → motive next)
    (done : motive s' → gives [] [] s')
    (step : ∀ {here argument next rest given}, argument ∈ arguments → motive here →
      act here argument = .ok next → gives rest given next →
      gives (argument :: rest) (yields here argument ++ given) here)
    (start : motive s) (success : arguments.foldlM act s = .ok s') :
    gives arguments (collect act yields arguments s) s := by
  have onwards : ∀ rest here, rest ⊆ arguments → motive here → rest.foldlM act here = .ok s' →
      gives rest (collect act yields rest here) here := by
    intro rest
    induction rest with
    | nil =>
      rintro here _ so_far ended
      cases ended
      exact done so_far
    | cons argument rest ih =>
      intro here among so_far ended
      obtain ⟨next, acted, late⟩ := bind_eq_ok.mp ((List.foldlM_cons ..).symm.trans ended)
      have member := among List.mem_cons_self
      have others := ih next (List.subset_of_cons_subset among) (keeps member so_far acted) late
      rw [collect, acted, onward]
      exact step member so_far acted others
  exact onwards arguments s (List.Subset.refl _) start success

end Collect

/-- The newcomer that a summon brings in, and the state it finds. -/
def newcomer? (s : Encounter) (source : Option InstanceId) (spec : SummonSpec) :
    Option (InstanceId × Encounter) :=
  if source.all s.board.canSummon then
    (s.summonTemplate (s.ownTemplate source) spec).1.map fun template =>
      (⟨s.board.next⟩, (s.summonTemplate (s.ownTemplate source) spec).2.welcome template
        (s.summonPosition source) source)
  else none

/-- An effect is done, and then those that a newcomer does on joining the board. -/
def resolve (opens : InstanceId → Encounter → List Resolution) (source : Option InstanceId)
    (s : Encounter) (effect : Effect) : List Resolution :=
  ⟨source, effect, s.now, s.journal.size⟩ ::
    (effect.summonSpec?.bind (s.newcomer? source)).elim [] fun joined => opens joined.1 joined.2

/-- The effects of a batch, and those that newcomers do. -/
def Batch.collects (opens : Encounter → InstanceId → Encounter → List Resolution) (batch : Batch) :
    List Resolution :=
  collect batch.does (fun s => resolve (opens s) (some batch.doer) s) batch.effects batch.start

/-- The effects that are done when a gremlin joins the board or enters a move. -/
def openings : Nat → InstanceId → Encounter → List Resolution
  | 0, _, _ => []
  | depth + 1, id, s =>
    (opening? (depth + 1) id s).elim [] (Batch.collects fun _ => openings depth)

/-- The effects that are done with a batch. -/
def Batch.resolutions (batch : Batch) : List Resolution :=
  batch.collects fun s => openings (batch.depth s)

/-- The effects that are done in a turn: with its batch, if there is one. -/
def resolvedIn (batch : Option Batch) : List Resolution := batch.elim [] Batch.resolutions

/-- The effects that are done as gremlins have their turns one after another. -/
def resolvedInTurn (act : Encounter → InstanceId → Except EncounterError Encounter)
    (batch? : Encounter → InstanceId → Option Batch) (ids : List InstanceId) (s : Encounter) :
    List Resolution :=
  collect act (fun s id => resolvedIn (batch? s id)) ids s

theorem openings_eq (depth : Nat) (id : InstanceId) (s : Encounter) :
    openings depth id s = resolvedIn (opening? depth id s) := by
  cases depth with
  | zero => rfl
  | succ depth =>
    rw [openings, resolvedIn]
    cases opens : opening? (depth + 1) id s with
    | none => rfl
    | some batch =>
      obtain ⟨move, _, rfl⟩ := Option.map_eq_some_iff.mp opens
      rfl

/-- The ways a summon can go: the summoner is turned away, there is no template, or a newcomer
joins. -/
theorem summon_cases {enter : InstanceId → Encounter → Except EncounterError Encounter}
    {source : Option InstanceId} {spec : SummonSpec} {s s' : Encounter}
    (success : s.summon enter source spec = .ok s') :
    (∃ id, source = some id ∧ s.newcomer? source spec = none ∧ s' = s.turnAway id spec) ∨
    (∃ after, s.summonTemplate (s.ownTemplate source) spec = (none, after) ∧
      s.newcomer? source spec = none ∧ s' = after.notify (.noTemplate spec)) ∨
    ∃ after template, (∀ id, source = some id → s.board.canSummon id = true) ∧
      s.summonTemplate (s.ownTemplate source) spec = (some template, after) ∧
      s.newcomer? source spec = some (⟨s.board.next⟩,
        after.welcome template (s.summonPosition source) source) ∧
      enter ⟨s.board.next⟩ (after.welcome template (s.summonPosition source) source) = .ok s' := by
  have way := summon_summoning enter source spec s
  have may : (∀ id, source = some id → s.board.canSummon id = true) →
      source.all s.board.canSummon = true := by
    intro allowed
    cases source with
    | none => rfl
    | some id => exact allowed id rfl
  generalize same : s.summon enter source spec = result at way
  cases way with
  | blocked id given refused =>
    cases same.symm.trans success
    refine .inl ⟨id, given, ?_, rfl⟩
    rw [newcomer?, given, Option.all_some, refused, if_neg Bool.false_ne_true]
  | missing after allowed drawn =>
    cases same.symm.trans success
    refine .inr (.inl ⟨after, drawn, ?_, rfl⟩)
    rw [newcomer?, if_pos (may allowed), drawn, Option.map_none]
  | joins after template _ allowed drawn =>
    have brings := bringsIn_of_drawn allowed drawn enter
    rw [(drawn_same drawn).2.2] at brings
    refine .inr (.inr ⟨after, template, allowed, drawn, ?_, brings.symm.trans success⟩)
    rw [newcomer?, if_pos (may allowed), drawn, Option.map_some]

/-! ### What effects leave alone -/

/-- The board is in order, and everyone on it remembers caps alone. -/
structure Arranged (s : Encounter) : Prop where
  numbered : s.board.Numbered
  caps : s.CapsSound

/-- A gremlin has joined the board, which is in order. -/
structure Enlisted (id : InstanceId) (s : Encounter) : Prop where
  born : id.value < s.board.next
  arranged : Arranged s

/-- From `s` to `s'` a gremlin stays in its move, neither firing nor felled, and no tick begins. -/
structure Sits (id : InstanceId) (s s' : Encounter) : Prop where
  now : s'.now = s.now
  bestiary : s'.bestiary = s.bestiary
  next : s.board.next ≤ s'.board.next
  arranged : Arranged s → Arranged s'
  station : (s'.board.get? id).map Instance.station = (s.board.get? id).map Instance.station
  grows : Grows s s'
  lines : ∀ line ∈ written s s', line.now = s.now ∧ line.event.Beside id

namespace Sits

variable {id : InstanceId} {s s' s'' : Encounter}

theorem of_undisturbed (same : Undisturbed s s') (writes : Writes (·.Beside id) s s') :
    Sits id s s' := by
  refine ⟨writes.now_eq, same.bestiary, Nat.le_of_eq same.next.symm, fun arranged => ?_, ?_,
    writes.journal_kept, fun line member => writes.mem_written member⟩
  · exact ⟨arranged.numbered.of_ids_eq same.ids (Nat.le_of_eq same.next.symm),
      same.caps arranged.caps⟩
  · rw [← Instance.map_station_bare, same.bare, Instance.map_station_bare]

theorem refl (s : Encounter) : Sits id s s := .of_undisturbed (.refl s) (.refl s)

theorem trans (first : Sits id s s') (second : Sits id s' s'') : Sits id s s'' where
  now := second.now.trans first.now
  bestiary := second.bestiary.trans first.bestiary
  next := Nat.le_trans first.next second.next
  arranged := fun arranged => second.arranged (first.arranged arranged)
  station := second.station.trans first.station
  grows := first.grows.trans second.grows
  lines := by
    intro line member
    rw [written_trans first.grows second.grows, List.mem_append] at member
    rcases member with early | late
    · exact first.lines line early
    · rw [← first.now]
      exact second.lines line late

theorem enlisted (sits : Sits id s s') (enlisted : Enlisted id s) : Enlisted id s' :=
  ⟨Nat.lt_of_lt_of_le enlisted.born sits.next, sits.arranged enlisted.arranged⟩

/-- Somebody else joins the board. -/
theorem welcome {after : Encounter} {source : Option InstanceId} {spec : SummonSpec}
    {template : Template}
    (drawn : s.summonTemplate (s.ownTemplate source) spec = (some template, after))
    (position : SummonPosition) (other : id ≠ ⟨s.board.next⟩) :
    Sits id s (after.welcome template position source) := by
  obtain ⟨journal, clock, board⟩ := drawn_same drawn
  have lines := welcome_journal drawn template position source
  have known : (after.welcome template position source).bestiary = s.bestiary := by
    have same := summonTemplate_bestiary s (s.ownTemplate source) spec
    rw [drawn] at same
    exact same
  have joined : ∀ other, other ≠ ⟨s.board.next⟩ →
      (after.welcome template position source).board.get? other = s.board.get? other := by
    intro other apart
    rw [← board] at apart ⊢
    exact Board.Numbered.get?_spawn_other template after.now position source apart
  refine ⟨congrArg Clock.now clock, known, ?_, fun arranged => ⟨?_, ?_⟩, ?_, ⟨_, lines.symm⟩, ?_⟩
  · rw [← board]
    exact Nat.le_succ _
  · exact Board.Numbered.spawn template after.now position source (board.symm ▸ arranged.numbered)
  · exact (arranged.caps.of_board_eq board).spawned (board.symm ▸ arranged.numbered) template
      position source _
  · rw [joined id other]
  · rw [written_of_eq lines, List.forall_mem_singleton]
    refine ⟨rfl, ?_, nofun, nofun, rfl⟩
    exact if_neg fun same => other same.symm

end Sits

/-! ### What is done on a gremlin's behalf -/

/-- The effects among those that a source does which are done on behalf of a gremlin. -/
def doneBy (id : InstanceId) (source : Option InstanceId) (effects : List Effect) : List Effect :=
  if source = some id then effects else []

/-- From `s` to `s'` the effects `all` are done, of them a gremlin's `own`, and it is told to have
done these. -/
structure Resolves (id : InstanceId) (own : List Effect) (all : List Resolution)
    (s s' : Encounter) : Prop where
  sits : Sits id s s'
  within : ∀ r ∈ all, s.journal.size ≤ r.line ∧ r.line ≤ s'.journal.size
  resolved : (all.filter (·.doer = some id)).map (fun r => (r.now, r.effect)) = own.map (s.now, ·)
  tidings : (∀ size, Effect.summon (.ofSize size) ∉ own) →
    (written s s').filterMap (·.event.tiding? id) = own.filterMap Effect.tiding?

namespace Resolves

variable {id : InstanceId} {own own' : List Effect} {all all' : List Resolution}
  {s s' s'' : Encounter}

theorem quiet (sits : Sits id s s') (silent : ∀ line ∈ written s s', line.event.tiding? id = none) :
    Resolves id [] [] s s' :=
  ⟨sits, List.forall_mem_nil _, rfl, fun _ => List.filterMap_eq_nil_iff.mpr silent⟩

theorem refl (s : Encounter) : Resolves id [] [] s s :=
  quiet (.refl s) fun line member => by
    rw [written_of_journal_eq rfl] at member
    cases member

theorem trans (first : Resolves id own all s s') (second : Resolves id own' all' s' s'') :
    Resolves id (own ++ own') (all ++ all') s s'' := by
  have sizes : s.journal.size ≤ s'.journal.size ∧ s'.journal.size ≤ s''.journal.size := by
    rw [second.sits.grows.size, first.sits.grows.size]
    omega
  refine ⟨first.sits.trans second.sits, List.forall_mem_append.mpr ⟨?_, ?_⟩, ?_, fun sized => ?_⟩
  · intro r member
    exact (first.within r member).imp_right (Nat.le_trans · sizes.2)
  · intro r member
    exact (second.within r member).imp_left (Nat.le_trans sizes.1)
  · rw [List.filter_append, List.map_append, first.resolved, second.resolved, first.sits.now,
      List.map_append]
  · rw [written_trans first.sits.grows second.sits.grows, List.filterMap_append,
      List.filterMap_append,
      first.tidings fun size member => sized size (List.mem_append_left _ member),
      second.tidings fun size member => sized size (List.mem_append_right _ member)]

/-- An effect alone. -/
theorem one {source : Option InstanceId} {effect : Effect} (sits : Sits id s s')
    (tidings : (∀ size, source = some id → effect ≠ .summon (.ofSize size)) →
      (written s s').filterMap (·.event.tiding? id) =
        (doneBy id source [effect]).filterMap Effect.tiding?) :
    Resolves id (doneBy id source [effect]) [⟨source, effect, s.now, s.journal.size⟩] s s' := by
  have later : s.journal.size ≤ s'.journal.size := by
    rw [sits.grows.size]
    exact Nat.le_add_right _ _
  refine ⟨sits, List.forall_mem_singleton.mpr ⟨Nat.le_refl _, later⟩, ?_, fun sized => tidings ?_⟩
  · by_cases own : source = some id <;> simp [doneBy, own]
  · rintro size own rfl
    refine sized size ?_
    rw [doneBy, if_pos own]
    exact List.mem_singleton_self _

/-- What is done on the way over a list. -/
theorem collect {α : Type} {motive : Encounter → Prop}
    {act : Encounter → α → Except EncounterError Encounter}
    {yields : Encounter → α → List Resolution} {own : α → List Effect} {arguments : List α}
    (each : ∀ {here argument next}, argument ∈ arguments → motive here →
      act here argument = .ok next →
      Resolves id (own argument) (yields here argument) here next ∧ motive next)
    (start : motive s) (success : arguments.foldlM act s = .ok s') :
    Resolves id (arguments.flatMap own) (Encounter.collect act yields arguments s) s s' := by
  refine collect_induction motive (fun rest given here => Resolves id (rest.flatMap own) given here s')
    (fun member so_far acted => (each member so_far acted).2) (fun _ => .refl s') ?_ start success
  intro here argument next rest given member so_far acted others
  rw [List.flatMap_cons]
  exact (each member so_far acted).1.trans others

end Resolves

/-! ### Effects -/

section Effects

variable {id : InstanceId} {source : Option InstanceId} {duration : Duration} {s s' : Encounter}

theorem doneBy_nil : doneBy id source [] = [] := ite_self []

theorem doneBy_other (other : source ≠ some id) (effects : List Effect) :
    doneBy id source effects = [] := if_neg other

theorem flatMap_doneBy (effects : List Effect) :
    effects.flatMap (fun effect => doneBy id source [effect]) = doneBy id source effects := by
  unfold doneBy
  split
  · exact List.flatMap_singleton' _
  · exact List.flatMap_eq_nil_iff.mpr fun _ _ => rfl

/-- Lines that tell nothing of a gremlin are those of an effect that is not told of. -/
theorem tidings_nil {lines : List TimedEvent}
    (silent : ∀ line ∈ lines, line.event.tiding? id = none) {effect : Effect}
    (untold : effect.tiding? = none) : lines.filterMap (·.event.tiding? id) =
      (doneBy id source [effect]).filterMap Effect.tiding? := by
  rw [List.filterMap_eq_nil_iff.mpr silent]
  by_cases own : source = some id <;> simp [doneBy, own, untold]

theorem tidings_of_nobody (same : s'.journal = s.journal) {effect : Effect} :
    (written s s').filterMap (·.event.tiding? id) =
      (doneBy id none [effect]).filterMap Effect.tiding? := by
  rw [written_of_journal_eq same]
  rfl

/-- A line tells of a gremlin if it is of an effect that the gremlin does. -/
theorem tidings_singleton {line : TimedEvent} {effect : Effect} {tiding : Tiding}
    (told : line.event.tiding? id = if source = some id then some tiding else none)
    (tells : effect.tiding? = some tiding) : [line].filterMap (·.event.tiding? id) =
      (doneBy id source [effect]).filterMap Effect.tiding? := by
  by_cases own : source = some id <;> simp [doneBy, own, told, tells]

/-- An effect that leads to no other is done. -/
theorem applyPlain_resolves {effect : Effect} (plain : effect.summonSpec? = none)
    (other : effect ≠ .reinstateConstraints) (s : Encounter) :
    Resolves id (doneBy id source [effect]) [⟨source, effect, s.now, s.journal.size⟩] s
      (applyPlain source duration s effect) := by
  have same := (applyPlain_deeds source duration s effect).undisturbed
  have beside : Writes (·.Beside id) s (applyPlain source duration s effect) :=
    applyPlain_writes _ _ _ _ fun _ aside _ _ => .of_aside aside
  refine .one (.of_undisturbed same beside) fun _ => ?_
  have silent : effect.isAnnounced = false →
      ∀ line ∈ written s (applyPlain source duration s effect), line.event.tiding? id = none := by
    intro silent line member
    have told : Writes (fun event => event.tiding? id = none) s
        (applyPlain source duration s effect) := by
      refine applyPlain_writes _ _ _ _ fun event aside _ announced => ?_
      refine Event.tiding?_of_aside aside (Bool.eq_false_iff.mpr fun announces => ?_)
      rw [silent] at announced
      cases announced announces
    exact (told.mem_written member).2
  cases effect with
  | forceDiscard _ | shuffleHand | copyLastCard =>
    rw [applyPlain, written_record]
    exact tidings_singleton rfl rfl
  | removeConstraints =>
    cases source with
    | none => exact tidings_of_nobody rfl
    | some other =>
      have written : written s (applyPlain (some other) duration s .removeConstraints) =
          [⟨s.now, .constraintsRemoved other⟩] := written_of_eq (Array.toList_push ..)
      rw [written]
      exact tidings_singleton (by simp [Event.tiding?]) rfl
  | summon _ => cases plain
  | reinstateConstraints => exact absurd rfl other
  | _ => exact tidings_nil (silent rfl) rfl

/-- What is reinstated is remembered caps, and these are not announced. -/
theorem reinstate_resolves (sound : s.CapsSound) :
    Resolves id (doneBy id source [.reinstateConstraints])
      [⟨source, .reinstateConstraints, s.now, s.journal.size⟩] s (s.reinstate source duration) := by
  have same := (reinstate_deeds source duration s).undisturbed
  have beside : Writes (·.Beside id) s (s.reinstate source duration) :=
    reinstate_writes _ _ _ fun _ aside _ => .of_aside aside
  refine .one (.of_undisturbed same beside) fun _ => ?_
  cases source with
  | none => exact tidings_of_nobody rfl
  | some other =>
    obtain ⟨caps, capped, reinstated⟩ : ∃ caps : List Effect,
        (∀ effect ∈ caps, effect.isCap = true) ∧
        s.reinstate (some other) duration = (caps.foldl (applyPlain (some other) duration) s).record
          (.constraintsReinstated other caps.length) := by
      cases found : s.board.get? other with
      | none => exact ⟨[], List.forall_mem_nil _, by simp only [reinstate, found]⟩
      | some gremlin =>
        exact ⟨_, (sound other gremlin found).caps, by simp only [reinstate, found]⟩
    have silent : Writes (fun event => event.tiding? id = none) s
        (caps.foldl (applyPlain (some other) duration) s) := by
      refine foldl_applyPlain_writes _ _ _ _ fun event aside _ announced => ?_
      refine Event.tiding?_of_aside aside (Bool.eq_false_iff.mpr fun announces => ?_)
      obtain ⟨effect, member, announced⟩ := announced announces
      have cap := capped effect member
      cases effect <;> first | cases announced; done | cases cap
    rw [reinstated, written_trans silent.journal_kept (grows_record ..), written_record,
      List.filterMap_append,
      List.filterMap_eq_nil_iff.mpr fun line member => (silent.mem_written member).2, List.nil_append]
    exact tidings_singleton (by simp [Event.tiding?]) rfl

/-- Whether a source is on the board or not, it may have to do with one summon alone. -/
theorem turnAway_resolves (other : InstanceId) (spec : SummonSpec) :
    Resolves id (doneBy id (some other) [.summon spec])
      [⟨some other, .summon spec, s.now, s.journal.size⟩] s (s.turnAway other spec) := by
  have same := (turnAway_deeds s other spec).undisturbed
  have told : (Event.summonBlocked other spec).Beside id := ⟨rfl, nofun, nofun, rfl⟩
  refine .one (.of_undisturbed same (turnAway_writes told s)) fun _ => ?_
  rw [written_of_eq (s.turnAway_journal other spec)]
  exact tidings_singleton (by simp [Event.tiding?]) rfl

/-- No template is found for a summon; of a gremlin's own summons only one of a size may fail so. -/
theorem missing_resolves {spec : SummonSpec} {after : Encounter}
    (answered : ∀ target, source = some id → spec = .named target →
      (s.bestiary.get? target).isSome = true)
    (drawn : s.summonTemplate (s.ownTemplate source) spec = (none, after)) :
    Resolves id (doneBy id source [.summon spec])
      [⟨source, .summon spec, s.now, s.journal.size⟩] s (after.notify (.noTemplate spec)) := by
  have deeds := drawn_deeds drawn
  obtain ⟨journal, clock, _⟩ := drawn_same drawn
  have layout : after.layout = s.layout := by
    have writes : Writes (fun _ => True) s _ := summonTemplate_writes s (s.ownTemplate source) spec
    rw [drawn] at writes
    exact writes.layout
  have quiet : Writes (·.Beside id) s (after.notify (.noTemplate spec)) :=
    .of_journal_eq clock layout journal
  have same := deeds.undisturbed.trans (Deed.notify after (.noTemplate spec)).undisturbed
  refine .one (.of_undisturbed same quiet) fun sized => ?_
  have written : written s (after.notify (.noTemplate spec)) = [] := written_of_journal_eq journal
  by_cases own : source = some id
  · cases spec with
    | named target =>
      have missing : s.bestiary.get? target = none := congrArg Prod.fst drawn
      have found := answered target own rfl
      rw [missing] at found
      cases found
    | ofSize size => exact absurd rfl (sized size own)
  · rw [written, doneBy_other own]
    rfl

/-- A newcomer joins; all that it leads to is not in the name of those who were there. -/
theorem joins_resolves {spec : SummonSpec} {after : Encounter} {template : Template}
    (apart : (⟨s.board.next⟩ : InstanceId) ≠ id)
    (drawn : s.summonTemplate (s.ownTemplate source) spec = (some template, after)) :
    Resolves id (doneBy id source [.summon spec])
      [⟨source, .summon spec, s.now, s.journal.size⟩] s
      (after.welcome template (s.summonPosition source) source) := by
  refine .one (.welcome drawn _ apart.symm) fun _ => ?_
  rw [written_of_eq (welcome_journal drawn template _ source)]
  exact tidings_singleton rfl rfl

end Effects

section Nested

variable {id : InstanceId} {enter : InstanceId → Encounter → Except EncounterError Encounter}
  {opens : InstanceId → Encounter → List Resolution}
  (inner : ∀ {newcomer welcomed entered}, newcomer ≠ id → Enlisted id welcomed →
    enter newcomer welcomed = .ok entered →
    Resolves id [] (opens newcomer welcomed) welcomed entered)
  {source : Option InstanceId} {duration : Duration} {effect : Effect} {s s' : Encounter}

include inner

/-- If newcomers do nothing on a gremlin's behalf, then of an effect and all it leads to only the
effect itself may be its own. -/
theorem resolve_resolves (enlisted : Enlisted id s)
    (answered : ∀ target, source = some id → effect = .summon (.named target) →
      (s.bestiary.get? target).isSome = true)
    (success : s.applyWith enter source duration effect = .ok s') :
    Resolves id (doneBy id source [effect]) (resolve opens source s effect) s s' := by
  cases effect with
  | summon spec =>
    have spelled : ∀ target, source = some id → spec = .named target →
        (s.bestiary.get? target).isSome = true :=
      fun target own same => answered target own (congrArg Effect.summon same)
    rw [resolve, Effect.summonSpec?, Option.bind_some]
    rcases summon_cases success with ⟨other, rfl, none, rfl⟩ | ⟨after, drawn, none, rfl⟩ |
      ⟨after, template, _, drawn, joins, entered⟩
    · rw [none]
      exact turnAway_resolves other spec
    · rw [none]
      exact missing_resolves spelled drawn
    · rw [joins]
      have apart : (⟨s.board.next⟩ : InstanceId) ≠ id := by
        rintro rfl
        exact Nat.lt_irrefl _ enlisted.born
      have first := joins_resolves apart drawn
      have later := first.trans (inner apart (first.sits.enlisted enlisted) entered)
      rwa [List.append_nil] at later
  | reinstateConstraints =>
    cases success
    exact reinstate_resolves enlisted.arranged.caps
  | _ =>
    cases success
    exact applyPlain_resolves rfl (by rintro ⟨⟩) s

end Nested

section Openings

variable {id other : InstanceId} {depth : Nat} {batch : Batch} {s s' : Encounter}

/-- A batch of effects is done, with all that they lead to. -/
theorem Batch.collects_resolves {opens : Encounter → InstanceId → Encounter → List Resolution}
    (inner : ∀ {here newcomer welcomed entered}, newcomer ≠ id → Enlisted id welcomed →
      enterPassive (batch.depth here) newcomer welcomed = .ok entered →
      Resolves id [] (opens here newcomer welcomed) welcomed entered)
    (enlisted : Enlisted id batch.start)
    (answered : ∀ target, batch.doer = id → .summon (.named target) ∈ batch.effects →
      (batch.start.bestiary.get? target).isSome = true)
    (success : batch.run = .ok s') :
    Resolves id (doneBy id (some batch.doer) batch.effects) (batch.collects opens) batch.start
      s' := by
  rw [← flatMap_doneBy]
  refine Resolves.collect
    (motive := fun here => Enlisted id here ∧ here.bestiary = batch.start.bestiary) ?_
    ⟨enlisted, rfl⟩ success
  rintro here effect next member ⟨enlisted, same⟩ done
  have resolves : Resolves id (doneBy id (some batch.doer) [effect])
      (resolve (opens here) (some batch.doer) here effect) here next := by
    refine resolve_resolves inner enlisted ?_ done
    rintro target ⟨⟩ rfl
    exact same ▸ answered target rfl member
  exact ⟨resolves, resolves.sits.enlisted enlisted, resolves.sits.bestiary.trans same⟩

/-- What a gremlin does on joining the board or entering a move. -/
theorem opening_resolves
    (inner : ∀ {newcomer welcomed entered}, newcomer ≠ id → Enlisted id welcomed →
      enterPassive depth newcomer welcomed = .ok entered →
      Resolves id [] (openings depth newcomer welcomed) welcomed entered)
    (enlisted : Enlisted id s)
    (answered : ∀ move target, other = id → s.held? id = some move →
      .summon (.named target) ∈ entryEffects move → (s.bestiary.get? target).isSome = true)
    (success : enterPassive (depth + 1) other s = .ok s') :
    Resolves id (doneBy id (some other) ((s.held? other).elim [] entryEffects))
      (openings (depth + 1) other s) s s' := by
  rw [enterPassive] at success
  rw [openings, opening?, held?]
  split at success
  · rename_i move passive
    rw [passive]
    have ran : Batch.run ⟨other, .passive, entryEffects move, s, fun _ => depth⟩ = .ok s' := success
    refine Batch.collects_resolves inner enlisted ?_ ran
    rintro target rfl member
    exact answered move target rfl passive member
  · rename_i active
    cases success
    rw [active]
    exact doneBy_nil.symm ▸ .refl s

/-- What others do on joining the board or entering a move is not done on a gremlin's behalf. By
induction on how deep the openings may still be nested. -/
theorem openings_resolves (apart : other ≠ id) (enlisted : Enlisted id s)
    (success : enterPassive depth other s = .ok s') :
    Resolves id [] (openings depth other s) s s' := by
  induction depth generalizing other s s' with
  | zero => cases success
  | succ depth ih =>
    have opens := opening_resolves ih enlisted (fun _ _ same => absurd same apart) success
    rwa [doneBy_other fun same => apart (Option.some.inj same)] at opens

/-- On joining the board or entering a move a gremlin does the effects of its entry. -/
theorem own_openings_resolves (enlisted : Enlisted id s)
    (answered : ∀ move target, s.held? id = some move →
      .summon (.named target) ∈ entryEffects move → (s.bestiary.get? target).isSome = true)
    (success : enterPassive depth id s = .ok s') :
    Resolves id ((s.held? id).elim [] entryEffects) (openings depth id s) s s' := by
  cases depth with
  | zero => cases success
  | succ depth =>
    have opens := opening_resolves openings_resolves enlisted
      (fun move target _ => answered move target) success
    rwa [doneBy, if_pos rfl] at opens

/-- Effects that a passive move goes on doing bring nobody in. -/
theorem Batch.resolves_continuous
    (continuous : ∀ effect ∈ batch.effects, effect.isContinuous = true)
    (success : batch.run = .ok s') :
    Resolves id (doneBy id (some batch.doer) batch.effects) batch.resolutions batch.start s' := by
  rw [← flatMap_doneBy]
  refine Resolves.collect (motive := fun _ => True) ?_ trivial success
  intro here effect next member _ done
  refine ⟨?_, trivial⟩
  have goes_on := continuous effect member
  cases effect with
  | summon _ | reinstateConstraints => cases goes_on
  | _ =>
    cases done
    exact applyPlain_resolves rfl (by rintro ⟨⟩) here

theorem Batch.resolves (enlisted : Enlisted id batch.start)
    (answered : ∀ target, batch.doer = id → .summon (.named target) ∈ batch.effects →
      (batch.start.bestiary.get? target).isSome = true)
    (success : batch.run = .ok s') :
    Resolves id (doneBy id (some batch.doer) batch.effects) batch.resolutions batch.start s' :=
  Batch.collects_resolves (fun apart => openings_resolves apart) enlisted answered success

end Openings

end Encounter

end Gremlin
