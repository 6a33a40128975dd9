import Gremlin.Proofs.Encounter.Alterations
import Gremlin.Proofs.Encounter.Occasions
import Gremlin.Proofs.Encounter.Upkeep

set_option autoImplicit false

/-!
The moments of an operation: the states between its turns, and those between the effects of each
batch. In the middle of a batch all that has been done since the effect it has come to has been done
by newcomers.
-/

namespace Gremlin

namespace Encounter

/-- Going over a list, from `s` on, comes through a state. -/
def ComesThrough {α : Type} (act : Encounter → α → Except EncounterError Encounter)
    (arguments : List α) (s m : Encounter) : Prop :=
  ∃ before, before <+: arguments ∧ before.foldlM act s = .ok m

section ComesThrough

variable {α : Type} {act : Encounter → α → Except EncounterError Encounter} {arguments : List α}
  {s m : Encounter}

theorem ComesThrough.preserves {motive : Encounter → Prop}
    (kept : ∀ state argument next, motive state → act state argument = .ok next → motive next)
    (initial : motive s) (comes : ComesThrough act arguments s m) : motive m := by
  obtain ⟨before, _, early⟩ := comes
  exact foldlM_preserves before (fun state argument next _ => kept state argument next) initial early

theorem ComesTo.through {argument : α} (comes : ComesTo act arguments s argument m) :
    ComesThrough act arguments s m := by
  obtain ⟨before, after, rfl, early⟩ := comes
  exact ⟨before, List.prefix_append _ _, early⟩

theorem comesThrough_of_eq_ok (success : arguments.foldlM act s = .ok m) :
    ComesThrough act arguments s m :=
  ⟨arguments, List.prefix_refl _, success⟩

end ComesThrough

/-! ### In the middle of a batch -/

/-- An effect of a batch is still to be done, or one of a batch that somebody does on being summoned
by it. -/
inductive Batch.During : Batch → Encounter → Prop
  | reaches {batch : Batch} {effect : Effect} {m : Encounter} (reaches : batch.Reaches effect m) :
      During batch m
  | nested {outer inner : Batch} {spec : SummonSpec} {newcomer : InstanceId}
      {here welcomed m : Encounter} (reaches : outer.Reaches (.summon spec) here)
      (brings : BringsIn here (some outer.doer) spec newcomer welcomed)
      (opens : opening? (outer.depth here) newcomer welcomed = some inner)
      (during : inner.During m) : During outer m

/-- What is done by an opening is done by whoever holds a passive move, beginning with nothing. -/
theorem opening?_eq_some {depth : Nat} {id : InstanceId} {s : Encounter} {batch : Batch}
    (opens : opening? depth id s = some batch) :
    batch.doer = id ∧ batch.start = s ∧ ∃ move, s.held? id = some move ∧
      batch.effects = entryEffects move := by
  cases depth with
  | zero => cases opens
  | succ depth =>
    obtain ⟨move, held, rfl⟩ := Option.map_eq_some_iff.mp opens
    exact ⟨rfl, rfl, move, held, rfl⟩

namespace Batch

variable {batch : Batch} {effect : Effect} {m : Encounter}

theorem reaches_unfolds {offered : SummonSpec → Prop}
    (among : ∀ spec, .summon spec ∈ batch.effects → offered spec) (reaches : batch.Reaches effect m) :
    Unfolds offered (some batch.doer) batch.start m :=
  ComesTo.preserves (motive := Unfolds offered (some batch.doer) batch.start)
    (fun _ _ _ member so_far done => so_far.trans
      (does_unfolds (fun spec same => among spec (same ▸ member)) done)) (.refl _ _ _) reaches

theorem run_unfolds (success : batch.run = .ok m) :
    Unfolds (fun _ => True) (some batch.doer) batch.start m :=
  foldlM_unfolds (fun _ done => does_unfolds (fun _ _ => trivial) done) success

/-- By induction on how deep the moment is nested. -/
theorem During.unfolds {offered : SummonSpec → Prop}
    (among : ∀ spec, .summon spec ∈ batch.effects → offered spec) (during : batch.During m) :
    Unfolds offered (some batch.doer) batch.start m := by
  induction during generalizing offered with
  | reaches reaches => exact reaches_unfolds among reaches
  | nested reaches brings opens _ ih =>
    obtain ⟨after, template, position, allowed, drawn, rfl, rfl⟩ := brings.welcomes
    obtain ⟨doer, start, move, held, effects⟩ := opening?_eq_some opens
    rw [doer, start] at ih
    refine (reaches_unfolds among reaches).joined _ template position allowed drawn (ih ?_)
    intro spec member
    rw [effects] at member
    exact offers_of_entryEffects held member

end Batch

/-- From the effect that a batch has come to, only newcomers have done anything yet. -/
theorem Batch.During.reached {batch : Batch} {m : Encounter} (during : batch.During m) (slot : Slot) :
    ∃ effect here, batch.Reaches effect here ∧
      Alters slot (Newcomer here.board.next) 0 here m := by
  cases during with
  | reaches reaches => exact ⟨_, m, reaches, .refl m⟩
  | @nested _ inner _ _ here _ _ reaches brings opens inside =>
    obtain ⟨after, template, position, _, drawn, rfl, rfl⟩ := brings.welcomes
    obtain ⟨doer, start, _⟩ := opening?_eq_some opens
    have unfolds : Unfolds (fun _ => True) (some inner.doer) inner.start m :=
      inside.unfolds fun _ _ => trivial
    rw [doer, start] at unfolds
    have board := (drawn_same drawn).2.2
    have next : here.board.next = after.board.next := congrArg Board.next board.symm
    exact ⟨_, here, reaches, ((summonTemplate_alters drawn).trans (welcome_alters ..)).trans
      (unfolds.alters.mono fun author among =>
        among.newcomer (Nat.le_succ_of_le (Nat.le_of_eq next)) (Nat.le_of_eq next))⟩

/-! ### Moments -/

/-- The moments of an operation: before and after it, between the turns of each phase of a tick,
between burials and before each parting, and in the middle of each batch. -/
inductive Moment (s : Encounter) : Operation → Encounter → Prop
  | before (operation : Operation) : Moment s operation s
  | after {operation : Operation} {s' : Encounter} (success : operation.run s = .ok s') :
      Moment s operation s'
  | begun : Moment s .advance s.begun
  | holding {m : Encounter}
      (comes : ComesThrough holdMove s.begun.lifted.board.ids s.begun.lifted m) :
      Moment s .advance m
  | firing {held m : Encounter} (holds : s.begun.applyPassives = .ok held)
      (comes : ComesThrough fireMove held.board.ids held m) : Moment s .advance m
  | changing {held fired m : Encounter} (holds : s.begun.applyPassives = .ok held)
      (fires : held.fireMoves = .ok fired)
      (comes : ComesThrough changeMove fired.board.ids fired m) : Moment s .advance m
  | burying {operation : Operation} {struck m : Encounter} (fells : Fells s operation struck)
      (comes : ComesThrough bury struck.board.dead struck m) : Moment s operation m
  | parting {operation : Operation} {id : InstanceId} {struck here m : Encounter} {batch : Batch}
      (fells : Fells s operation struck) (turn : ComesTo bury struck.board.dead struck id here)
      (buries : here.burial? id = some batch) (ran : batch.run = .ok m) : Moment s operation m
  | acting {operation : Operation} {batch : Batch} {m : Encounter}
      (occasion : Occasion s operation batch) (during : batch.During m) : Moment s operation m

/-! ### Before a batch -/

/-- From `s` to `start` a gremlin has got ready to do a batch. -/
structure Prepares (id : InstanceId) (s start : Encounter) : Prop where
  touched : Touched id s start
  keeps : Keeps s start
  alters : ∀ slot, Alters slot (fun _ => False) 0 s start

namespace Prepares

variable {id : InstanceId} {gremlin : Instance} {s s' s'' : Encounter}

theorem of_undisturbed (same : Undisturbed s s') (overlays : ∀ slot, s'.overlays slot = s.overlays slot)
    (grows : s.journal.toList <+: s'.journal.toList) : Prepares id s s' :=
  ⟨same.touched id, .of_overlays_eq (Nat.le_of_eq same.next.symm) overlays,
    fun slot => .of_overlays_eq (overlays slot) grows⟩

theorem trans (first : Prepares id s s') (second : Prepares id s' s'') : Prepares id s s'' :=
  ⟨first.touched.trans second.touched,
    ⟨fun single => second.keeps.single (first.keeps.single single),
      fun tagged => second.keeps.tagged (first.keeps.tagged tagged)⟩,
    fun slot => (first.alters slot).trans (second.alters slot)⟩

theorem modify (change : Instance → Instance)
    (named : ∀ other : Instance, other.id = id → (change other).id = id)
    (found : s.board.get? id = some gremlin)
    (caps : (change gremlin).installedCaps = gremlin.installedCaps) :
    Prepares id s (s.modify id change) :=
  ⟨.modify change named found caps, .of_overlays_eq (Nat.le_refl _) fun _ => rfl,
    fun _ => modify_alters ..⟩

theorem record {event : Event} (own : event.mover? = some id) (s : Encounter) :
    Prepares id s (s.record event) :=
  ⟨.record event own s, .of_overlays_eq (Nat.le_refl _) fun _ => rfl, fun _ => .record event s⟩

theorem releasePassive (s : Encounter) : Prepares id s (s.releasePassive id) :=
  ⟨(s.releasePassive_undisturbed id).touched id,
    .shrinks (Nat.le_refl _) (s.overlays_releasePassive id)
      (fun _ single => single.releasePassive id) fun set => set.sources_keep_subset _,
    fun _ => releasePassive_alters ..⟩

theorem tidy (prepares : Prepares id s s') (tidy : Tidy s) (found : s.board.get? id = some gremlin) :
    Tidy s' :=
  tidy.of_touched prepares.touched (tidy.joined found) prepares.keeps

end Prepares

section Batches

variable {id : InstanceId} {s : Encounter} {batch : Batch}

/-- Whoever holds a move does what it does on its own behalf. -/
theorem hold?_eq_some (holds : s.hold? id = some batch) :
    batch.doer = id ∧ Prepares id s batch.start ∧ ∃ gremlin move, s.board.get? id = some gremlin ∧
      batch.start.held? id = some move := by
  obtain ⟨gremlin, living, holds⟩ := Option.bind_eq_some_iff.mp holds
  obtain ⟨move, passive, rfl⟩ := Option.map_eq_some_iff.mp holds
  have found := (get?_of_living? living).1
  have regenerated := get?_modify (·.regenerate) (fun other => (regenerate_id other).trans) found
  have counted := get?_modify (·.countTrigger) (fun _ named => named) regenerated
  refine ⟨rfl, ?_, gremlin, move, found, ?_⟩
  · have first : Prepares id s (s.modify id (·.regenerate)) :=
      .of_undisturbed (regenerate_undisturbed s id) (fun _ => rfl) (List.prefix_refl _)
    exact first.trans (.modify (·.countTrigger) (fun _ named => named) regenerated rfl)
  · have still := (regenerate_undisturbed s id).held?_eq id
    rw [held?_of_get? found, passive, held?_of_get? regenerated] at still
    exact (held?_of_get? counted).trans still

theorem fire?_eq_some (fires : s.fire? id = some batch) :
    ∃ gremlin move, s.board.get? id = some gremlin ∧ gremlin.isAlive = true ∧
      gremlin.currentMove? = some move ∧ gremlin.age.fires = true ∧
      batch = ⟨id, .ticks move.interval, move.effects, s.firing id gremlin, nesting⟩ := by
  obtain ⟨gremlin, living, fires⟩ := Option.bind_eq_some_iff.mp fires
  obtain ⟨move, due, rfl⟩ := Option.map_eq_some_iff.mp fires
  obtain ⟨current, due⟩ := Option.filter_eq_some_iff.mp due
  obtain ⟨found, alive⟩ := get?_of_living? living
  exact ⟨gremlin, move, found, alive, current, due, rfl⟩

theorem firing_prepares {gremlin : Instance} (found : s.board.get? id = some gremlin) :
    Prepares id s (s.firing id gremlin) := by
  have aged := get?_modify (·.age) (fun _ named => named) found
  have older : Prepares id s (s.modify id (·.age)) := .modify (·.age) (fun _ named => named) found rfl
  exact (older.trans (.modify (·.countTrigger) (fun _ named => named) aged rfl)).trans
    (.record rfl _)

/-- Whoever does something on changing its move has entered a passive one. -/
theorem change?_eq_some (changes : s.change? id = some batch) :
    batch.doer = id ∧ Prepares id s batch.start ∧ ∃ gremlin move, s.board.get? id = some gremlin ∧
      batch.start.held? id = some move := by
  obtain ⟨gremlin, living, changes⟩ := Option.bind_eq_some_iff.mp changes
  obtain ⟨index, _, opens⟩ := Option.bind_eq_some_iff.mp changes
  obtain ⟨doer, start, move, held, _⟩ := opening?_eq_some opens
  have found := (get?_of_living? living).1
  refine ⟨doer, ?_, gremlin, move, found, start ▸ held⟩
  rw [start]
  have caps : (gremlin.nextMove s.generator).2.1.installedCaps = gremlin.installedCaps :=
    gremlin.nextMove_view (·.installedCaps) _ fun _ => rfl
  have decides : Prepares id s (s.modify id fun _ => (gremlin.nextMove s.generator).2.1) :=
    .modify _ (fun _ _ => nextMove_id found _) found caps
  have draws := decides.trans (.of_undisturbed
    (Deed.draw _ (gremlin.nextMove s.generator).2.2).undisturbed (fun _ => rfl) (List.prefix_refl _))
  have released := draws.trans (.releasePassive _)
  have enters : ∀ here : Encounter,
      here.board.get? id = some (gremlin.nextMove s.generator).2.1 →
      Prepares id here ((here.modify id (·.enterMove index)).record (.moveEntered id index)) :=
    fun here present => (Prepares.modify (·.enterMove index) (fun _ named => named) present rfl).trans
      (.record rfl _)
  exact released.trans (enters _ (get?_decided found))

end Batches

end Encounter

end Gremlin
