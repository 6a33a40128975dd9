import Gremlin.Proofs.Encounter.Interventions

set_option autoImplicit false

/-!
What passive moves do once. For as long as a gremlin stays in a passive move, what the move does once
is done when it is entered, before anything that stands while it is held; what it drains and decays
is taken in every later tick; and the move never fires.
-/

namespace Gremlin

namespace Effect

/-- Whether an effect is done once with a passive move: a request to the player, a change to the
constraints on the player, a gain, or a summon. -/
def isOneShot : Effect → Bool
  | forceDiscard _ | shuffleHand | copyLastCard | removeConstraints | reinstateConstraints
  | gainArmor .. | gainShields .. | raiseReflect _ | summon _ => true
  | _ => false

/-- Whether an effect takes from what the player has. -/
def isTaking : Effect → Bool
  | drain .. | decay .. => true
  | _ => false

end Effect

namespace Encounter

/-! ### The effects of a passive move -/

section Moves

variable (move : Move)

/-- What a move does once, it does on being entered, before what stands. -/
theorem entryEffects_eq : entryEffects move =
    move.effects.filter (·.isOneShot) ++ move.effects.filter (·.isStanding) := by
  have once : ∀ effect : Effect, (!effect.isContinuous) = effect.isOneShot := by
    intro effect
    cases effect <;> rfl
  rw [entryEffects, List.filter_congr fun effect _ => once effect]

theorem filter_isOneShot_entryEffects :
    (entryEffects move).filter (·.isOneShot) = move.effects.filter (·.isOneShot) := by
  have apart : ∀ effect : Effect, (effect.isOneShot && effect.isStanding) = false := by
    intro effect
    cases effect <;> rfl
  rw [entryEffects_eq, List.filter_append, List.filter_filter, List.filter_filter,
    List.filter_congr fun effect _ => Bool.and_self effect.isOneShot,
    List.filter_congr fun effect _ => apart effect, List.filter_false, List.append_nil]

theorem filter_isOneShot_continuousEffects : (continuousEffects move).filter (·.isOneShot) = [] := by
  refine List.filter_eq_nil_iff.mpr fun effect member => ?_
  have continuous := (List.mem_filter.mp member).2
  cases effect <;> first | exact Bool.false_ne_true | cases continuous

theorem filter_isTaking_entryEffects : (entryEffects move).filter (·.isTaking) = [] := by
  rw [entryEffects_eq]
  refine List.filter_eq_nil_iff.mpr (List.forall_mem_append.mpr ⟨fun effect member => ?_,
    fun effect member => ?_⟩)
  · have once := (List.mem_filter.mp member).2
    cases effect <;> first | exact Bool.false_ne_true | cases once
  · have stands := (List.mem_filter.mp member).2
    cases effect <;> first | exact Bool.false_ne_true | cases stands

theorem filter_isTaking_continuousEffects :
    (continuousEffects move).filter (·.isTaking) = move.effects.filter (·.isTaking) := by
  rw [continuousEffects, List.filter_filter]
  refine List.filter_congr fun effect _ => ?_
  cases effect <;> rfl

end Moves

/-! ### Stays in passive moves -/

namespace Stay

/-- What becomes of the effects of a passive move during a stay in it. -/
structure Settles (id : InstanceId) (move : Move) (all : List Resolution) (stay : Stay) : Prop where
  /-- What is done once is done at the tick of the entry, each effect of the move once. -/
  once : ((stay.own id all).filter (·.effect.isOneShot)).map (fun r => (r.now, r.effect)) =
    (move.effects.filter (·.isOneShot)).map (stay.since, ·)
  /-- It is done before anything that stands. -/
  first : (stay.own id all).Pairwise fun r r' =>
    r.effect.isStanding = true → r'.effect.isOneShot = false
  /-- Drains and decays are done in every tick of the stay after that of the entry. -/
  takes : ((stay.own id all).filter (·.effect.isTaking)).map (fun r => (r.now, r.effect)) =
    (ticksIn stay.lines).flatMap fun now => (move.effects.filter (·.isTaking)).map (now, ·)
  /-- The journal tells of each effect of the move that it tells of, in their order. -/
  told : (∀ size, Effect.summon (.ofSize size) ∉ move.effects) →
    stay.lines.filterMap (·.event.tiding? id) = move.effects.filterMap Effect.tiding?
  stamped : ∀ line ∈ stay.lines, (line.event.tiding? id).isSome = true → line.now = stay.since
  unfired : ∀ line ∈ stay.lines, ∀ index, line.event ≠ .moveFired id index

section Settles

variable {id : InstanceId} {move : Move} {all : List Resolution} {stay : Stay}
  (once : stay.ResolvesOnce id move all)

include once

/-- Of the effects during a stay those of a kind come from those of the entry and of the ticks. -/
theorem ResolvesOnce.filter (kind : Effect → Bool) :
    ((stay.own id all).filter (kind ·.effect)).map (fun r => (r.now, r.effect)) =
      ((entryEffects move).filter kind).map (stay.since, ·) ++
        (ticksIn stay.lines).flatMap fun now =>
          ((continuousEffects move).filter kind).map (now, ·) := by
  have shown := congrArg (List.filter fun entry => kind entry.2) once.resolved
  simp only [List.filter_append, List.filter_flatMap, List.filter_map] at shown
  exact shown

/-- No effect that is done once comes after one that stands. -/
theorem ResolvesOnce.first : (stay.own id all).Pairwise fun r r' =>
    r.effect.isStanding = true → r'.effect.isOneShot = false := by
  have shown : ((stay.own id all).map fun r => (r.now, r.effect)).Pairwise fun entry later =>
      entry.2.isStanding = true → later.2.isOneShot = false := by
    rw [once.resolved, entryEffects_eq, List.map_append, List.append_assoc]
    have early : ∀ entry ∈ (move.effects.filter (·.isOneShot)).map (stay.since, ·),
        entry.2.isStanding ≠ true := by
      refine List.forall_mem_map.mpr fun effect member => ?_
      have once := (List.mem_filter.mp member).2
      cases effect <;> first | exact Bool.false_ne_true | cases once
    have late : ∀ entry ∈ (move.effects.filter (·.isStanding)).map (stay.since, ·) ++
        (ticksIn stay.lines).flatMap fun now => (continuousEffects move).map (now, ·),
        entry.2.isOneShot = false := by
      refine List.forall_mem_append.mpr ⟨List.forall_mem_map.mpr fun effect member => ?_,
        List.forall_mem_flatMap.mpr fun now _ => List.forall_mem_map.mpr fun effect member => ?_⟩
      · have stands := (List.mem_filter.mp member).2
        cases effect <;> first | rfl | cases stands
      · have continuous := (List.mem_filter.mp member).2
        cases effect <;> first | rfl | cases continuous
    refine List.pairwise_append.mpr ⟨?_, ?_, fun _ _ later member _ => late later member⟩
    · exact List.pairwise_of_forall_mem_list fun entry member _ _ stands =>
        absurd stands (early entry member)
    · exact List.pairwise_of_forall_mem_list fun _ _ later member _ => late later member
  exact List.pairwise_map.mp shown

theorem ResolvesOnce.settles : stay.Settles id move all := by
  refine ⟨?_, once.first, ?_, once.tidings, once.stamped, once.unfired⟩
  · have none : ((ticksIn stay.lines).flatMap fun now =>
        ([] : List Effect).map fun effect => (now, effect)) = [] :=
      List.flatMap_eq_nil_iff.mpr fun _ _ => rfl
    rw [once.filter, filter_isOneShot_entryEffects, filter_isOneShot_continuousEffects, none,
      List.append_nil]
  · rw [once.filter, filter_isTaking_entryEffects, filter_isTaking_continuousEffects]
    rfl

end Settles

end Stay

/-! ### Whole fights -/

theorem Blank.told {bestiary : Bestiary} {s : Encounter} (blank : Blank bestiary s)
    (id : InstanceId) (moves : List Move) : Told id moves [] s := by
  have none : s.visits id = {} := by
    rw [visits, blank.journal]
    rfl
  have nobody : s.board.get? id = .none := by
    rw [blank.board]
    rfl
  refine ⟨List.forall_mem_nil _, fun gremlin found => ?_, ?_, ?_, fun _ => ?_⟩
  · rw [nobody] at found
    cases found
  · rw [none]
    exact List.forall_mem_nil _
  · rw [none]
    intro stay present
    cases present
  · rw [none]
    exact ⟨rfl, rfl⟩

/-- Whatever is done with a fight from a blank board on, unless a gremlin is compelled to do effects:
in each of its stays in a passive move, what the move does once is done once. -/
theorem passive_stay_settles {records : List Record} {start here s : Encounter}
    {earlier later : List Intervention} {id : InstanceId} {gremlin : Instance} {stay : Stay}
    {move : Move} (blank : Blank (Bestiary.load records).1 start)
    (early : Intervention.runAll start earlier = .ok here)
    (late : Intervention.runAll here later = .ok s)
    (free : ∀ intervention ∈ earlier ++ later, ¬ intervention.compels id)
    (found : here.board.get? id = some gremlin) (told : stay ∈ stays id s.journal.toList)
    (current : gremlin.template.moves[stay.index]? = some move) (passive : move.isPassive = true) :
    stay.Settles id move (Intervention.allResolutions start (earlier ++ later)) := by
  have closed := Bestiary.load_closed records
  have sound : ∀ template ∈ (Bestiary.load records).1.templates, template.Sound :=
    fun _ member => Bestiary.sound_of_mem_load member
  obtain ⟨freeEarly, freeLate⟩ := List.forall_mem_append.mp free
  obtain ⟨first, lively⟩ := Intervention.runAll_carries closed sound blank.lively freeEarly early
  obtain ⟨second, _⟩ := Intervention.runAll_carries closed sound lively freeLate late
  obtain ⟨moves, _, toldHere⟩ := first.told gremlin.template.moves [] (blank.told id _)
  obtain ⟨moves', same, toldLast⟩ := second.told moves _ toldHere
  have born : id.value < here.board.next := (lively.peopled.enlisted found).born
  have kin : moves' = gremlin.template.moves := (same born).trans (toldHere.kin gremlin found).symm
  have all : Intervention.allResolutions start (earlier ++ later) =
      [] ++ Intervention.allResolutions start earlier ++ Intervention.allResolutions here later :=
    collect_append early
  have proper := (toldLast.proper told).2
  rw [kin, ← all] at proper
  exact (proper move current passive).settles

/-- A censer that sheds mites. -/
def censers : List Record := [
  { templateId := "censer", sizeCategory := "small", maxHealth := 9, movePattern := "single",
    moves := "ticks=0,heat_soft_cap=5,self_gain_armor=3,heat_decay=2,force_discard=1,summon=mite" },
  { templateId := "mite", sizeCategory := "gnat", maxHealth := 1, movePattern := "none" }]

/-- A censer holds its move for two ticks, and is then made to enter it anew. -/
theorem passive_stay_settles_censer : ∃ s stay move,
    Intervention.runAll (new (Bestiary.load censers).1 7) ([.does (.spawn "censer")] ++
      [.does .advance, .does .advance, .enters ⟨0⟩ 0]) = .ok s ∧
    stay ∈ stays ⟨0⟩ s.journal.toList ∧ ticksIn stay.lines = [⟨1⟩, ⟨2⟩] ∧
    move.effects = [.softCap (.only .heat) 5, .gainArmor .source 3, .decay (.only .heat) 2,
      .forceDiscard 1, .summon (.named "mite")] ∧
    stay.Settles ⟨0⟩ move (Intervention.allResolutions (new (Bestiary.load censers).1 7)
      ([.does (.spawn "censer")] ++ [.does .advance, .does .advance, .enters ⟨0⟩ 0])) := by
  have ran : ((Intervention.runAll (new (Bestiary.load censers).1 7)
      [.does (.spawn "censer")]).toOption.map fun here =>
        (((here.board.get? ⟨0⟩).bind (·.template.moves[0]?)).map fun move =>
            (move.isPassive, move.effects),
          (Intervention.runAll here [.does .advance, .does .advance,
            .enters ⟨0⟩ 0]).toOption.map fun s =>
              (stays ⟨0⟩ s.journal.toList).map fun stay => (stay.index, ticksIn stay.lines))) =
      some (some (true, [.softCap (.only .heat) 5, .gainArmor .source 3, .decay (.only .heat) 2,
        .forceDiscard 1, .summon (.named "mite")]), some [(0, [⟨1⟩, ⟨2⟩]), (0, [])]) := by
    decide +kernel
  obtain ⟨here, early, shown⟩ := toOption_map_eq_some.mp ran
  obtain ⟨known, shown⟩ := Prod.mk.inj shown
  obtain ⟨move, current, facts⟩ := Option.map_eq_some_iff.mp known
  obtain ⟨gremlin, found, current⟩ := Option.bind_eq_some_iff.mp current
  obtain ⟨passive, effects⟩ := Prod.mk.inj facts
  obtain ⟨s, late, seen⟩ := toOption_map_eq_some.mp shown
  obtain ⟨stay, rest, told, first, _⟩ := List.map_eq_cons_iff.mp seen
  obtain ⟨index, ticks⟩ := Prod.mk.inj first
  have among : stay ∈ stays ⟨0⟩ s.journal.toList := told ▸ List.mem_cons_self
  refine ⟨s, stay, move, (List.foldlM_append ..).trans (bind_eq_ok.mpr ⟨here, early, late⟩), among,
    ticks, effects, ?_⟩
  exact passive_stay_settles (new_blank _ 7) early late (by simp [Intervention.compels]) found among
    (index.symm ▸ current) passive

end Encounter

end Gremlin
