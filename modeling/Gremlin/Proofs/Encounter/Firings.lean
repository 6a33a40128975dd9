import Gremlin.Proofs.Encounter.Alterations
import Gremlin.Proofs.Encounter.Occasions
import Gremlin.Proofs.Encounter.PassiveOverlays

set_option autoImplicit false

/-!
How long the overlays of a firing stay: from the tick in which a move fires through as many ticks as
its interval, unless its gremlin installs or releases in the same slots again.
-/

namespace Gremlin

/-- Whether what an effect does to overlays hangs on a draw or on what its source did before. -/
def Effect.isFickle : Effect → Bool
  | removeConstraints | reinstateConstraints | hardCap .random _ | softCap .random _ => true
  | _ => false

/-- Whether no effect of a move is fickle. -/
def Move.isPlain (move : Move) : Bool := move.effects.all (!·.isFickle)

theorem Effect.fate_of_steadfast {effect : Effect} (steadfast : effect.isFickle = false)
    (slot : Slot) : effect.fate slot = .ofValue (effect.value? slot) := by
  cases effect with
  | hardCap selector limit | softCap selector limit =>
    cases selector <;> cases slot <;> first | rfl | cases steadfast
  | removeConstraints | reinstateConstraints => cases steadfast
  | _ => rfl

/-- Of the effects of a plain move, one after another, the last one for a slot decides. -/
theorem Move.fates_of_plain {move : Move} (plain : move.isPlain = true) {effects : List Effect}
    (own : effects ⊆ move.effects) (slot : Slot) :
    Effect.fates slot effects = .ofValue (effects.filterMap (Effect.value? slot)).getLast? := by
  refine Effect.fates_eq_ofValue fun effect member => Effect.fate_of_steadfast ?_ slot
  have steadfast := List.all_eq_true.mp plain effect (own member)
  exact (Bool.not_eq_true' _).mp steadfast

namespace Encounter

/-- In the firing phase of a tick from `s` on, a gremlin comes to its turn in the state `here`. -/
def FiringTurn (s : Encounter) (id : InstanceId) (here : Encounter) : Prop :=
  ∃ held, s.begun.applyPassives = .ok held ∧ ComesTo fireMove held.board.ids held id here

/-- In its turn of a tick from `s` on, which it comes to in the state `here`, a gremlin fires its
move. -/
structure FiresAt (s : Encounter) (id : InstanceId) (gremlin : Instance) (move : Move)
    (here : Encounter) : Prop where
  turn : s.FiringTurn id here
  living : here.living? id = some gremlin
  current : gremlin.currentMove? = some move
  due : gremlin.age.fires = true

section Fires

variable {s s' here v : Encounter} {id : InstanceId} {gremlin : Instance} {move : Move}

/-- Every turn of the firing phase is over a tidy encounter. -/
theorem FiresAt.tidy (fires : s.FiresAt id gremlin move here) (tidy : Tidy s) (living : s.Living) :
    Tidy here := by
  obtain ⟨held, holds, turn⟩ := fires.turn
  refine turn.preserves (fun _ _ _ _ so_far acted => (fireMove_spares so_far acted).tidy) ?_
  exact (applyPassives_synced (begun_tidy tidy) (begun_living living) holds).1

/-- Whoever fires a plain move has in each slot that the move covers the overlay of its last effect
there. -/
theorem FiresAt.lays (fires : s.FiresAt id gremlin move here) (tidy : Tidy here)
    (plain : move.isPlain = true) (done : here.fireMove id = .ok v) :
    Laid id (.ticks move.interval) (fun slot => .ofValue (move.standing? slot)) here v := by
  obtain ⟨found, alive⟩ := get?_of_living? fires.living
  exact (fireMove_due_laid tidy found alive fires.current fires.due done).mono fun slot =>
    .inl (Move.fates_of_plain plain (List.Subset.refl _) slot)

/-- After the turn of a gremlin the tick goes on to its end. -/
theorem FiresAt.rest_alters (fires : s.FiresAt id gremlin move here)
    (done : here.fireMove id = .ok v) (success : s.advance = .ok s') (slot : Slot) :
    Alters slot Anyone 1 v s' := by
  obtain ⟨_, held, fired, changed, holds, moves, changes, prunes⟩ := advance_eq_ok success
  obtain ⟨_, holds', turn⟩ := fires.turn
  cases holds.symm.trans holds'
  obtain ⟨_, after, done', late⟩ := turn.rest moves
  cases done.symm.trans done'
  have others : Alters slot Anyone 0 v fired :=
    .foldlM (fun acted => (fireMove_alters acted).anyone) late
  have third : Alters slot Anyone 0 fired changed :=
    .foldlM (fun acted => (changeMove_alters acted).anyone) changes
  exact ((others.trans third).trans changed.expire_alters).trans (pruneDead_alters prunes)

end Fires

/-- Since `v` nothing has been installed on behalf of a gremlin in a slot, nor released from it. -/
def Untouched (slot : Slot) (id : InstanceId) (v s : Encounter) : Prop :=
  ∀ line ∈ s.journal.toList.drop v.journal.size, line.event.touches slot (some id) = false

instance (slot : Slot) (id : InstanceId) (v s : Encounter) : Decidable (Untouched slot id v s) :=
  inferInstanceAs (Decidable (∀ line ∈ s.journal.toList.drop v.journal.size, _))

/-- Where nothing is installed or released on behalf of a gremlin, a timed overlay of its loses its
ticks one by one. -/
theorem Alters.overlay?_of_untouched {slot : Slot} {authors : Option InstanceId → Prop}
    {v s : Encounter} {id : InstanceId} {value ticks passed : Nat}
    (alters : Alters slot authors passed v s) (single : (v.overlays slot).Single)
    (untouched : Untouched slot id v s)
    (timed : v.overlay? slot id = some ⟨value, .ticks ticks, some id⟩) :
    s.overlay? slot id =
      if passed ≤ ticks then some ⟨value, .ticks (ticks - passed), some id⟩ else none := by
  obtain ⟨changes, lines, overlays, rfl, journal, told⟩ := alters
  rw [overlay?, overlays]
  refine OverlaySet.of?_changeAll_of_timed single (fun change member own => ?_) timed
  obtain ⟨_, line, written, touches⟩ := told change member _ own
  have later : line ∈ s.journal.toList.drop v.journal.size := by
    rw [journal, ← Array.length_toList, List.drop_left]
    exact written
  rw [untouched line later] at touches
  cases touches

/-- What a plain move lays when it fires stays for as many ticks as the interval of the move, the
tick of the firing counted, unless its gremlin installs or releases there in between. -/
theorem FiresAt.lasts {s s₁ s₂ here v : Encounter} {id : InstanceId}
    {gremlin : Instance} {move : Move} (fires : s.FiresAt id gremlin move here) (tidy : Tidy s)
    (living : s.Living) (plain : move.isPlain = true) (done : here.fireMove id = .ok v)
    (success : s.advance = .ok s₁) {operations : List Operation}
    (ran : Operation.runAll s₁ operations = .ok s₂) {slot : Slot} {value : Nat}
    (covers : move.standing? slot = some value) (untouched : Untouched slot id v s₂) :
    (s₂.overlays slot).overlays.filter (·.source = some id) =
      if operations.countP Operation.isAdvance < move.interval then
        [⟨value, .ticks (move.interval - 1 - operations.countP Operation.isAdvance), some id⟩]
      else [] := by
  have laid := fires.lays (fires.tidy tidy living) plain done
  have timed := laid.own slot
  rw [covers] at timed
  have single := laid.spares.tidy.single slot
  have alters := (fires.rest_alters done success slot).trans (Operation.runAll_alters ran)
  rw [OverlaySet.overlays_filter_source (alters.single single)]
  change (s₂.overlay? slot id).toList = _
  rw [alters.overlay?_of_untouched single untouched timed]
  by_cases remains : operations.countP Operation.isAdvance < move.interval
  · rw [if_pos (by omega), if_pos remains, Nat.sub_add_eq]
    rfl
  · rw [if_neg (by omega), if_neg remains]
    rfl

end Encounter

end Gremlin
