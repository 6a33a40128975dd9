import Gremlin.Proofs.Encounter.Openings
import Gremlin.Proofs.Encounter.Ticks

set_option autoImplicit false

/-!
What the turns and phases of a tick do to overlays. Passive overlays are lifted, each gremlin renews
those of its move, and whoever changes its move swaps them; so everyone is in step at the end.
-/

namespace Gremlin

namespace Encounter

/-! ### One gremlin alone -/

section Touched

variable {id : InstanceId} {s s' : Encounter}

theorem Tidy.of_touched (tidy : Tidy s) (touched : Touched id s s')
    (joined : id.value < s.board.next) (keeps : Keeps s s') : Tidy s' := by
  refine ⟨⟨tidy.orderly.numbered.of_ids_eq touched.ids (Nat.le_of_eq touched.next.symm), ?_⟩,
    touched.caps tidy.caps, keeps.single tidy.single⟩
  intro other fresh
  rw [touched.next] at fresh
  have apart : other ≠ id := by
    rintro rfl
    exact Nat.not_lt.mpr fresh joined
  rw [touched.turns other apart]
  exact tidy.orderly.silent other fresh

theorem Spares.of_touched (tidy : Tidy s) (touched : Touched id s s')
    (joined : id.value < s.board.next) (keeps : Keeps s s')
    (overlay : ∀ other, other ≠ id → ∀ slot, s'.overlay? slot other = s.overlay? slot other) :
    Spares [id] s s' := by
  refine .of_eq (tidy.of_touched touched joined keeps) touched.next keeps.tagged ?_ ?_
  · intro other outside
    rw [List.mem_singleton] at outside
    exact held?_congr (track?_congr (touched.bare other outside) (touched.turns other outside))
  · intro other outside
    rw [List.mem_singleton] at outside
    exact overlay other outside

/-- A gremlin is changed but for its move. -/
theorem Laid.of_touched {duration : Duration} (tidy : Tidy s) (touched : Touched id s s')
    (joined : id.value < s.board.next) (overlays : ∀ slot, s'.overlays slot = s.overlays slot)
    (held : s'.held? id = s.held? id) : Laid id duration (fun _ => .keeps) s s' := by
  have overlay : ∀ other slot, s'.overlay? slot other = s.overlay? slot other := fun other slot =>
    congrArg (OverlaySet.of? · (some other)) (overlays slot)
  exact ⟨.of_touched tidy touched joined
      (.of_overlays_eq (Nat.le_of_eq touched.next.symm) overlays) fun other _ => overlay other,
    held, fun slot => overlay id slot⟩

theorem held?_of_get? {gremlin : Instance} (found : s.board.get? id = some gremlin) :
    s.held? id = gremlin.passiveMove? := by
  rw [held?, found, Option.bind_some]

theorem Tidy.joined (tidy : Tidy s) {gremlin : Instance} (found : s.board.get? id = some gremlin) :
    id.value < s.board.next :=
  tidy.orderly.numbered.below id (Board.mem_ids_iff.mpr ⟨gremlin, found⟩)

theorem modify_laid {duration : Duration} {gremlin : Instance} (tidy : Tidy s)
    (found : s.board.get? id = some gremlin) (change : Instance → Instance)
    (keeps : ∀ other : Instance, other.id = id → (change other).id = id)
    (caps : (change gremlin).installedCaps = gremlin.installedCaps)
    (passive : (change gremlin).passiveMove? = gremlin.passiveMove?) :
    Laid id duration (fun _ => .keeps) s (s.modify id change) := by
  refine .of_touched tidy (.modify change keeps found caps) (tidy.joined found) (fun slot => rfl) ?_
  rw [held?_of_get? (get?_modify change keeps found), held?_of_get? found, passive]

end Touched

/-! ### Turns -/

/-- The effects that a passive move does every tick it is held. -/
def continuousEffects (move : Move) : List Effect := move.effects.filter (·.isContinuous)

theorem fates_continuousEffects {slot : Slot} {move : Move} (certain : move.draws slot = false) :
    Effect.fates slot (continuousEffects move) = .ofValue (move.standing? slot) := by
  refine Move.fates_filter certain (fun effect standing => ?_) fun _ continuous => continuous
  cases effect <;> first | rfl | cases standing

theorem continuousEffects_renews : Renews continuousEffects := by
  refine ⟨fun move => List.filter_subset_self _, fun move slot value certain stands => ?_⟩
  rw [fates_continuousEffects certain, stands]
  rfl

section Turns

variable {id : InstanceId} {gremlin : Instance} {s s' : Encounter}

/-- Nothing happens for those who are gone or lifeless. -/
theorem spares_of_ifAlive {act : Instance → Except EncounterError Encounter} (tidy : Tidy s)
    (success : s.ifAlive id act = .ok s')
    (acts : ∀ gremlin, s.board.get? id = some gremlin → gremlin.isAlive = true →
      act gremlin = .ok s' → Spares [id] s s') : Spares [id] s s' := by
  rcases ifAlive_eq_ok success with ⟨gremlin, found, alive, acted⟩ | ⟨rfl, _⟩
  · exact acts gremlin found alive acted
  · exact .of_undisturbed tidy (.refl s') fun _ => rfl

theorem ifAlive_of_alive {act : Instance → Except EncounterError Encounter}
    (found : s.board.get? id = some gremlin) (alive : gremlin.isAlive = true) :
    s.ifAlive id act = act gremlin := by
  rw [ifAlive, found]
  exact if_pos alive

/-- The turn of a gremlin that is alive, in the passive phase. -/
theorem holdMove_of_alive (found : s.board.get? id = some gremlin) (alive : gremlin.isAlive = true) :
    s.holdMove id = match gremlin.passiveMove? with
      | some move =>
        ((s.modify id (·.regenerate)).modify id (·.countTrigger)).applyEffects (some id) .passive
          (continuousEffects move)
      | none => .ok (s.modify id (·.regenerate)) :=
  ifAlive_of_alive found alive

/-- A gremlin that holds a passive move does what the move does every tick. -/
theorem holdMove_laid (tidy : Tidy s) (found : s.board.get? id = some gremlin)
    (alive : gremlin.isAlive = true) (success : s.holdMove id = .ok s') :
    Laid id .passive (heldFate continuousEffects (s.held? id)) s s' := by
  rw [holdMove_of_alive found alive] at success
  rw [held?_of_get? found]
  have regenerated : Laid id .passive (fun _ => .keeps) s (s.modify id (·.regenerate)) :=
    .of_undisturbed tidy (regenerate_undisturbed s id) fun slot => rfl
  have joined := tidy.joined found
  have later := Nat.lt_of_lt_of_le joined regenerated.spares.next
  split at success
  · rename_i move passive
    have present := get?_modify (·.regenerate) (fun other => (regenerate_id other).trans) found
    have counted : Laid id .passive (fun _ => .keeps) _ _ :=
      modify_laid regenerated.spares.tidy present (·.countTrigger) (fun _ named => named) rfl rfl
    have done := (regenerated.trans counted joined).trans
      (applyEffects_laid counted.spares.tidy (Nat.lt_of_lt_of_le later counted.spares.next) success)
      joined
    rw [passive]
    exact done.mono fun slot => .inl (Fate.keeps_andThen _)
  · rename_i idle
    cases success
    rw [idle]
    exact regenerated

theorem holdMove_spares (tidy : Tidy s) (success : s.holdMove id = .ok s') : Spares [id] s s' :=
  spares_of_ifAlive tidy success fun _ found alive _ =>
    (holdMove_laid tidy found alive success).spares

/-- A gremlin is a tick older and about to do what its move does on firing. -/
def firing (s : Encounter) (id : InstanceId) (gremlin : Instance) : Encounter :=
  ((s.modify id (·.age)).modify id (·.countTrigger)).record (.moveFired id gremlin.move)

theorem aged_laid {duration : Duration} (tidy : Tidy s) (found : s.board.get? id = some gremlin) :
    Laid id duration (fun _ => .keeps) s (s.modify id (·.age)) :=
  modify_laid tidy found (·.age) (fun _ named => named) rfl rfl

theorem firing_laid {duration : Duration} (tidy : Tidy s)
    (found : s.board.get? id = some gremlin) :
    Laid id duration (fun _ => .keeps) s (s.firing id gremlin) := by
  have joined := tidy.joined found
  have aged : Laid id duration (fun _ => .keeps) s _ := aged_laid tidy found
  have older := get?_modify (·.age) (fun _ named => named) found
  have counted : Laid id duration (fun _ => .keeps) _ _ :=
    modify_laid aged.spares.tidy older (·.countTrigger) (fun _ named => named) rfl rfl
  have twice := aged.trans counted joined
  exact twice.trans (.of_touched twice.spares.tidy (.record (.moveFired id gremlin.move) rfl _)
    (Nat.lt_of_lt_of_le joined twice.spares.next) (fun slot => rfl) rfl) joined

/-- The turn of a gremlin that is alive, when its move fires. -/
theorem fireMove_of_due (found : s.board.get? id = some gremlin) (alive : gremlin.isAlive = true)
    {move : Move} (current : gremlin.currentMove? = some move) (due : gremlin.age.fires = true) :
    s.fireMove id =
      (s.firing id gremlin).applyEffects (some id) (.ticks move.interval) move.effects := by
  rw [fireMove, ifAlive_of_alive found alive]
  dsimp only
  rw [current]
  exact if_pos due

/-- A gremlin whose move fires does what the move does, for as many ticks as its interval. -/
theorem fireMove_due_laid (tidy : Tidy s) (found : s.board.get? id = some gremlin)
    (alive : gremlin.isAlive = true) {move : Move} (current : gremlin.currentMove? = some move)
    (due : gremlin.age.fires = true) (success : s.fireMove id = .ok s') :
    Laid id (.ticks move.interval) (Effect.fates · move.effects) s s' := by
  rw [fireMove_of_due found alive current due] at success
  have joined := tidy.joined found
  have fires : Laid id (.ticks move.interval) (fun _ => .keeps) s _ := firing_laid tidy found
  exact (fires.trans (applyEffects_laid fires.spares.tidy
    (Nat.lt_of_lt_of_le joined fires.spares.next) success) joined).mono fun slot =>
      .inl (Fate.keeps_andThen _)

theorem isPassive_of_due {move : Move} (current : gremlin.currentMove? = some move)
    (due : gremlin.age.fires = true) : move.isPassive = false := by
  rw [Instance.fires, show gremlin.age.currentMove? = some move from current] at due
  exact (Bool.not_eq_true' _).mp (Bool.and_eq_true_iff.mp due).1

/-- A gremlin whose move does not fire only grows older. -/
theorem fireMove_of_waiting (found : s.board.get? id = some gremlin)
    (alive : gremlin.isAlive = true) (waits : gremlin.age.fires = false) :
    s.fireMove id = .ok (s.modify id (·.age)) := by
  rw [fireMove, ifAlive_of_alive found alive]
  dsimp only
  split
  · exact if_neg (Bool.eq_false_iff.mp waits)
  · rfl

/-- Only moves that are not passive fire. -/
theorem fireMove_laid (tidy : Tidy s) (found : s.board.get? id = some gremlin)
    (alive : gremlin.isAlive = true) (success : s.fireMove id = .ok s') :
    Laid id .passive (fun _ => .keeps) s s' ∨
      s.held? id = none ∧ ∃ ticks, Laid id (.ticks ticks) (fun _ => .unsure) s s' := by
  cases due : gremlin.age.fires with
  | false =>
    rw [fireMove_of_waiting found alive due] at success
    cases success
    exact .inl (aged_laid tidy found)
  | true =>
    cases current : gremlin.currentMove? with
    | none =>
      rw [Instance.fires, show gremlin.age.currentMove? = none from current] at due
      cases due
    | some move =>
      refine .inr ⟨?_, move.interval, ?_⟩
      · rw [held?_of_get? found, Instance.passiveMove?, current, Option.filter_some,
          isPassive_of_due current due, if_neg Bool.false_ne_true]
      · exact (fireMove_due_laid tidy found alive current due success).mono fun slot => .inr rfl

theorem fireMove_spares (tidy : Tidy s) (success : s.fireMove id = .ok s') : Spares [id] s s' :=
  spares_of_ifAlive tidy success fun _ found alive _ => by
    rcases fireMove_laid tidy found alive success with laid | ⟨_, _, laid⟩
    · exact laid.spares
    · exact laid.spares

theorem overlays_releasePassive (s : Encounter) (id : InstanceId) (slot : Slot) :
    (s.releasePassive id).overlays slot = (s.overlays slot).releasePassive id :=
  overlays_mapOverlays (·.releasePassive id) s slot

/-- Whatever a gremlin has after its passive overlays are lifted is not passive. -/
theorem not_passive_of_releasePassive {slot : Slot} {overlay : Overlay}
    (single : (s.overlays slot).Single)
    (found : (s.releasePassive id).overlay? slot id = some overlay) : overlay.duration ≠ .passive := by
  rw [overlay?, overlays_releasePassive, OverlaySet.of?_releasePassive_same single] at found
  simpa using (Option.filter_eq_some_iff.mp found).2

theorem releasePassive_spares (tidy : Tidy s) (joined : id.value < s.board.next) :
    Spares [id] s (s.releasePassive id) := by
  refine .of_touched tidy ((s.releasePassive_undisturbed id).touched id) joined
    (.shrinks (Nat.le_refl _) (s.overlays_releasePassive id)
      (fun set single => single.releasePassive id) fun set => set.sources_keep_subset _) ?_
  intro other apart slot
  rw [overlay?, overlays_releasePassive]
  exact OverlaySet.of?_releasePassive_other (tidy.single slot) fun same =>
    apart (Option.some.inj same)

/-- Whoever enters a move is in step with it, and the journal tells of it. -/
theorem enterMove_spares {index : Nat} (tidy : Tidy s) (found : s.board.get? id = some gremlin)
    (success : s.enterMove id index = .ok s') :
    Spares [id] s s' ∧ s'.InStep id ∧ ⟨s.now, .moveEntered id index⟩ ∈ s'.turns id := by
  have joined := tidy.joined found
  have lifted := releasePassive_spares tidy joined
  have stays : (s.releasePassive id).board.get? id = some gremlin := found
  rw [enterMove, stays] at success
  dsimp only at success
  generalize opens : ((s.releasePassive id).modify id (·.enterMove index)).record
    (.moveEntered id index) = opening at success
  have touched : Touched id (s.releasePassive id) opening := opens ▸
    (Touched.modify (·.enterMove index) (fun _ named => named) stays rfl).trans
      (.record (.moveEntered id index) rfl _)
  have overlays : ∀ slot, opening.overlays slot = (s.releasePassive id).overlays slot :=
    fun slot => opens ▸ rfl
  have entered : Spares [id] (s.releasePassive id) opening :=
    .of_touched lifted.tidy touched joined
      (.of_overlays_eq (Nat.le_of_eq touched.next.symm) overlays)
      fun other _ slot => congrArg (OverlaySet.of? · (some other)) (overlays slot)
  have below : id.value < opening.board.next := Nat.lt_of_lt_of_le joined entered.next
  have laid := enterPassive_laid entered.tidy below success
  have old : ∀ other ∈ [id], other.value < s.board.next := fun other single =>
    List.mem_singleton.mp single ▸ joined
  -- its passive overlays are gone before the opening lays those of the new move
  refine ⟨(lifted.trans entered old).trans laid.spares old,
    .of_renewed entryEffects_renews laid.held laid.own ?_, ?_⟩
  · intro slot overlay present
    rw [overlay?, overlays] at present
    exact not_passive_of_releasePassive (tidy.single slot) present
  · have present : opening.board.get? id = some (gremlin.enterMove index) :=
      opens ▸ get?_modify (·.enterMove index) (fun _ named => named) stays
    have phase : Phase (fun _ _ _ => True) [] opening s' :=
      (enterPassive_effected success).phase entered.tidy.orderly
    have kept := phase.kept id List.not_mem_nil _ (track?_of_get? present)
    obtain ⟨_, _, same⟩ := get?_of_track? kept
    rw [← (Track.mk.inj same).2, ← opens, turns_record]
    simp only [Event.mover?, ↓reduceIte, List.mem_append]
    exact .inr (List.mem_singleton.mpr rfl)

/-- A gremlin keeps its move and its overlays, or enters a move and is in step with it. -/
theorem changeMove_spares (tidy : Tidy s) (success : s.changeMove id = .ok s') :
    Spares [id] s s' ∧ (Laid id .passive (fun _ => .keeps) s s' ∨
      s'.InStep id ∧ ∃ index, ⟨s.now, .moveEntered id index⟩ ∈ s'.turns id) := by
  have decides : ∀ gremlin, s.board.get? id = some gremlin →
      Laid id .passive (fun _ => .keeps) s
        { s.modify id (fun _ => (gremlin.nextMove s.generator).2.1) with
          generator := (gremlin.nextMove s.generator).2.2 } := by
    intro gremlin found
    have decides : Laid id .passive (fun _ => .keeps) s
        (s.modify id fun _ => (gremlin.nextMove s.generator).2.1) :=
      modify_laid tidy found (fun _ => (gremlin.nextMove s.generator).2.1)
        (fun _ _ => nextMove_id found s.generator)
        (gremlin.nextMove_view (·.installedCaps) _ fun _ => rfl)
        (gremlin.nextMove_view (·.passiveMove?) _ fun _ => rfl)
    exact decides.trans (.of_undisturbed decides.spares.tidy
      (Deed.draw _ (gremlin.nextMove s.generator).2.2).undisturbed fun slot => rfl)
        (tidy.joined found)
  cases changeMove_changesMove success with
  | lifeless =>
    exact ⟨.of_undisturbed tidy (.refl s) fun _ => rfl,
      .inl (.of_undisturbed tidy (.refl s) fun _ => rfl)⟩
  | stays gremlin found => exact ⟨(decides gremlin found).spares, .inl (decides gremlin found)⟩
  | enters gremlin index _ found alive next done =>
    have decided := (decides gremlin found).spares
    obtain ⟨entered, inStep, told⟩ := enterMove_spares decided.tidy (nextMove_touched found).2 done
    refine ⟨decided.trans entered ?_, .inr ⟨inStep, index, told⟩⟩
    intro other single
    exact List.mem_singleton.mp single ▸ tidy.joined found

end Turns

/-! ### Phases -/

/-- If each call spares all but one gremlin, going over some spares all but those. -/
theorem foldlM_spares {act : Encounter → InstanceId → Except EncounterError Encounter}
    (each : ∀ {s id s'}, Tidy s → act s id = .ok s' → Spares [id] s s') {ids : List InstanceId}
    {s s' : Encounter} (tidy : Tidy s) (joined : ∀ id ∈ ids, id.value < s.board.next)
    (success : ids.foldlM act s = .ok s') : Spares ids s s' := by
  induction ids generalizing s with
  | nil =>
    cases success
    exact .of_undisturbed tidy (.refl _) fun _ => rfl
  | cons id rest ih =>
    rw [List.foldlM_cons, bind_eq_ok] at success
    obtain ⟨after, acted, success⟩ := success
    have first := each tidy acted
    have others := ih first.tidy (fun other member => Nat.lt_of_lt_of_le
      (joined other (List.mem_cons_of_mem _ member)) first.next) success
    refine (first.mono fun other single => ?_).trans
      (others.mono fun other member => List.mem_cons_of_mem _ member) joined
    exact List.mem_singleton.mp single ▸ List.mem_cons_self

/-- Everyone is in step. -/
structure Synced (s : Encounter) : Prop where
  tidy : Tidy s
  tagged : s.Tagged
  inStep : ∀ id, s.InStep id

/-- An encounter without its passive overlays. -/
def lifted (s : Encounter) : Encounter :=
  { s with pool := s.pool.releaseAllPassive, pressure := s.pressure.releaseAllPassive }

theorem overlays_lifted (s : Encounter) (slot : Slot) :
    s.lifted.overlays slot = (s.overlays slot).releaseAllPassive :=
  overlays_mapOverlays (·.releaseAllPassive) s slot

theorem lifted_orderly {s : Encounter} (orderly : Orderly s) : s.lifted.Orderly :=
  @Orderly.of_board_eq s s.lifted rfl (fun _ => rfl) orderly

theorem lifted_living {s : Encounter} (living : s.Living) : s.lifted.Living := living

theorem lifted_keeps (s : Encounter) : Keeps s s.lifted :=
  .shrinks (Nat.le_refl _) s.overlays_lifted (fun _ single => single.releaseAllPassive)
    fun set => set.sources_keep_subset _

theorem lifted_tidy {s : Encounter} (tidy : Tidy s) : Tidy s.lifted :=
  tidy.of_undisturbed (.of_board_eq rfl rfl rfl fun _ => rfl) s.lifted_keeps

theorem not_passive_of_lifted {s : Encounter} (tidy : Tidy s) {slot : Slot} {id : InstanceId}
    {overlay : Overlay} (found : s.lifted.overlay? slot id = some overlay) :
    overlay.duration ≠ .passive := by
  rw [overlay?, overlays_lifted,
    OverlaySet.of?_releaseAllPassive (tidy.single slot)] at found
  simpa using (Option.filter_eq_some_iff.mp found).2

/-- Whoever still waits for its turn in the passive phase is as it was before, and alive. -/
theorem track?_of_waiting {before : List InstanceId} {s here : Encounter} (orderly : Orderly s)
    (living : s.Living) (distinct : before.Nodup) (present : before ⊆ s.board.ids)
    (success : before.foldlM holdMove s = .ok here) {id : InstanceId} (member : id ∈ s.board.ids)
    (waits : id ∉ before) :
    here.track? id = s.track? id ∧
      ∃ gremlin, here.board.get? id = some gremlin ∧ gremlin.isAlive = true := by
  have phase := foldlM_phase holdMove_phase orderly distinct (fun id member => present member)
    success
  obtain ⟨gremlin, found⟩ := Board.mem_ids_iff.mp member
  have track := track?_of_get? found
  have kept := phase.kept id waits _ track
  obtain ⟨gremlin', present', same⟩ := get?_of_track? kept
  have health : gremlin'.health = gremlin.health :=
    (congrArg (·.gremlin.health) same.symm : gremlin'.bare.health = gremlin.bare.health)
  refine ⟨kept.trans track.symm, gremlin', present', Instance.isAlive_iff.mpr ?_⟩
  rw [health]
  exact (living id _ track).positive

/-- Those who still wait for their turn in the passive phase keep their overlays. -/
theorem waits_for_turn {before : List InstanceId} {s here : Encounter} (tidy : Tidy s)
    (living : s.Living) (distinct : before.Nodup) (present : before ⊆ s.board.ids)
    (success : before.foldlM holdMove s.lifted = .ok here) :
    Spares before s.lifted here ∧ ∀ id ∈ s.board.ids, id ∉ before →
      ∃ gremlin, here.board.get? id = some gremlin ∧ gremlin.isAlive = true := by
  have start := lifted_tidy tidy
  refine ⟨foldlM_spares holdMove_spares start
    (fun id member => start.orderly.numbered.below id (present member)) success, ?_⟩
  exact fun id member waits => (track?_of_waiting start.orderly (lifted_living living) distinct
    present success member waits).2

/-- Whoever has had its turn in the passive phase has overlays as the effects that its move goes on
doing make them of those left when the passive overlays were lifted. -/
theorem renews_in_turn {ids : List InstanceId} {s s' : Encounter} (tidy : Tidy s)
    (living : s.Living) (distinct : ids.Nodup) (present : ids ⊆ s.board.ids)
    (success : ids.foldlM holdMove s.lifted = .ok s') {id : InstanceId} (member : id ∈ ids) :
    s'.held? id = s.held? id ∧ ∀ slot,
      (heldFate continuousEffects (s.held? id) slot).Holds .passive id (s.lifted.overlay? slot id)
        (s'.overlay? slot id) := by
  obtain ⟨before, after, here, next, rfl, early, turn, late⟩ :=
    exists_of_foldlM_eq_ok member success
  obtain ⟨distinctBefore, distinctAfter, apart⟩ := List.nodup_append.mp distinct
  have above : id ∉ before := fun earlier => apart id earlier id List.mem_cons_self rfl
  have joined : ∀ other ∈ before ++ id :: after, other.value < s.board.next :=
    fun other known => tidy.orderly.numbered.below other (present known)
  obtain ⟨earlier, alive⟩ := waits_for_turn tidy living distinctBefore
    (fun other known => present (List.mem_append_left _ known)) early
  obtain ⟨gremlin, found, lives⟩ := alive id (present member) above
  have laid := holdMove_laid earlier.tidy found lives turn
  have grown : s.board.next ≤ next.board.next := Nat.le_trans earlier.next laid.spares.next
  have later : Spares after next s' := foldlM_spares holdMove_spares laid.spares.tidy
    (fun other known => Nat.lt_of_lt_of_le
      (joined other (List.mem_append_right _ (List.mem_cons_of_mem _ known))) grown) late
  have below : id ∉ after := (List.nodup_cons.mp distinctAfter).1
  have old : id.value < next.board.next := Nat.lt_of_lt_of_le (joined id member) grown
  -- neither those before it nor those after it touch what is its own
  have held : here.held? id = s.held? id := earlier.held id above (joined id member)
  refine ⟨(later.held id below old).trans (laid.held.trans held), fun slot => ?_⟩
  rw [← held, later.overlay id below old slot, ← earlier.overlay id above (joined id member) slot]
  exact laid.own slot

end Encounter

end Gremlin
