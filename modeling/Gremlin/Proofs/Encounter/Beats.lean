import Gremlin.Proofs.Encounter.Ticks

set_option autoImplicit false

/-!
What a tick is made of. Every call of its phases is a few beats: something changes that nobody hears
of, a gremlin on the board enters or fires a move, or a gremlin on the board does effects. What
beats keep, a tick keeps up to its end.
-/

namespace Gremlin

namespace Encounter

/-- What changes that nobody hears of leave alone: who is there, what the player holds, and all that
was told. -/
structure Still (s s' : Encounter) : Prop where
  clock : s'.clock = s.clock
  ids : s'.board.ids = s.board.ids
  next : s'.board.next = s.board.next
  amounts : s'.pool.amounts = s.pool.amounts
  journal : s'.journal = s.journal
  notices : s'.notices = s.notices

/-- One thing that happens in a tick. -/
inductive Beat : Encounter → Encounter → Prop
  | still {s s' : Encounter} (same : Still s s') : Beat s s'
  | turn (s : Encounter) {id : InstanceId} {event : Event} (present : id ∈ s.board.ids)
      (mover : event.mover? = some id) : Beat s (s.record event)
  | effects {s s' : Encounter} {id : InstanceId} {offered : SummonSpec → Prop}
      (present : id ∈ s.board.ids) (unfolds : Unfolds offered (some id) s s') : Beat s s'

/-- Beats one after another. -/
abbrev Beats : Encounter → Encounter → Prop := Relation.ReflTransGen Beat

theorem Still.beats {s s' : Encounter} (same : Still s s') : Beats s s' := .single (.still same)

theorem still_modify (s : Encounter) (id : InstanceId) (change : Instance → Instance)
    (keeps : ∀ gremlin, gremlin.id = id → (change gremlin).id = id) :
    Still s (s.modify id change) :=
  ⟨rfl, Board.ids_modify keeps, rfl, rfl, rfl, rfl⟩

theorem still_releasePassive (s : Encounter) (id : InstanceId) : Still s (s.releasePassive id) :=
  ⟨rfl, rfl, rfl, rfl, rfl, rfl⟩

theorem Still.trans {s s' s'' : Encounter} (first : Still s s') (second : Still s' s'') :
    Still s s'' where
  clock := second.clock.trans first.clock
  ids := second.ids.trans first.ids
  next := second.next.trans first.next
  amounts := second.amounts.trans first.amounts
  journal := second.journal.trans first.journal
  notices := second.notices.trans first.notices

section Calls

variable {s s' : Encounter} {id : InstanceId}

theorem applyEffects_beats {duration : Duration} {effects : List Effect}
    (present : id ∈ s.board.ids) (success : s.applyEffects (some id) duration effects = .ok s') :
    Beats s s' := by
  have unfolds : Unfolds (fun _ => True) (some id) s s' :=
    applyEffects_unfolds (fun _ _ => trivial) success
  exact .single (.effects present unfolds)

theorem holdMove_beats (success : s.holdMove id = .ok s') : Beats s s' := by
  have regenerated := s.still_modify id (·.regenerate)
    fun gremlin => (regenerate_id gremlin).trans
  cases holdMove_holdsMove success with
  | lifeless => exact .refl
  | active => exact regenerated.beats
  | passive gremlin move _ found alive passive done =>
    have present : id ∈ s.board.ids := Board.mem_ids_iff.mpr ⟨gremlin, found⟩
    have counted := regenerated.trans (still_modify _ id (·.countTrigger) fun _ named => named)
    exact counted.beats.trans (applyEffects_beats (counted.ids ▸ present) done)

theorem fireMove_beats (success : s.fireMove id = .ok s') : Beats s s' := by
  have aged := s.still_modify id (·.age) fun _ named => named
  cases fireMove_firesMove success with
  | lifeless => exact .refl
  | waits => exact aged.beats
  | fires gremlin move _ found alive current due done =>
    have present : id ∈ s.board.ids := Board.mem_ids_iff.mpr ⟨gremlin, found⟩
    have counted := aged.trans (still_modify _ id (·.countTrigger) fun _ named => named)
    rw [← counted.ids] at present
    have fired : Beats _ _ := .single (.turn _ present
      (rfl : (Event.moveFired id gremlin.move).mover? = some id))
    exact (counted.beats.trans fired).trans (applyEffects_beats present done)

theorem enterMove_beats {index : Nat} (success : s.enterMove id index = .ok s') : Beats s s' := by
  have released := s.still_releasePassive id
  cases enterMove_entersMove success with
  | absent => exact released.beats
  | enters gremlin _ found done =>
    have present : id ∈ s.board.ids := Board.mem_ids_iff.mpr ⟨gremlin, found⟩
    have entered := released.trans (still_modify _ id (·.enterMove index) fun _ named => named)
    rw [← entered.ids] at present
    have told : Beats _ _ := .single (.turn _ present
      (rfl : (Event.moveEntered id index).mover? = some id))
    exact (entered.beats.trans told).tail (.effects present (enterPassive_unfolds done))

theorem changeMove_beats (success : s.changeMove id = .ok s') : Beats s s' := by
  have decides : ∀ gremlin, s.board.get? id = some gremlin →
      Still s { s.modify id (fun _ => (gremlin.nextMove s.generator).2.1) with
        generator := (gremlin.nextMove s.generator).2.2 } := fun gremlin found =>
    (s.still_modify id _ fun _ _ => nextMove_id found s.generator).trans
      ⟨rfl, rfl, rfl, rfl, rfl, rfl⟩
  cases changeMove_changesMove success with
  | lifeless => exact .refl
  | stays gremlin found => exact (decides gremlin found).beats
  | enters gremlin index _ found alive next done =>
    exact (decides gremlin found).beats.trans (enterMove_beats done)

theorem foldlM_beats {act : Encounter → InstanceId → Except EncounterError Encounter}
    (each : ∀ {s id s'}, act s id = .ok s' → Beats s s') {ids : List InstanceId}
    (success : ids.foldlM act s = .ok s') : Beats s s' :=
  foldlM_preserves (motive := Beats s) ids
    (fun _ _ _ _ so_far stepped => so_far.trans (each stepped)) .refl success

/-- After the mark of its beginning a tick is made of beats, and at its end the fight is over if
nobody is left. -/
theorem advance_beats (orderly : Orderly s)
    (sound : ∀ template ∈ s.bestiary.templates, template.Sound) (living : s.Living)
    (success : s.advance = .ok s') :
    s.clock.terminated = false ∧
      ∃ last, Beats s.begun last ∧ s' = if last.board.isEmpty then last.terminate else last := by
  obtain ⟨held, fired, changed, stations⟩ := advance_stations orderly sound living success
  have released : Still s.begun { s.begun with
      pool := s.begun.pool.releaseAllPassive
      pressure := s.begun.pressure.releaseAllPassive } := ⟨rfl, rfl, rfl, rfl, rfl, rfl⟩
  have holds : Beats _ held := foldlM_beats holdMove_beats stations.holds
  have fires : Beats held fired := foldlM_beats fireMove_beats stations.fires
  have changes : Beats fired changed := foldlM_beats changeMove_beats stations.changes
  have expires : Still changed changed.expire := ⟨rfl, rfl, rfl, rfl, rfl, rfl⟩
  obtain ⟨last, buried, ended⟩ := bind_eq_ok.mp stations.ends
  rw [stations.nobody] at buried
  cases buried
  refine ⟨stations.running, changed.expire, ?_, (Except.ok.inj ended).symm⟩
  exact (((released.beats.trans holds).trans fires).trans changes).trans expires.beats

end Calls

end Encounter

end Gremlin
