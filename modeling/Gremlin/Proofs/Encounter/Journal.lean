import Gremlin.Proofs.Encounter.Broods
import Gremlin.Proofs.Encounter.Reach

set_option autoImplicit false

/-!
The journal only grows, and everything done in a fight writes events of its own kind: effects tell
of what they do and of summons, a turn tells of the moves of the gremlin whose turn it is, and
ticks and the end of the fight are written by the clock alone.
-/

namespace Gremlin

namespace Event

/-- Whether an event is one of the clock. -/
def isClock : Event → Bool
  | tick _ | terminated => true
  | _ => false

/-- Whether an event marks the beginning of a tick. -/
def isTick : Event → Bool
  | tick _ => true
  | _ => false

theorem isTick_of_not_clock {event : Event} (clock : event.isClock = false) :
    event.isTick = false := by
  cases event <;> first | rfl | cases clock

/-- Whether an event tells what an effect other than a summon has done. -/
def isAside : Event → Bool
  | drained .. | decayed .. | capInstalled .. | pressureApplied .. | constraintsRemoved _
  | constraintsReinstated .. | armorGained .. | shieldsGained .. | reflectRaised ..
  | requested .. => true
  | _ => false

/-- Whether an event tells of a request to the player, or that a gremlin's overlays are lifted or
its caps installed again. -/
def announces : Event → Bool
  | requested .. | constraintsRemoved _ | constraintsReinstated .. => true
  | _ => false

/-- Whom an event names. -/
def named : Event → List InstanceId
  | tick _ | terminated => []
  | summoned summoner id => summoner.toList ++ [id]
  | spawned id _ | summonBlocked id _ | moveEntered id _ | moveFired id _ | constraintsRemoved id
  | constraintsReinstated id _ | armorGained id _ | shieldsGained id _ | reflectRaised id _
  | hit id _ | executed id _ | died id _ => [id]
  | drained source .. | decayed source .. | capInstalled source .. | pressureApplied source ..
  | requested source _ => source.toList

/-- The events that the effects of a source can lead to if `next` is the number of the next gremlin
to join: only the source and newcomers summon. -/
inductive OfEffects (source : Option InstanceId) (next : Nat) : Event → Prop
  | aside {event : Event} (aside : event.isAside = true) : OfEffects source next event
  | summoned {summoner : Option InstanceId} (id : InstanceId)
      (whose : summoner = source ∨ ∃ newcomer : InstanceId, summoner = some newcomer ∧
        next ≤ newcomer.value) : OfEffects source next (.summoned summoner id)
  | blocked {id : InstanceId} (spec : SummonSpec) (whose : some id = source ∨ next ≤ id.value) :
      OfEffects source next (.summonBlocked id spec)

/-- The events that turns of some gremlins can lead to: only theirs are entries and firings. -/
structure OfTurns (ids : List InstanceId) (event : Event) : Prop where
  isClock : event.isClock = false
  mover : ∀ id, event.mover? = some id → id ∈ ids

/-- What a newcomer leads to counts as what its summoner leads to. -/
theorem OfEffects.of_newcomer {source : Option InstanceId} {id : InstanceId} {next next' : Nat}
    {event : Event} (told : OfEffects (some id) next' event) (grown : next ≤ next')
    (fresh : next ≤ id.value) : OfEffects source next event := by
  cases told with
  | aside aside => exact .aside aside
  | summoned other whose =>
    refine .summoned other (.inr ?_)
    rcases whose with same | ⟨newcomer, same, later⟩
    · exact ⟨id, same, fresh⟩
    · exact ⟨newcomer, same, Nat.le_trans grown later⟩
  | blocked spec whose =>
    refine .blocked spec (.inr ?_)
    rcases whose with same | later
    · cases same
      exact fresh
    · exact Nat.le_trans grown later

theorem OfTurns.of_still {event : Event} (isClock : event.isClock = false)
    (still : event.mover? = none) (ids : List InstanceId) : OfTurns ids event := by
  refine ⟨isClock, fun id moved => ?_⟩
  rw [still] at moved
  cases moved

theorem OfEffects.ofTurns {source : Option InstanceId} {next : Nat} {event : Event}
    (told : OfEffects source next event) (ids : List InstanceId) : OfTurns ids event := by
  cases told with
  | aside aside =>
    cases event <;> first
      | (cases aside; done)
      | exact .of_still rfl rfl ids
  | summoned id whose => exact .of_still rfl rfl ids
  | blocked spec whose => exact .of_still rfl rfl ids

theorem OfTurns.mono {ids ids' : List InstanceId} {event : Event} (told : OfTurns ids event)
    (among : ids ⊆ ids') : OfTurns ids' event :=
  ⟨told.isClock, fun id moved => among (told.mover id moved)⟩

end Event

/-- Whether an effect is announced whenever it is done: it is a request, or for all overlays or caps
of its source. -/
def Effect.isAnnounced : Effect → Bool
  | forceDiscard _ | shuffleHand | copyLastCard | removeConstraints | reinstateConstraints => true
  | _ => false

namespace Encounter

/-- From `s` to `s'` only events of a kind are written, at the tick of `s`. -/
structure Writes (kind : Event → Prop) (s s' : Encounter) : Prop where
  clock : s'.clock = s.clock
  layout : s'.layout = s.layout
  lines : ∃ lines, s'.journal.toList = s.journal.toList ++ lines ∧
    ∀ line ∈ lines, line.now = s.now ∧ kind line.event

namespace Writes

variable {kind : Event → Prop} {s s' s'' : Encounter}

theorem of_journal_eq (clock : s'.clock = s.clock) (layout : s'.layout = s.layout)
    (journal : s'.journal = s.journal) : Writes kind s s' :=
  ⟨clock, layout, [], by rw [journal, List.append_nil], fun _ none => by cases none⟩

theorem refl (s : Encounter) : Writes kind s s := of_journal_eq rfl rfl rfl

theorem now_eq (writes : Writes kind s s') : s'.now = s.now := congrArg Clock.now writes.clock

theorem mono {wider : Event → Prop} (writes : Writes kind s s')
    (among : ∀ event, kind event → wider event) : Writes wider s s' := by
  obtain ⟨lines, journal, told⟩ := writes.lines
  exact ⟨writes.clock, writes.layout, lines, journal,
    fun line member => (told line member).imp_right (among line.event)⟩

theorem trans (first : Writes kind s s') (second : Writes kind s' s'') : Writes kind s s'' := by
  obtain ⟨early, journal, told⟩ := first.lines
  obtain ⟨late, journal', told'⟩ := second.lines
  refine ⟨second.clock.trans first.clock, second.layout.trans first.layout, early ++ late, ?_, ?_⟩
  · rw [journal', journal, List.append_assoc]
  · intro line member
    rcases List.mem_append.mp member with before | after
    · exact told line before
    · rw [← first.now_eq]
      exact told' line after

theorem record {event : Event} (told : kind event) (s : Encounter) :
    Writes kind s (s.record event) := by
  refine ⟨rfl, rfl, [⟨s.now, event⟩], Array.toList_push .., ?_⟩
  intro line member
  rw [List.mem_singleton] at member
  subst member
  exact ⟨rfl, told⟩

theorem foldl {α : Type} {act : Encounter → α → Encounter} {arguments : List α}
    (each : ∀ s, ∀ argument ∈ arguments, Writes kind s (act s argument)) (s : Encounter) :
    Writes kind s (arguments.foldl act s) := by
  induction arguments generalizing s with
  | nil => exact .refl s
  | cons argument rest ih =>
    have onward := ih fun s other member => each s other (List.mem_cons_of_mem _ member)
    exact (each s argument List.mem_cons_self).trans (onward (act s argument))

theorem foldlM {α : Type} {act : Encounter → α → Except EncounterError Encounter}
    {arguments : List α}
    (each : ∀ {s argument s'}, argument ∈ arguments → act s argument = .ok s' → Writes kind s s')
    (success : arguments.foldlM act s = .ok s') : Writes kind s s' :=
  foldlM_preserves (motive := Writes kind s) arguments
    (fun _ _ _ member so_far stepped => so_far.trans (each member stepped)) (.refl s) success

/-- Nothing that was written is lost. -/
theorem journal_kept (writes : Writes kind s s') : s.journal.toList <+: s'.journal.toList := by
  obtain ⟨lines, journal, _⟩ := writes.lines
  exact ⟨lines, journal.symm⟩

end Writes

/-! ### Effects -/

section Asides

variable {kind : Event → Prop}

theorem takeForce_writes {event : Force → Nat → Event} (told : ∀ force n, kind (event force n))
    (amount : Nat) (s : Encounter) (force : Force) :
    Writes kind s (takeForce event amount s force) := by
  have drained : Writes kind s { s with pool := (s.pool.drain force amount).1 } :=
    .of_journal_eq rfl rfl rfl
  unfold takeForce
  dsimp only
  split
  · exact drained
  · exact drained.trans (.record (told force _) _)

theorem change_writes (change : Instance → Instance) {event : InstanceId → Event}
    {id : InstanceId} (told : kind (event id)) (s : Encounter) :
    Writes kind s (Encounter.change change event s id) := by
  have changed : Writes kind s (s.modify id change) := .of_journal_eq rfl rfl rfl
  exact changed.trans (.record told _)

theorem rememberCap_writes (s : Encounter) (source : Option InstanceId) (effect : Effect) :
    Writes kind s (s.rememberCap source effect) := by
  cases source <;> exact .of_journal_eq rfl rfl rfl

theorem presentForces_writes (s : Encounter) (selector : Selector) :
    Writes kind s (s.presentForces selector).2 := by
  cases selector <;> exact .of_journal_eq rfl rfl rfl

theorem cappedForces_writes (s : Encounter) (selector : Selector) :
    Writes kind s (s.cappedForces selector).2 := by
  cases selector <;> exact .of_journal_eq rfl rfl rfl

theorem inScope_subset (s : Encounter) (source : Option InstanceId) (scope : Scope) :
    s.inScope source scope ⊆ s.board.ids := by
  intro id member
  cases scope with
  | source =>
    obtain ⟨_, found⟩ := Option.filter_eq_some_iff.mp (Option.mem_toList.mp member)
    exact Board.mem_ids_iff.mpr (Option.isSome_iff_exists.mp found)
  | allGremlins => exact (List.filter_sublist.map _).subset member
  | player => cases member

/-- Effects that lead to no others tell what they do, name nobody but their source and those on the
board, and announce nothing but themselves. -/
theorem applyPlain_writes (source : Option InstanceId) (duration : Duration) (s : Encounter)
    (effect : Effect) (asides : ∀ event : Event, event.isAside = true →
      event.named ⊆ source.toList ++ s.board.ids →
      (event.announces = true → effect.isAnnounced = true) → kind event) :
    Writes kind s (applyPlain source duration s effect) := by
  have own : ∀ {event : Event}, event.isAside = true → event.named = source.toList →
      (event.announces = true → effect.isAnnounced = true) → kind event :=
    fun aside names => asides _ aside (names ▸ List.subset_append_left _ _)
  have told : ∀ {event : Event} {s s' : Encounter}, event.isAside = true →
      event.named = source.toList → (event.announces = true → effect.isAnnounced = true) →
      Writes kind s s' → Writes kind s (s'.record event) :=
    fun aside names announced so_far => so_far.trans (.record (own aside names announced) _)
  have changed : ∀ {change : Instance → Instance} {event : InstanceId → Event},
      (∀ id, (event id).isAside = true ∧ (event id).named = [id] ∧ (event id).announces = false) →
      ∀ scope : Scope,
      Writes kind s ((s.inScope source scope).foldl (Encounter.change change event) s) := by
    intro change event asideOf scope
    refine .foldl (fun s id member => change_writes change ?_ s) s
    obtain ⟨aside, names, silent⟩ := asideOf id
    refine asides _ aside (fun other named => ?_) fun announces => ?_
    · rw [names, List.mem_singleton] at named
      exact List.mem_append_right _ (inScope_subset _ _ _ (named ▸ member))
    · rw [silent] at announces
      cases announces
  cases effect with
  | drain selector n =>
    exact (s.presentForces_writes selector).trans
      (.foldl (fun s force _ => takeForce_writes (fun _ _ => own rfl rfl (by nofun)) _ s force) _)
  | decay selector n =>
    exact (s.presentForces_writes selector).trans
      (.foldl (fun s force _ => takeForce_writes (fun _ _ => own rfl rfl (by nofun)) _ s force) _)
  | hardCap selector limit =>
    refine ((s.rememberCap_writes source _).trans
      (cappedForces_writes _ selector)).trans (.foldl (fun s force _ => ?_) _)
    exact told rfl rfl nofun (.of_journal_eq rfl rfl rfl)
  | softCap selector limit =>
    refine ((s.rememberCap_writes source _).trans
      (cappedForces_writes _ selector)).trans (.foldl (fun s force _ => ?_) _)
    exact told rfl rfl nofun (.of_journal_eq rfl rfl rfl)
  | totalCap limit =>
    exact told rfl rfl nofun ((s.rememberCap_writes source _).trans (.of_journal_eq rfl rfl rfl))
  | gainArmor scope n => exact changed (fun _ => ⟨rfl, rfl, rfl⟩) scope
  | gainShields scope n => exact changed (fun _ => ⟨rfl, rfl, rfl⟩) scope
  | raiseReflect magnitude => exact changed (fun _ => ⟨rfl, rfl, rfl⟩) .source
  | amplifyDrains n | raiseCardCost n | limitHand n | lockDraw =>
    exact told rfl rfl nofun (.of_journal_eq rfl rfl rfl)
  | forceDiscard n | shuffleHand | copyLastCard => exact told rfl rfl (fun _ => rfl) (.refl s)
  | removeConstraints =>
    cases source with
    | none => exact .refl s
    | some id => exact told rfl rfl (fun _ => rfl) (.of_journal_eq rfl rfl rfl)
  | summon _ | reinstateConstraints => exact .refl s

theorem foldl_applyPlain_writes (source : Option InstanceId) (duration : Duration) (s : Encounter)
    (effects : List Effect) (asides : ∀ event : Event, event.isAside = true →
      event.named ⊆ source.toList ++ s.board.ids →
      (event.announces = true → ∃ effect ∈ effects, effect.isAnnounced = true) → kind event) :
    Writes kind s (effects.foldl (applyPlain source duration) s) := by
  induction effects generalizing s with
  | nil => exact .refl s
  | cons effect rest ih =>
    have kept := (applyPlain_deeds source duration s effect).undisturbed.ids
    refine (applyPlain_writes source duration s effect fun event aside names announced =>
      asides event aside names fun announces =>
        ⟨effect, List.mem_cons_self, announced announces⟩).trans (ih _ ?_)
    intro event aside names announced
    refine asides event aside (kept ▸ names) fun announces => ?_
    obtain ⟨other, member, announced⟩ := announced announces
    exact ⟨other, List.mem_cons_of_mem _ member, announced⟩

theorem reinstate_writes (source : Option InstanceId) (duration : Duration) (s : Encounter)
    (asides : ∀ event : Event, event.isAside = true →
      event.named ⊆ source.toList ++ s.board.ids → kind event) :
    Writes kind s (s.reinstate source duration) := by
  cases source with
  | none => exact .refl s
  | some id =>
    exact (foldl_applyPlain_writes _ _ s _ fun event aside names _ => asides event aside names).trans
      (.record (asides _ rfl (List.subset_append_left _ _)) _)

end Asides

theorem summonTemplate_writes {kind : Event → Prop} (s : Encounter) (own : Option Template)
    (spec : SummonSpec) : Writes kind s (s.summonTemplate own spec).2 := by
  cases spec <;> exact .of_journal_eq rfl rfl rfl

theorem turnAway_writes {kind : Event → Prop} {id : InstanceId} {spec : SummonSpec}
    (told : kind (.summonBlocked id spec)) (s : Encounter) : Writes kind s (s.turnAway id spec) := by
  have blocked : Writes kind s (s.record (.summonBlocked id spec)) := .record told s
  unfold turnAway
  split
  · exact blocked.trans (.of_journal_eq rfl rfl rfl)
  · exact blocked

theorem welcome_writes {kind : Event → Prop} {s : Encounter} (template : Template)
    (position : SummonPosition) {summoner : Option InstanceId}
    (told : kind (.summoned summoner ⟨s.board.next⟩)) :
    Writes kind s (s.welcome template position summoner) := by
  have joined : Writes kind s { s with
      board := (s.board.spawn template s.now position summoner).1 } := .of_journal_eq rfl rfl rfl
  exact joined.trans (.record told _)

theorem Unfolds.writes {offered : SummonSpec → Prop} {source : Option InstanceId}
    {s s' : Encounter} (unfolds : Unfolds offered source s s') :
    Writes (Event.OfEffects source s.board.next) s s' := by
  induction unfolds with
  | refl _ _ s => exact .refl s
  | plain _ duration effect ih =>
    exact ih.trans (applyPlain_writes _ duration _ effect fun _ aside _ _ => .aside aside)
  | reinstated _ duration ih =>
    exact ih.trans (reinstate_writes _ duration _ fun _ aside _ => .aside aside)
  | blocked _ spec refused ih => exact ih.trans (turnAway_writes (.blocked spec (.inl rfl)) _)
  | @missing _ source s s' after _ spec among drawn ih =>
    have draws : Writes (Event.OfEffects source s.board.next) s'
        (s'.summonTemplate (s'.ownTemplate source) spec).2 :=
      summonTemplate_writes s' (s'.ownTemplate source) spec
    rw [drawn] at draws
    exact (ih.trans draws).trans (.of_journal_eq rfl rfl rfl)
  | @joined _ source s s' after _ so_far spec template position allowed drawn _ ih later =>
    have draws : Writes (Event.OfEffects source s.board.next) s'
        (s'.summonTemplate (s'.ownTemplate source) spec).2 :=
      summonTemplate_writes s' (s'.ownTemplate source) spec
    have board := summonTemplate_board s' (s'.ownTemplate source) spec
    rw [drawn] at draws board
    have grown : s.board.next ≤ after.board.next := by
      rw [show after.board = s'.board from board]
      exact so_far.rears.next
    have told : Event.OfEffects source s.board.next (.summoned source ⟨after.board.next⟩) :=
      .summoned _ (.inl rfl)
    refine ((ih.trans draws).trans (welcome_writes template position told)).trans
      (later.mono fun event told => ?_)
    exact told.of_newcomer (Nat.le_succ_of_le grown) grown

theorem enterPassive_writes {nesting : Nat} {id : InstanceId} {s s' : Encounter}
    (success : enterPassive nesting id s = .ok s') :
    Writes (Event.OfEffects (some id) s.board.next) s s' :=
  (enterPassive_unfolds success).writes

theorem applyEffects_writes {source : Option InstanceId} {duration : Duration}
    {effects : List Effect} {s s' : Encounter}
    (success : s.applyEffects source duration effects = .ok s') :
    Writes (Event.OfEffects source s.board.next) s s' := by
  have unfolds : Unfolds (fun _ => True) source s s' :=
    applyEffects_unfolds (fun _ _ => trivial) success
  exact unfolds.writes

/-! ### Turns and burials -/

section Turns

variable {s s' : Encounter} {id : InstanceId}

theorem Writes.ofTurns {source : Option InstanceId} {next : Nat}
    (writes : Writes (Event.OfEffects source next) s s') (ids : List InstanceId) :
    Writes (Event.OfTurns ids) s s' :=
  writes.mono fun _ told => told.ofTurns ids

theorem Writes.modify {kind : Event → Prop} (s : Encounter) (id : InstanceId)
    (change : Instance → Instance) : Writes kind s (s.modify id change) :=
  .of_journal_eq rfl rfl rfl

theorem holdMove_writes (success : s.holdMove id = .ok s') :
    Writes (Event.OfTurns [id]) s s' := by
  cases holdMove_holdsMove success with
  | lifeless => exact .refl s
  | active => exact .modify s id _
  | passive gremlin move _ found alive passive done =>
    have regenerated : Writes (Event.OfTurns [id]) s (s.modify id (·.regenerate)) := .modify s id _
    exact (regenerated.trans (.modify _ id _)).trans ((applyEffects_writes done).ofTurns [id])

theorem fireMove_writes (success : s.fireMove id = .ok s') :
    Writes (Event.OfTurns [id]) s s' := by
  cases fireMove_firesMove success with
  | lifeless => exact .refl s
  | waits => exact .modify s id _
  | fires gremlin move _ found alive current due done =>
    have aged : Writes (Event.OfTurns [id]) s (s.modify id (·.age)) := .modify s id _
    have own : Event.OfTurns [id] (.moveFired id gremlin.move) :=
      ⟨rfl, fun _ moved => List.mem_singleton.mpr (Option.some.inj moved).symm⟩
    exact ((aged.trans (.modify _ id _)).trans (.record own _)).trans
      ((applyEffects_writes done).ofTurns [id])

theorem enterMove_writes {index : Nat} (success : s.enterMove id index = .ok s') :
    Writes (Event.OfTurns [id]) s s' := by
  have released : Writes (Event.OfTurns [id]) s (s.releasePassive id) := .of_journal_eq rfl rfl rfl
  have own : Event.OfTurns [id] (.moveEntered id index) :=
    ⟨rfl, fun _ moved => List.mem_singleton.mpr (Option.some.inj moved).symm⟩
  cases enterMove_entersMove success with
  | absent => exact released
  | enters gremlin _ found done =>
    exact ((released.trans (.modify _ id _)).trans (.record own _)).trans
      ((enterPassive_writes done).ofTurns [id])

theorem changeMove_writes (success : s.changeMove id = .ok s') :
    Writes (Event.OfTurns [id]) s s' := by
  cases changeMove_changesMove success with
  | lifeless => exact .refl s
  | stays => exact .of_journal_eq rfl rfl rfl
  | enters gremlin index _ found alive next done =>
    have decided : Writes (Event.OfTurns [id]) s
        { s.modify id (fun _ => (gremlin.nextMove s.generator).2.1) with
          generator := (gremlin.nextMove s.generator).2.2 } := .of_journal_eq rfl rfl rfl
    exact decided.trans (enterMove_writes done)

/-- If each call tells of the turn of one gremlin, going over gremlins tells of their turns. -/
theorem Writes.foldlM_turns {act : Encounter → InstanceId → Except EncounterError Encounter}
    (each : ∀ {s id s'}, act s id = .ok s' → Writes (Event.OfTurns [id]) s s')
    {ids : List InstanceId} (success : ids.foldlM act s = .ok s') :
    Writes (Event.OfTurns ids) s s' := by
  refine .foldlM (fun member acted => (each acted).mono fun event told => told.mono ?_) success
  intro other single
  rw [List.mem_singleton] at single
  exact single ▸ member

theorem bury_writes (success : s.bury id = .ok s') : Writes (Event.OfTurns []) s s' := by
  rcases bury_eq_ok success with ⟨_, rfl⟩ | ⟨gremlin, after, _, effects, rfl⟩
  · exact .refl s'
  · have avenged := (applyEffects_writes effects).ofTurns []
    have removed : Writes (Event.OfTurns []) after
        (({ after with board := after.board.remove id }.releasePassive id).observe
          .gremlinKilled) := .of_journal_eq rfl rfl rfl
    exact ((avenged.trans removed).trans (.record (Event.OfTurns.of_still rfl rfl _) _)).trans
      (.of_journal_eq rfl rfl rfl)

/-- The last thing that a round of burials does is to end the fight if nobody is left. -/
theorem pruneDead_writes (success : s.pruneDead = .ok s') :
    ∃ after, Writes (Event.OfTurns []) s after ∧
      s' = if after.board.isEmpty then after.terminate else after := by
  obtain ⟨after, buried, ended⟩ := bind_eq_ok.mp success
  exact ⟨after, .foldlM (fun _ done => bury_writes done) buried, (Except.ok.inj ended).symm⟩

end Turns

/-! ### Operations -/

theorem spawn_writes {templateId : String} {s s' : Encounter} {id : InstanceId}
    (success : s.spawn templateId = .ok (s', id)) : Writes (Event.OfTurns []) s s' := by
  obtain ⟨template, _, _, entered⟩ := spawn_eq_ok success
  have joined : Writes (Event.OfTurns []) s { s with
      board := (s.board.spawn template s.now .bottom none).1 } := .of_journal_eq rfl rfl rfl
  exact (joined.trans (.record (Event.OfTurns.of_still rfl rfl _) _)).trans
    ((enterPassive_writes entered).ofTurns [])

/-- From `s` to `s'` events of a kind are written; then the fight may be ended, for lack of anybody
or by will. -/
structure Concludes (kind : Event → Prop) (byWill : Prop) (s s' : Encounter) : Prop where
  writes : ∃ after, Writes kind s after ∧
    (s' = after ∨ s' = after.terminate ∧ (byWill ∨ after.board.isEmpty = true))

theorem Writes.concludes {kind : Event → Prop} {byWill : Prop} {s s' : Encounter}
    (writes : Writes kind s s') : Concludes kind byWill s s' :=
  ⟨s', writes, .inl rfl⟩

theorem Concludes.of_pruneDead {byWill : Prop} {s after s' : Encounter}
    (writes : Writes (Event.OfTurns []) s after) (success : after.pruneDead = .ok s') :
    Concludes (Event.OfTurns []) byWill s s' := by
  obtain ⟨buried, burials, ended⟩ := pruneDead_writes success
  refine ⟨buried, writes.trans burials, ?_⟩
  split at ended
  · rename_i empty
    exact .inr ⟨ended, .inr empty⟩
  · exact .inl ended

/-- After a blow the dead are buried, if it has killed. -/
theorem Ensues.concludes {byWill : Prop} {s told s' : Encounter} {killed : Bool}
    (ensues : Ensues told killed s') (writes : Writes (Event.OfTurns []) s told) :
    Concludes (Event.OfTurns []) byWill s s' := by
  cases ensues with
  | burial _ prunes => exact .of_pruneDead writes prunes
  | nothing _ same => exact same ▸ writes.concludes

theorem Concludes.now_eq {kind : Event → Prop} {byWill : Prop} {s s' : Encounter}
    (concludes : Concludes kind byWill s s') : s'.now = s.now := by
  obtain ⟨after, writes, ended⟩ := concludes.writes
  rw [← writes.now_eq]
  rcases ended with same | ⟨same, _⟩ <;> rw [same]
  exact after.terminate_concluded.1

theorem terminate_layout (s : Encounter) : s.terminate.layout = s.layout := by
  unfold terminate
  split <;> rfl

theorem Concludes.layout_eq {kind : Event → Prop} {byWill : Prop} {s s' : Encounter}
    (concludes : Concludes kind byWill s s') : s'.layout = s.layout := by
  obtain ⟨after, writes, ended⟩ := concludes.writes
  rw [← writes.layout]
  rcases ended with same | ⟨same, _⟩ <;> rw [same]
  exact after.terminate_layout

/-- Every operation but a tick writes at the present tick, and nothing of moves or ticks. -/
theorem Operation.concludes {s s' : Encounter} {operation : Operation}
    (between : operation ≠ .advance) (success : operation.run s = .ok s') :
    Concludes (Event.OfTurns []) (operation = .terminate) s s' := by
  have quiet : ∀ {after : Encounter}, after.clock = s.clock → after.layout = s.layout →
      after.journal = s.journal →
      Concludes (Event.OfTurns []) (operation = .terminate) s after :=
    fun clock layout journal => (Writes.of_journal_eq clock layout journal).concludes
  cases operation with
  | spawn templateId =>
    obtain ⟨id, spawned⟩ := map_fst_eq_ok.mp success
    exact (spawn_writes spawned).concludes
  | effect source duration given =>
    have unfolds : Unfolds (fun _ => True) source s s' :=
      applyEffect_unfolds (fun _ _ => trivial) success
    exact (unfolds.writes.ofTurns []).concludes
  | hit id given =>
    obtain ⟨gremlin, _, ensues⟩ := Operation.run_hit_eq_ok success
    exact ensues.concludes
      ((Writes.modify s id _).trans (.record (Event.OfTurns.of_still rfl rfl _) _))
  | execute id =>
    obtain ⟨gremlin, _, ensues⟩ := Operation.run_execute_eq_ok success
    exact ensues.concludes
      ((Writes.modify s id _).trans (.record (Event.OfTurns.of_still rfl rfl _) _))
  | heal id amount =>
    obtain ⟨_, _, rfl⟩ := heal_eq_ok success
    exact quiet rfl rfl rfl
  | terminate =>
    cases success
    exact ⟨s, .refl s, .inr ⟨rfl, .inl rfl⟩⟩
  | advance => exact absurd rfl between
  | gain _ _ | spend _ _ | observe _ | notify _ | reseed _ | nest _ =>
    cases success
    exact quiet rfl rfl rfl

/-- A tick begins with its mark, and tells only of the moves of those who are there at its end. -/
theorem advance_concludes {s s' : Encounter} (orderly : Orderly s)
    (sound : ∀ template ∈ s.bestiary.templates, template.Sound) (living : s.Living)
    (success : s.advance = .ok s') :
    s.clock.terminated = false ∧ Concludes (Event.OfTurns s'.board.ids) False s.begun s' := by
  obtain ⟨held, fired, changed, stations⟩ := advance_stations orderly sound living success
  obtain ⟨first, ids⟩ := applyPassives_phase (begun_orderly orderly) stations.holds
  have second := fireMoves_phase first.orderly stations.fires
  have third := runTransitions_phase second.orderly stations.changes
  obtain ⟨after, buried, ended⟩ := bind_eq_ok.mp stations.ends
  rw [stations.nobody] at buried
  cases buried
  have ended : s' = if changed.expire.board.isEmpty then changed.expire.terminate
      else changed.expire := (Except.ok.inj ended).symm
  have board : s'.board.ids = changed.board.ids := by
    rw [ended]
    split
    · rw [changed.expire.terminate_concluded.2.1]
      rfl
    · rfl
  have released : Writes (Event.OfTurns s'.board.ids) s.begun { s.begun with
      pool := s.begun.pool.releaseAllPassive
      pressure := s.begun.pressure.releaseAllPassive } := .of_journal_eq rfl rfl rfl
  have holds : Writes (Event.OfTurns held.board.ids) _ held :=
    ids.symm ▸ Writes.foldlM_turns holdMove_writes stations.holds
  have fires : Writes (Event.OfTurns held.board.ids) held fired :=
    .foldlM_turns fireMove_writes stations.fires
  have changes : Writes (Event.OfTurns fired.board.ids) fired changed :=
    .foldlM_turns changeMove_writes stations.changes
  have early : held.board.ids ⊆ s'.board.ids := fun id present =>
    board ▸ third.stays (second.stays present)
  have late : fired.board.ids ⊆ s'.board.ids := fun id present => board ▸ third.stays present
  have all := ((released.trans (holds.mono fun event told => told.mono early)).trans
    (fires.mono fun event told => told.mono early)).trans
      (changes.mono fun event told => told.mono late)
  refine ⟨stations.running, changed.expire, all.trans (.of_journal_eq rfl rfl rfl), ?_⟩
  split at ended
  · rename_i empty
    exact .inr ⟨ended, .inr empty⟩
  · exact .inl ended

/-! ### The chronicle of a fight -/

/-- The marks of the first so many ticks. -/
def tickMarks (count : Nat) : List TimedEvent :=
  (List.range count).map fun k => ⟨⟨k + 1⟩, .tick ⟨k + 1⟩⟩

/-- The journal marks every tick at its time, and its times never decrease. -/
structure Chronicle (s : Encounter) : Prop where
  ticks : s.journal.toList.filter (·.event.isTick) = tickMarks s.now.count
  ordered : (s.journal.toList.map (·.now.count)).Pairwise (· ≤ ·)
  past : ∀ line ∈ s.journal.toList, line.now.count ≤ s.now.count

namespace Chronicle

variable {s s' : Encounter}

theorem of_blank (clock : s.now.count = 0) (journal : s.journal = #[]) : Chronicle s := by
  refine ⟨?_, ?_, ?_⟩
  · rw [clock, journal]
    rfl
  · rw [journal]
    exact .nil
  · rw [journal]
    intro line member
    cases member

/-- Lines at the present tick that mark no tick continue a chronicle. -/
theorem append (chronicle : Chronicle s) (now : s'.now = s.now) {lines : List TimedEvent}
    (journal : s'.journal.toList = s.journal.toList ++ lines)
    (told : ∀ line ∈ lines, line.now = s.now ∧ line.event.isTick = false) : Chronicle s' := by
  refine ⟨?_, ?_, ?_⟩
  · rw [journal, List.filter_append, chronicle.ticks, now,
      List.filter_eq_nil_iff.mpr fun line member => Bool.eq_false_iff.mp (told line member).2,
      List.append_nil]
  · rw [journal, List.map_append, List.pairwise_append]
    refine ⟨chronicle.ordered, ?_, ?_⟩
    · refine List.pairwise_of_forall_mem_list ?_
      intro first early second late
      obtain ⟨line, member, rfl⟩ := List.mem_map.mp early
      obtain ⟨other, member', rfl⟩ := List.mem_map.mp late
      exact Nat.le_of_eq (by rw [(told line member).1, (told other member').1])
    · intro first early second late
      obtain ⟨line, member, rfl⟩ := List.mem_map.mp early
      obtain ⟨other, member', rfl⟩ := List.mem_map.mp late
      rw [(told other member').1]
      exact chronicle.past line member
  · intro line member
    rw [journal] at member
    rw [now]
    rcases List.mem_append.mp member with old | new
    · exact chronicle.past line old
    · exact Nat.le_of_eq (by rw [(told line new).1])

theorem begun (chronicle : Chronicle s) : Chronicle s.begun := by
  have journal := s.begun_journal
  have now : s.begun.now.count = s.now.count + 1 := rfl
  refine ⟨?_, ?_, ?_⟩
  · rw [journal, List.filter_append, chronicle.ticks, now, tickMarks, tickMarks, List.range_succ,
      List.map_append]
    rfl
  · rw [journal, List.map_append, List.pairwise_append]
    refine ⟨chronicle.ordered, List.pairwise_singleton .., ?_⟩
    intro first early second late
    obtain ⟨line, member, rfl⟩ := List.mem_map.mp early
    rw [List.map_singleton, List.mem_singleton] at late
    rw [late]
    exact Nat.le_succ_of_le (chronicle.past line member)
  · intro line member
    rw [journal] at member
    rcases List.mem_append.mp member with old | new
    · exact Nat.le_succ_of_le (chronicle.past line old)
    · rw [List.mem_singleton] at new
      rw [new]
      exact Nat.le_refl _

theorem terminate (chronicle : Chronicle s) : Chronicle s.terminate := by
  unfold Encounter.terminate
  split
  · exact chronicle
  · refine chronicle.append rfl (Array.toList_push ..) ?_
    intro line member
    rw [List.mem_singleton] at member
    subst member
    exact ⟨rfl, rfl⟩

theorem concludes {ids : List InstanceId} {byWill : Prop} (chronicle : Chronicle s)
    (concludes : Concludes (Event.OfTurns ids) byWill s s') : Chronicle s' := by
  obtain ⟨after, writes, ended⟩ := concludes.writes
  obtain ⟨lines, journal, told⟩ := writes.lines
  have continued : Chronicle after := by
    refine chronicle.append writes.now_eq journal fun line member => ?_
    exact (told line member).imp_right fun told => Event.isTick_of_not_clock told.isClock
  rcases ended with same | ⟨same, _⟩ <;> rw [same]
  · exact continued
  · exact continued.terminate

end Chronicle

/-- Setting up a scenario tells of arrivals and of what they do, at tick zero. -/
theorem ofScenario_writes {scenario : Scenario} {bestiary : Bestiary} {s : Encounter}
    (success : ofScenario scenario bestiary = .ok s) :
    ∃ start, Blank bestiary start ∧ start.clock = {} ∧ start.layout = asked scenario bestiary ∧
      Writes (Event.OfTurns []) start s := by
  obtain ⟨_, _, start, blank, clock, layout, spawns⟩ := ofScenario_laid success
  refine ⟨start, blank, clock, layout, .foldlM (fun _ success => ?_) spawns⟩
  obtain ⟨joined, spawned⟩ := map_fst_eq_ok.mp success
  exact spawn_writes spawned

/-- Whatever is done in a fight, its journal is a chronicle. -/
theorem Reachable.chronicle {bestiary : Bestiary}
    (sound : ∀ template ∈ bestiary.templates, template.Sound) {s : Encounter}
    (reachable : Reachable bestiary s) : Chronicle s := by
  induction reachable with
  | fresh seed => exact .of_blank rfl rfl
  | @arranged _ s success =>
    obtain ⟨start, blank, clock, _, writes⟩ := ofScenario_writes success
    have empty : Chronicle start := .of_blank (by rw [now, clock]) blank.journal
    have concludes : Concludes (Event.OfTurns []) False start s := writes.concludes
    exact empty.concludes concludes
  | @step s s' so_far operation success ih =>
    by_cases tick : operation = .advance
    · subst tick
      have standing := so_far.standing sound
      exact ih.begun.concludes (advance_concludes standing.orderly (standing.known ▸ sound)
        standing.living success).2
    · exact ih.concludes (operation.concludes tick success)

/-! ### The moves of those who have left -/

theorem Writes.turns_eq {ids : List InstanceId} {s s' : Encounter}
    (writes : Writes (Event.OfTurns ids) s s') {id : InstanceId} (outside : id ∉ ids) :
    s'.turns id = s.turns id := by
  obtain ⟨lines, journal, told⟩ := writes.lines
  have none : lines.filter (·.event.mover? = some id) = [] := by
    refine List.filter_eq_nil_iff.mpr fun line member moved => ?_
    exact outside ((told line member).2.mover id (of_decide_eq_true moved))
  rw [turns, journal, List.filter_append, none, List.append_nil, turns]

theorem Concludes.turns_eq {ids : List InstanceId} {byWill : Prop} {s s' : Encounter}
    (concludes : Concludes (Event.OfTurns ids) byWill s s') {id : InstanceId} (outside : id ∉ ids) :
    s'.turns id = s.turns id := by
  obtain ⟨after, writes, ended⟩ := concludes.writes
  rw [← writes.turns_eq outside]
  rcases ended with same | ⟨same, _⟩ <;> rw [same]
  exact after.terminate_concluded.2.2.2.1 id

/-- Nothing is told of the moves of those who are not there in the end. -/
theorem Reachable.turns_of_absent {bestiary : Bestiary}
    (sound : ∀ template ∈ bestiary.templates, template.Sound) {s s' : Encounter}
    (reachable : Reachable bestiary s) {operation : Operation}
    (success : operation.run s = .ok s') {id : InstanceId} (absent : id ∉ s'.board.ids) :
    s'.turns id = s.turns id := by
  by_cases tick : operation = .advance
  · subst tick
    have standing := reachable.standing sound
    obtain ⟨_, concludes⟩ := advance_concludes standing.orderly (standing.known ▸ sound)
      standing.living success
    exact (concludes.turns_eq absent).trans (s.begun_turns id)
  · exact (operation.concludes tick success).turns_eq List.not_mem_nil

end Encounter

end Gremlin
