import Gremlin.Proofs.Encounter.Journal
import Gremlin.Proofs.Encounter.Synced
import Gremlin.Proofs.Overlay.Lifetime

set_option autoImplicit false

/-!
Everything done in a fight, as changes to the overlays of one slot. Effects install and release on
behalf of their source and of those who join meanwhile, and the journal tells of each; what the
clock does to overlays is on nobody's behalf.
-/

namespace Gremlin

open OverlaySet (Change)

/-- The slot of a cap. -/
def CapKind.slot : CapKind → Option Force → Slot
  | hard, some f => .hardCap f
  | soft, some f => .softCap f
  | _, none => .totalCap

/-- Whether an event tells that an overlay of a source is installed in a slot or released from it. -/
def Event.touches (slot : Slot) (source : Option InstanceId) : Event → Bool
  | capInstalled author kind force _ => author = source ∧ kind.slot force = slot
  | pressureApplied author kind _ => author = source ∧ .pressure kind = slot
  | constraintsRemoved id => some id = source
  | _ => false

namespace Encounter

/-- The overlays of a slot go from `s` to `s'` by changes that some authors make and that the journal
tells of, and by the end of so many ticks. -/
def Alters (slot : Slot) (authors : Option InstanceId → Prop) (ticks : Nat) (s s' : Encounter) :
    Prop :=
  ∃ changes lines, s'.overlays slot = (s.overlays slot).changeAll changes ∧
    changes.countP Change.isExpire = ticks ∧
    s'.journal.toList = s.journal.toList ++ lines ∧
    ∀ change ∈ changes, ∀ author, change.author? = some author →
      authors author ∧ ∃ line ∈ lines, line.event.touches slot author = true

namespace Alters

variable {slot : Slot} {authors wider : Option InstanceId → Prop} {ticks ticks' : Nat}
  {s s' s'' : Encounter}

theorem of_overlays_eq (overlays : s'.overlays slot = s.overlays slot)
    (grows : s.journal.toList <+: s'.journal.toList) : Alters slot authors 0 s s' := by
  obtain ⟨lines, journal⟩ := grows
  exact ⟨[], lines, overlays, rfl, journal.symm, fun _ none => by cases none⟩

theorem refl (s : Encounter) : Alters slot authors 0 s s := of_overlays_eq rfl (List.prefix_refl _)

theorem record (event : Event) (s : Encounter) : Alters slot authors 0 s (s.record event) :=
  of_overlays_eq rfl ⟨_, (Array.toList_push ..).symm⟩

theorem trans (first : Alters slot authors ticks s s') (second : Alters slot authors ticks' s' s'') :
    Alters slot authors (ticks + ticks') s s'' := by
  obtain ⟨changes, lines, overlays, count, journal, told⟩ := first
  obtain ⟨changes', lines', overlays', count', journal', told'⟩ := second
  refine ⟨changes ++ changes', lines ++ lines', ?_, ?_, ?_, ?_⟩
  · rw [overlays', overlays, OverlaySet.changeAll_append]
  · rw [List.countP_append, count, count']
  · rw [journal', journal, List.append_assoc]
  · intro change member author known
    rcases List.mem_append.mp member with early | late
    · obtain ⟨among, line, written, touches⟩ := told change early author known
      exact ⟨among, line, List.mem_append_left _ written, touches⟩
    · obtain ⟨among, line, written, touches⟩ := told' change late author known
      exact ⟨among, line, List.mem_append_right _ written, touches⟩

theorem mono (alters : Alters slot authors ticks s s')
    (among : ∀ author, authors author → wider author) : Alters slot wider ticks s s' := by
  obtain ⟨changes, lines, overlays, count, journal, told⟩ := alters
  exact ⟨changes, lines, overlays, count, journal, fun change member author known =>
    (told change member author known).imp_left (among author)⟩

/-- A change on nobody's behalf. -/
theorem change {change : Change} (nobody : change.author? = none)
    (overlays : s'.overlays slot = (s.overlays slot).change change)
    (grows : s.journal.toList <+: s'.journal.toList) :
    Alters slot authors (if change.isExpire then 1 else 0) s s' := by
  obtain ⟨lines, journal⟩ := grows
  refine ⟨[change], lines, overlays, List.countP_singleton, journal.symm, ?_⟩
  intro other member author known
  rw [List.mem_singleton.mp member, nobody] at known
  cases known

/-- An overlay is installed somewhere, and the journal tells of it. -/
theorem installs {place : Slot} {overlay : Overlay} {line : TimedEvent}
    (installs : Installs place overlay s s')
    (journal : s'.journal.toList = s.journal.toList ++ [line])
    (told : line.event.touches place overlay.source = true) :
    Alters slot (· = overlay.source) 0 s s' := by
  by_cases here : slot = place
  · subst here
    refine ⟨[.install overlay], [line], installs.there, rfl, journal, ?_⟩
    rintro change member author known
    cases List.mem_singleton.mp member
    cases known
    exact ⟨rfl, line, List.mem_singleton_self line, told⟩
  · exact of_overlays_eq (installs.elsewhere slot here) ⟨[line], journal.symm⟩

theorem foldl {α : Type} {act : Encounter → α → Encounter}
    (each : ∀ s argument, Alters slot authors 0 s (act s argument)) (arguments : List α)
    (s : Encounter) : Alters slot authors 0 s (arguments.foldl act s) := by
  induction arguments generalizing s with
  | nil => exact refl s
  | cons argument rest ih => exact (each s argument).trans (ih (act s argument))

theorem foldlM {α : Type} {act : Encounter → α → Except EncounterError Encounter}
    (each : ∀ {s argument s'}, act s argument = .ok s' → Alters slot authors 0 s s')
    {arguments : List α} (success : arguments.foldlM act s = .ok s') :
    Alters slot authors 0 s s' :=
  foldlM_preserves (motive := Alters slot authors 0 s) arguments
    (fun _ _ _ _ so_far stepped => so_far.trans (each stepped)) (refl s) success

theorem single (alters : Alters slot authors ticks s s') (single : (s.overlays slot).Single) :
    (s'.overlays slot).Single := by
  obtain ⟨changes, _, overlays, _⟩ := alters
  exact overlays ▸ single.changeAll changes

end Alters

/-! ### Effects -/

section Effects

variable {slot : Slot}

/-- A cap on the selected forces, remembered first. -/
theorem caps_alter {source : Option InstanceId} {effect : Effect} {overlay : Overlay}
    (own : overlay.source = source) {act : Encounter → Force → Encounter} {place : Force → Slot}
    {event : Force → Event} (installs : ∀ s f, Installs (place f) overlay s (act s f))
    (journal : ∀ s f, (act s f).journal.toList = s.journal.toList ++ [⟨s.now, event f⟩])
    (told : ∀ f, (event f).touches (place f) overlay.source = true)
    (s : Encounter) (selector : Selector) :
    Alters slot (· = source) 0 s (((s.rememberCap source effect).cappedForces selector).1.foldl act
      ((s.rememberCap source effect).cappedForces selector).2) := by
  have chosen : Alters slot (· = source) 0 s
      ((s.rememberCap source effect).cappedForces selector).2 := by
    have same : ((s.rememberCap source effect).cappedForces selector).2.overlays slot =
        s.overlays slot := by
      cases selector <;> cases source <;> rfl
    have quiet : ((s.rememberCap source effect).cappedForces selector).2.journal = s.journal := by
      cases selector <;> cases source <;> rfl
    exact .of_overlays_eq same ⟨[], by rw [quiet, List.append_nil]⟩
  refine chosen.trans (.foldl (fun s f => ?_) _ _)
  exact own ▸ Alters.installs (installs s f) (journal s f) (told f)

/-- Effects that lead to no other install and release on behalf of their source alone. -/
theorem applyPlain_alters (source : Option InstanceId) (duration : Duration) (s : Encounter)
    (effect : Effect) : Alters slot (· = source) 0 s (applyPlain source duration s effect) := by
  have quiet : (applyPlain source duration s effect).overlays slot = s.overlays slot →
      Alters slot (· = source) 0 s (applyPlain source duration s effect) := fun same =>
    .of_overlays_eq same
      (applyPlain_writes source duration s effect fun _ aside _ _ => aside).journal_kept
  cases effect with
  | drain selector n | decay selector n =>
    refine quiet ((foldl_view (·.overlays slot) (fun s f => overlays_takeForce ..) _ _).trans ?_)
    cases selector <;> rfl
  | hardCap selector limit =>
    exact caps_alter rfl (fun s f => installHardCap_installs _ s f)
      (fun s f => Array.toList_push ..) (fun f => by simp [Event.touches, CapKind.slot]) s selector
  | softCap selector limit =>
    exact caps_alter rfl (fun s f => installSoftCap_installs _ s f)
      (fun s f => Array.toList_push ..) (fun f => by simp [Event.touches, CapKind.slot]) s selector
  | totalCap limit =>
    have remembered : Alters slot (· = source) 0 s (s.rememberCap source (.totalCap limit)) :=
      .of_overlays_eq (by cases source <;> rfl)
        (@rememberCap_writes (fun _ => True) s source _).journal_kept
    exact remembered.trans (.installs (installTotalCap_installs ⟨limit, duration, source⟩ _)
      (Array.toList_push ..) (by simp [Event.touches, CapKind.slot]))
  | gainArmor | gainShields | raiseReflect =>
    exact quiet (foldl_view (·.overlays slot) (fun s id => overlays_change ..) _ _)
  | amplifyDrains n | raiseCardCost n | limitHand n | lockDraw =>
    exact .installs (applyPressure_installs s _ _) (Array.toList_push ..)
      (by simp [Event.touches])
  | forceDiscard | shuffleHand | copyLastCard | summon | reinstateConstraints => exact quiet rfl
  | removeConstraints =>
    cases source with
    | none => exact quiet rfl
    | some id =>
      refine ⟨[.releaseSource id], [⟨s.now, .constraintsRemoved id⟩],
        overlays_mapOverlays (·.releaseSource id) s slot, rfl, Array.toList_push .., ?_⟩
      rintro change member author known
      cases List.mem_singleton.mp member
      cases known
      exact ⟨rfl, _, List.mem_singleton_self _, by simp [Event.touches]⟩

theorem reinstate_alters (source : Option InstanceId) (duration : Duration) (s : Encounter) :
    Alters slot (· = source) 0 s (s.reinstate source duration) := by
  cases source with
  | none => exact .refl s
  | some id =>
    have installed : ∀ caps : List Effect, Alters slot (· = some id) 0 s
        ((caps.foldl (applyPlain (some id) duration) s).record
          (.constraintsReinstated id caps.length)) := by
      intro caps
      have laid : Alters slot (· = some id) 0 s (caps.foldl (applyPlain (some id) duration) s) :=
        .foldl (applyPlain_alters (some id) duration) caps s
      exact laid.trans (.record _ _)
    exact installed _

/-- Somebody who joins later. -/
def Newcomer (next : Nat) (author : Option InstanceId) : Prop :=
  ∃ newcomer : InstanceId, author = some newcomer ∧ next ≤ newcomer.value

theorem Newcomer.not_of_joined {id : InstanceId} {next : Nat} (joined : id.value < next) :
    ¬ Newcomer next (some id) := by
  rintro ⟨newcomer, same, later⟩
  cases same
  exact Nat.not_lt.mpr later joined

/-- A source, or somebody who joins later. -/
def OwnOrNew (source : Option InstanceId) (next : Nat) (author : Option InstanceId) : Prop :=
  author = source ∨ Newcomer next author

/-- What a newcomer leads to is done by newcomers. -/
theorem OwnOrNew.newcomer {author : Option InstanceId} {id : InstanceId} {next next' : Nat}
    (among : OwnOrNew (some id) next' author) (grown : next ≤ next') (fresh : next ≤ id.value) :
    Newcomer next author := by
  rcases among with rfl | ⟨newcomer, rfl, later⟩
  · exact ⟨id, rfl, fresh⟩
  · exact ⟨newcomer, rfl, Nat.le_trans grown later⟩

/-- Whoever is there and does nothing has nothing done on its behalf. -/
theorem OwnOrNew.not_of_joined {source : Option InstanceId} {id : InstanceId} {next : Nat}
    (joined : id.value < next) (apart : some id ≠ source) : ¬ OwnOrNew source next (some id) := by
  rintro (same | new)
  · exact apart same
  · exact Newcomer.not_of_joined joined new

theorem Alters.of_source {source : Option InstanceId} {next ticks : Nat} {s s' : Encounter}
    (alters : Alters slot (· = source) ticks s s') :
    Alters slot (OwnOrNew source next) ticks s s' :=
  alters.mono fun _ => .inl

theorem summonTemplate_alters {authors : Option InstanceId → Prop} {own template : Option Template}
    {spec : SummonSpec} {s after : Encounter} (drawn : s.summonTemplate own spec = (template, after)) :
    Alters slot authors 0 s after := by
  have draws : Alters slot authors 0 s (s.summonTemplate own spec).2 :=
    .of_overlays_eq (by cases spec <;> rfl)
      (@summonTemplate_writes (fun _ => True) s own spec).journal_kept
  rwa [drawn] at draws

theorem welcome_alters {authors : Option InstanceId → Prop} (s : Encounter) (template : Template)
    (position : SummonPosition) (summoner : Option InstanceId) :
    Alters slot authors 0 s (s.welcome template position summoner) :=
  .of_overlays_eq rfl ⟨_, (Array.toList_push ..).symm⟩

/-- Effects, with all the openings they lead to, install and release on behalf of their source and of
newcomers. -/
theorem Unfolds.alters {offered : SummonSpec → Prop} {source : Option InstanceId} {s s' : Encounter}
    (unfolds : Unfolds offered source s s') :
    Alters slot (OwnOrNew source s.board.next) 0 s s' := by
  induction unfolds with
  | refl _ _ s => exact .refl s
  | plain _ duration effect ih => exact ih.trans (applyPlain_alters _ duration _ effect).of_source
  | reinstated _ duration ih => exact ih.trans (reinstate_alters _ duration _).of_source
  | @blocked _ id _ s' _ spec _ ih =>
    refine ih.trans (.of_overlays_eq ?_
      (@turnAway_writes (fun _ => True) id spec trivial s').journal_kept)
    unfold turnAway
    split <;> rfl
  | missing _ spec _ drawn ih =>
    exact (ih.trans (summonTemplate_alters drawn)).trans (.of_overlays_eq rfl (List.prefix_refl _))
  | @joined _ source s s' after s'' so_far spec template position _ drawn _ ih later =>
    have board := summonTemplate_board s' (s'.ownTemplate source) spec
    rw [drawn] at board
    have grown : s.board.next ≤ after.board.next := by
      rw [show after.board = s'.board from board]
      exact so_far.rears.next
    refine ((ih.trans (summonTemplate_alters drawn)).trans (welcome_alters ..)).trans
      (later.mono fun author among => ?_)
    exact .inr (among.newcomer (Nat.le_succ_of_le grown) grown)

theorem applyEffects_alters {source : Option InstanceId} {duration : Duration}
    {effects : List Effect} {s s' : Encounter}
    (success : s.applyEffects source duration effects = .ok s') :
    Alters slot (OwnOrNew source s.board.next) 0 s s' := by
  have unfolds : Unfolds (fun _ => True) source s s' :=
    applyEffects_unfolds (fun _ _ => trivial) success
  exact unfolds.alters

theorem enterPassive_alters {nesting : Nat} {id : InstanceId} {s s' : Encounter}
    (success : enterPassive nesting id s = .ok s') :
    Alters slot (OwnOrNew (some id) s.board.next) 0 s s' :=
  (enterPassive_unfolds success).alters

end Effects

/-! ### Turns and burials -/

section Turns

variable {slot : Slot} {s s' : Encounter} {id : InstanceId}

theorem modify_alters {authors : Option InstanceId → Prop} (s : Encounter) (id : InstanceId)
    (change : Instance → Instance) : Alters slot authors 0 s (s.modify id change) :=
  .of_overlays_eq rfl (List.prefix_refl _)

theorem releasePassive_alters {authors : Option InstanceId → Prop} (s : Encounter)
    (id : InstanceId) : Alters slot authors 0 s (s.releasePassive id) :=
  @Alters.change slot authors s _ (.releasePassive id) rfl (s.overlays_releasePassive id slot)
    (List.prefix_refl _)

theorem holdMove_alters (success : s.holdMove id = .ok s') :
    Alters slot (OwnOrNew (some id) s.board.next) 0 s s' := by
  cases holdMove_holdsMove success with
  | lifeless => exact .refl s
  | active => exact modify_alters ..
  | passive gremlin move _ found alive passive done =>
    have regenerated : Alters slot (OwnOrNew (some id) s.board.next) 0 s
        (s.modify id (·.regenerate)) := modify_alters ..
    exact (regenerated.trans (modify_alters _ id (·.countTrigger))).trans (applyEffects_alters done)

theorem fireMove_alters (success : s.fireMove id = .ok s') :
    Alters slot (OwnOrNew (some id) s.board.next) 0 s s' := by
  cases fireMove_firesMove success with
  | lifeless => exact .refl s
  | waits => exact modify_alters ..
  | fires gremlin move _ found alive current due done =>
    have aged : Alters slot (OwnOrNew (some id) s.board.next) 0 s (s.modify id (·.age)) :=
      modify_alters ..
    exact ((aged.trans (modify_alters _ id (·.countTrigger))).trans (.record _ _)).trans
      (applyEffects_alters done)

theorem enterMove_alters {index : Nat} (success : s.enterMove id index = .ok s') :
    Alters slot (OwnOrNew (some id) s.board.next) 0 s s' := by
  have released : Alters slot (OwnOrNew (some id) s.board.next) 0 s (s.releasePassive id) :=
    releasePassive_alters ..
  cases enterMove_entersMove success with
  | absent => exact released
  | enters gremlin _ found done =>
    exact ((released.trans (modify_alters _ id (·.enterMove index))).trans (.record _ _)).trans
      (enterPassive_alters done)

theorem changeMove_alters (success : s.changeMove id = .ok s') :
    Alters slot (OwnOrNew (some id) s.board.next) 0 s s' := by
  cases changeMove_changesMove success with
  | lifeless => exact .refl s
  | stays => exact .of_overlays_eq rfl (List.prefix_refl _)
  | enters gremlin index _ found alive next done =>
    have decided : Alters slot (OwnOrNew (some id) s.board.next) 0 s
        { s.modify id (fun _ => (gremlin.nextMove s.generator).2.1) with
          generator := (gremlin.nextMove s.generator).2.2 } :=
      .of_overlays_eq rfl (List.prefix_refl _)
    exact decided.trans (enterMove_alters done)

theorem parting_alters {authors : Option InstanceId → Prop} (s : Encounter) (id : InstanceId)
    (gremlin : Instance) : Alters slot authors 0 s (s.parting id gremlin) := by
  have removed : Alters slot authors 0 s { s with board := s.board.remove id } :=
    .of_overlays_eq rfl (List.prefix_refl _)
  have observed : Alters slot authors 0 ({ s with board := s.board.remove id }.releasePassive id)
      (({ s with board := s.board.remove id }.releasePassive id).observe .gremlinKilled) :=
    .of_overlays_eq rfl (List.prefix_refl _)
  exact (((removed.trans (releasePassive_alters _ id)).trans observed).trans (.record _ _)).trans
    (.of_overlays_eq rfl (List.prefix_refl _))

theorem bury_alters (success : s.bury id = .ok s') :
    Alters slot (OwnOrNew (some id) s.board.next) 0 s s' := by
  rcases bury_eq_ok success with ⟨_, rfl⟩ | ⟨gremlin, after, _, effects, rfl⟩
  · exact .refl s'
  · exact (applyEffects_alters effects).trans (parting_alters after id gremlin)

theorem terminate_alters {authors : Option InstanceId → Prop} (s : Encounter) :
    Alters slot authors 0 s s.terminate := by
  refine .of_overlays_eq (s.overlays_terminate slot) ?_
  unfold terminate
  split
  · exact List.prefix_refl _
  · exact ⟨_, (Array.toList_push ..).symm⟩

/-- Somebody, or nobody at all. -/
abbrev Anyone : Option InstanceId → Prop := fun _ => True

theorem Alters.anyone {authors : Option InstanceId → Prop} {ticks : Nat}
    (alters : Alters slot authors ticks s s') : Alters slot Anyone ticks s s' :=
  alters.mono fun _ _ => trivial

theorem pruneDead_alters (success : s.pruneDead = .ok s') : Alters slot Anyone 0 s s' := by
  obtain ⟨after, burials, ended⟩ := bind_eq_ok.mp success
  have buried : Alters slot Anyone 0 s after := .foldlM (fun done => (bury_alters done).anyone) burials
  cases ended
  split
  · exact buried.trans after.terminate_alters
  · exact buried

theorem Ensues.alters {told : Encounter} {killed : Bool} (ensues : Ensues told killed s')
    (alters : Alters slot Anyone 0 s told) : Alters slot Anyone 0 s s' := by
  cases ensues with
  | burial _ prunes => exact alters.trans (pruneDead_alters prunes)
  | nothing _ same => exact same ▸ alters

end Turns

/-! ### Operations -/

section Operations

variable {slot : Slot} {s s' : Encounter}

theorem begun_alters {authors : Option InstanceId → Prop} (s : Encounter) :
    Alters slot authors 0 s s.begun :=
  .of_overlays_eq (s.begun_overlays slot) ⟨_, (Array.toList_push ..).symm⟩

theorem lifted_alters {authors : Option InstanceId → Prop} (s : Encounter) :
    Alters slot authors 0 s s.lifted :=
  @Alters.change slot authors s _ .releaseAllPassive rfl (s.overlays_lifted slot)
    (List.prefix_refl _)

theorem expire_alters {authors : Option InstanceId → Prop} (s : Encounter) :
    Alters slot authors 1 s s.expire :=
  @Alters.change slot authors s _ .expire rfl (s.overlays_expire slot) (List.prefix_refl _)

/-- A tick ends once. -/
theorem advance_alters (success : s.advance = .ok s') : Alters slot Anyone 1 s s' := by
  obtain ⟨_, held, fired, changed, holds, fires, changes, prunes⟩ := advance_eq_ok success
  have starts : Alters slot Anyone 0 s s.begun.lifted := s.begun_alters.trans s.begun.lifted_alters
  have first : Alters slot Anyone 0 s.begun.lifted held :=
    .foldlM (fun acted => (holdMove_alters acted).anyone) holds
  have second : Alters slot Anyone 0 held fired :=
    .foldlM (fun acted => (fireMove_alters acted).anyone) fires
  have third : Alters slot Anyone 0 fired changed :=
    .foldlM (fun acted => (changeMove_alters acted).anyone) changes
  exact ((((starts.trans first).trans second).trans third).trans changed.expire_alters).trans
    (pruneDead_alters prunes)

/-- Whether an operation is a tick. -/
def Operation.isAdvance : Operation → Bool
  | advance => true
  | _ => false

/-- Ticks end in ticks alone. -/
theorem Operation.alters {operation : Operation} (success : operation.run s = .ok s') :
    Alters slot Anyone (if operation.isAdvance then 1 else 0) s s' := by
  cases operation with
  | spawn templateId =>
    obtain ⟨id, spawned⟩ := map_fst_eq_ok.mp success
    obtain ⟨template, _, _, entered⟩ := spawn_eq_ok spawned
    have joined : Alters slot Anyone 0 s (s.arriving template templateId) :=
      .of_overlays_eq rfl ⟨_, (Array.toList_push ..).symm⟩
    exact joined.trans (enterPassive_alters entered).anyone
  | effect source duration given =>
    have unfolds : Unfolds (fun _ => True) source s s' :=
      applyEffect_unfolds (fun _ _ => trivial) success
    exact unfolds.alters.anyone
  | gain force amount =>
    cases success
    exact .of_overlays_eq (s.overlays_gain force amount slot) (List.prefix_refl _)
  | spend force amount =>
    cases success
    exact .of_overlays_eq (s.overlays_spend force amount slot) (List.prefix_refl _)
  | hit id given =>
    obtain ⟨gremlin, _, ensues⟩ := Operation.run_hit_eq_ok success
    exact ensues.alters ((s.modify_alters id _).trans (.record _ _))
  | execute id =>
    obtain ⟨gremlin, _, ensues⟩ := Operation.run_execute_eq_ok success
    exact ensues.alters ((s.modify_alters id _).trans (.record _ _))
  | heal id amount =>
    obtain ⟨_, _, rfl⟩ := heal_eq_ok success
    exact s.modify_alters id _
  | terminate =>
    cases success
    exact s.terminate_alters
  | advance => exact advance_alters success
  | observe _ | notify _ | reseed _ | nest _ =>
    cases success
    exact .of_overlays_eq rfl (List.prefix_refl _)

/-- So many ticks end as there are among the operations. -/
theorem Operation.runAll_alters {operations : List Operation}
    (success : Operation.runAll s operations = .ok s') :
    Alters slot Anyone (operations.countP Operation.isAdvance) s s' := by
  induction operations generalizing s with
  | nil =>
    cases success
    exact .refl _
  | cons operation rest ih =>
    obtain ⟨after, first, others⟩ := Operation.runAll_cons.mp success
    rw [List.countP_cons, Nat.add_comm]
    exact (Operation.alters first).trans (ih others)

end Operations

end Encounter

end Gremlin
