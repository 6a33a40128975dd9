import Gremlin.Proofs.Encounter.Phases
import Gremlin.Proofs.Encounter.Slots

set_option autoImplicit false

/-!
What effects do to overlays: those of their source fare as the effects say, those of everyone else
stay as they are, and whoever is summoned in the meantime has laid the overlays of its own move.
-/

namespace Gremlin

namespace Encounter

/-- Nobody has two overlays in one slot. -/
def Single (s : Encounter) : Prop := ∀ slot, (s.overlays slot).Single

/-- Every overlay belongs to a gremlin that has joined. It is so where effects are done by gremlins
in their turns alone. -/
def Tagged (s : Encounter) : Prop :=
  ∀ slot, ∀ source ∈ (s.overlays slot).sources,
    ∃ id : InstanceId, source = some id ∧ id.value < s.board.next

/-- What is relied on wherever overlays are laid. -/
structure Tidy (s : Encounter) : Prop where
  orderly : Orderly s
  caps : s.CapsSound
  single : s.Single

/-- A gremlin has passive overlays only where the passive move it holds may lay them, and has each
that this move is certain to lay. -/
structure InStep (s : Encounter) (id : InstanceId) : Prop where
  sourced : ∀ slot overlay, s.overlay? slot id = some overlay → overlay.duration = .passive →
    ∃ move, s.held? id = some move ∧ move.reaches slot = true
  stands : ∀ slot move value, s.held? id = some move → move.draws slot = false →
    move.standing? slot = some value → s.overlay? slot id = some ⟨value, .passive, some id⟩

theorem held?_congr {s s' : Encounter} {id : InstanceId} (same : s'.track? id = s.track? id) :
    s'.held? id = s.held? id := by
  have tracked : ∀ u : Encounter, u.held? id = (u.track? id).bind (·.gremlin.passiveMove?) := by
    intro u
    rw [held?, track?]
    cases u.board.get? id <;> rfl
  rw [tracked, tracked, same]

theorem Undisturbed.held?_eq {s s' : Encounter} (same : Undisturbed s s') (id : InstanceId) :
    s'.held? id = s.held? id :=
  held?_congr (track?_congr (same.bare id) (same.turns id))

theorem InStep.congr {s s' : Encounter} {id : InstanceId} (inStep : s.InStep id)
    (held : s'.held? id = s.held? id) (overlay : ∀ slot, s'.overlay? slot id = s.overlay? slot id) :
    s'.InStep id := by
  refine ⟨?_, ?_⟩
  · intro slot found
    rw [overlay, held]
    exact inStep.sourced slot found
  · intro slot move value
    rw [overlay, held]
    exact inStep.stands slot move value

theorem Tagged.overlay?_of_le {s : Encounter} (tagged : s.Tagged) {id : InstanceId}
    (fresh : s.board.next ≤ id.value) (slot : Slot) : s.overlay? slot id = none := by
  rw [overlay?, OverlaySet.of?_eq_none_iff]
  intro member
  obtain ⟨other, same, joined⟩ := tagged slot _ member
  cases same
  omega

theorem Installs.single {s s' : Encounter} {slot : Slot} {overlay : Overlay}
    (installs : Installs slot overlay s s') (single : s.Single) : s'.Single := by
  intro other
  by_cases same : other = slot
  · rw [same, installs.there]
    exact (single slot).install overlay
  · rw [installs.elsewhere other same]
    exact single other

theorem Deed.single {s s' : Encounter} (deed : Deed s s') (single : s.Single) : s'.Single := by
  cases deed with
  | drain source amount force | decay source amount force =>
    intro slot
    rw [overlays_takeForce]
    exact single slot
  | remember source effect cap => cases source <;> exact single
  | hardCap overlay force => exact (installHardCap_installs overlay s force).single single
  | softCap overlay force => exact (installSoftCap_installs overlay s force).single single
  | totalCap overlay => exact (installTotalCap_installs overlay s).single single
  | pressure kind overlay => exact (s.applyPressure_installs kind overlay).single single
  | release id =>
    intro slot
    have released := overlays_mapOverlays (·.releaseSource id) s slot
    exact released ▸ (single slot).releaseSource id
  | draw | notify | armor | shields | reflect | request | reinstated | blocked => exact single

/-- From `s` to `s'` nobody comes to have two overlays in one slot, and none is laid on behalf of
someone who has not joined. -/
structure Keeps (s s' : Encounter) : Prop where
  single : s.Single → s'.Single
  tagged : s.Tagged → s'.Tagged

namespace Keeps

variable {s s' : Encounter}

theorem shrinks (next : s.board.next ≤ s'.board.next) {change : OverlaySet → OverlaySet}
    (overlays : ∀ slot, s'.overlays slot = change (s.overlays slot))
    (single : ∀ set : OverlaySet, set.Single → (change set).Single)
    (fewer : ∀ set : OverlaySet, (change set).sources ⊆ set.sources) : Keeps s s' := by
  refine ⟨fun alone slot => ?_, fun tagged slot source member => ?_⟩
  · rw [overlays]
    exact single _ (alone slot)
  · rw [overlays] at member
    obtain ⟨id, named, joined⟩ := tagged slot source (fewer _ member)
    exact ⟨id, named, Nat.lt_of_lt_of_le joined next⟩

theorem of_overlays_eq (next : s.board.next ≤ s'.board.next)
    (overlays : ∀ slot, s'.overlays slot = s.overlays slot) : Keeps s s' :=
  @shrinks s s' next id overlays (fun _ single => single) fun _ => List.Subset.refl _

theorem installs (next : s.board.next ≤ s'.board.next) {slot : Slot} {overlay : Overlay}
    {id : InstanceId} (own : overlay.source = some id) (joined : id.value < s.board.next)
    (installs : Installs slot overlay s s') : Keeps s s' := by
  refine ⟨installs.single, fun tagged other source member => ?_⟩
  have old : source = some id ∨ source ∈ (s.overlays other).sources := by
    by_cases same : other = slot
    · subst same
      rw [installs.there, OverlaySet.mem_sources_install, own] at member
      exact member
    · rw [installs.elsewhere other same] at member
      exact .inr member
  rcases old with named | present
  · exact ⟨id, named, Nat.lt_of_lt_of_le joined next⟩
  · obtain ⟨other, named, before⟩ := tagged other source present
    exact ⟨other, named, Nat.lt_of_lt_of_le before next⟩

end Keeps

namespace Tidy

variable {s s' : Encounter}

theorem held?_of_le (tidy : Tidy s) {id : InstanceId} (fresh : s.board.next ≤ id.value) :
    s.held? id = none := by
  rw [held?, tidy.orderly.numbered.get?_of_le fresh, Option.bind_none]

/-- Those still to come have neither a move nor overlays. -/
theorem inStep_of_le (tidy : Tidy s) (tagged : s.Tagged) {id : InstanceId}
    (fresh : s.board.next ≤ id.value) : s.InStep id := by
  refine ⟨fun slot overlay found => ?_, fun slot move value held => ?_⟩
  · rw [tagged.overlay?_of_le fresh] at found
    cases found
  · rw [tidy.held?_of_le fresh] at held
    cases held

theorem of_undisturbed (tidy : Tidy s) (same : Undisturbed s s') (keeps : Keeps s s') : Tidy s' :=
  ⟨(show Phase (fun _ _ _ => True) [] s s' from .of_undisturbed tidy.orderly same).orderly,
    same.caps tidy.caps, keeps.single tidy.single⟩

end Tidy

/-- Effects keep an encounter tidy, on behalf of whomever they are done. -/
theorem Effected.tidy {s s' : Encounter} (effected : Effected s s') (tidy : Tidy s) : Tidy s' := by
  have phase : Phase (fun _ _ _ => True) [] s s' := effected.phase tidy.orderly
  refine ⟨phase.orderly, phase.caps tidy.caps, ?_⟩
  induction effected with
  | refl => exact tidy.single
  | tail before last so_far =>
    have single := so_far (Effected.phase before tidy.orderly)
    rcases last with deed | arrival
    · exact deed.single single
    · cases arrival <;> exact single

/-! ### Everyone else -/

/-- From `s` to `s'` only some gremlins have had their moves or overlays changed; whoever has joined
is in step, unless it had overlays before it came. -/
structure Spares (ids : List InstanceId) (s s' : Encounter) : Prop where
  tidy : Tidy s'
  next : s.board.next ≤ s'.board.next
  held : ∀ id, id ∉ ids → id.value < s.board.next → s'.held? id = s.held? id
  overlay : ∀ id, id ∉ ids → id.value < s.board.next →
    ∀ slot, s'.overlay? slot id = s.overlay? slot id
  tagged : s.Tagged → s'.Tagged
  newborn : s.Tagged → ∀ id : InstanceId, s.board.next ≤ id.value → s'.InStep id

namespace Spares

variable {ids : List InstanceId} {s s' s'' : Encounter}

theorem of_eq (tidy : Tidy s') (next : s'.board.next = s.board.next) (tagged : s.Tagged → s'.Tagged)
    (held : ∀ id, id ∉ ids → s'.held? id = s.held? id)
    (overlay : ∀ id, id ∉ ids → ∀ slot, s'.overlay? slot id = s.overlay? slot id) :
    Spares ids s s' :=
  ⟨tidy, Nat.le_of_eq next.symm, fun id outside _ => held id outside,
    fun id outside _ => overlay id outside, tagged,
    fun known _ fresh => tidy.inStep_of_le (tagged known) (next ▸ fresh)⟩

theorem of_undisturbed (tidy : Tidy s) (same : Undisturbed s s')
    (overlays : ∀ slot, s'.overlays slot = s.overlays slot) : Spares ids s s' :=
  have keeps : Keeps s s' := .of_overlays_eq (Nat.le_of_eq same.next.symm) overlays
  of_eq (tidy.of_undisturbed same keeps) same.next keeps.tagged (fun id _ => same.held?_eq id)
    fun id _ slot => by rw [overlay?, overlays]; rfl

theorem mono {more : List InstanceId} (spares : Spares ids s s') (fewer : ids ⊆ more) :
    Spares more s s' :=
  ⟨spares.tidy, spares.next, fun id outside => spares.held id fun member => outside (fewer member),
    fun id outside => spares.overlay id fun member => outside (fewer member), spares.tagged,
    spares.newborn⟩

theorem inStep (spares : Spares ids s s') (tagged : s.Tagged) {id : InstanceId} (outside : id ∉ ids)
    (inStep : s.InStep id) : s'.InStep id := by
  by_cases old : id.value < s.board.next
  · exact inStep.congr (spares.held id outside old) (spares.overlay id outside old)
  · exact spares.newborn tagged id (Nat.le_of_not_lt old)

theorem trans (first : Spares ids s s') (second : Spares ids s' s'')
    (old : ∀ id ∈ ids, id.value < s.board.next) : Spares ids s s'' := by
  refine ⟨second.tidy, Nat.le_trans first.next second.next, ?_, ?_,
    fun tagged => second.tagged (first.tagged tagged), ?_⟩
  · intro id outside joined
    exact (second.held id outside (Nat.lt_of_lt_of_le joined first.next)).trans
      (first.held id outside joined)
  · intro id outside joined slot
    exact (second.overlay id outside (Nat.lt_of_lt_of_le joined first.next) slot).trans
      (first.overlay id outside joined slot)
  · intro tagged id fresh
    exact second.inStep (first.tagged tagged) (fun member => Nat.not_lt.mpr fresh (old id member))
      (first.newborn tagged id fresh)

end Spares

/-! ### The source -/

/-- From `s` to `s'` effects have been done on behalf of a gremlin: it still holds its move, and
its overlays have fared as told. What was laid has the given duration. -/
structure Laid (id : InstanceId) (duration : Duration) (fate : Slot → Fate) (s s' : Encounter) :
    Prop where
  spares : Spares [id] s s'
  held : s'.held? id = s.held? id
  own : ∀ slot, (fate slot).Holds duration id (s.overlay? slot id) (s'.overlay? slot id)

namespace Laid

variable {id : InstanceId} {duration : Duration} {fate fate' : Slot → Fate} {s s' s'' : Encounter}

theorem trans (first : Laid id duration fate s s') (second : Laid id duration fate' s' s'')
    (joined : id.value < s.board.next) :
    Laid id duration (fun slot => (fate slot).andThen (fate' slot)) s s'' := by
  refine ⟨first.spares.trans second.spares ?_, second.held.trans first.held, ?_⟩
  · intro other single
    rw [List.mem_singleton] at single
    exact single ▸ joined
  · intro slot
    exact (first.own slot).andThen (second.own slot)

/-- Fates may be told otherwise, or left open. -/
theorem mono (laid : Laid id duration fate s s')
    (weaker : ∀ slot, fate slot = fate' slot ∨ fate' slot = .unsure) :
    Laid id duration fate' s s' := by
  refine ⟨laid.spares, laid.held, fun slot => ?_⟩
  rcases weaker slot with same | open_
  · exact same ▸ laid.own slot
  · rw [open_]
    exact (laid.own slot).unsure

theorem of_spares (spares : Spares [] s s') (joined : id.value < s.board.next) :
    Laid id duration (fun _ => .keeps) s s' :=
  ⟨spares.mono (List.nil_subset _), spares.held id List.not_mem_nil joined,
    spares.overlay id List.not_mem_nil joined⟩

theorem of_undisturbed (tidy : Tidy s) (same : Undisturbed s s')
    (overlays : ∀ slot, s'.overlays slot = s.overlays slot) :
    Laid id duration (fun _ => .keeps) s s' :=
  ⟨.of_undisturbed tidy same overlays, same.held?_eq id,
    fun slot => (congrArg (OverlaySet.of? · (some id)) (overlays slot) :)⟩

theorem installs (tidy : Tidy s) (joined : id.value < s.board.next) (same : Undisturbed s s')
    {slot : Slot} {value : Nat} (installs : Installs slot ⟨value, duration, some id⟩ s s') :
    Laid id duration (fun other => if other = slot then .lays value else .keeps) s s' := by
  have keeps : Keeps s s' := .installs (Nat.le_of_eq same.next.symm) rfl joined installs
  refine ⟨.of_eq (tidy.of_undisturbed same keeps) same.next keeps.tagged
    (fun other _ => same.held?_eq other) ?_, same.held?_eq id, ?_⟩
  · intro other outside place
    have apart : some other ≠ some id := by simpa using outside
    by_cases here : place = slot
    · rw [here, overlay?, installs.there]
      exact OverlaySet.of?_install_other _ _ apart
    · rw [overlay?, installs.elsewhere place here]
      rfl
  · intro place
    by_cases here : place = slot
    · rw [here, if_pos rfl]
      change (s'.overlays slot).of? (some id) = _
      rw [installs.there]
      exact OverlaySet.of?_install_same (s.overlays slot) ⟨value, duration, some id⟩
    · rw [if_neg here]
      change (s'.overlays place).of? (some id) = _
      rw [installs.elsewhere place here]
      rfl

/-- One cap on each of some forces. -/
theorem foldl_installs {place : Force → Slot} {act : Encounter → Force → Encounter} {value : Nat}
    (each : ∀ s f, Undisturbed s (act s f) ∧ Installs (place f) ⟨value, duration, some id⟩ s (act s f))
    (tidy : Tidy s) (joined : id.value < s.board.next) (forces : List Force) :
    Laid id duration (fun slot => if slot ∈ forces.map place then .lays value else .keeps) s
      (forces.foldl act s) := by
  induction forces generalizing s with
  | nil => exact (Laid.of_undisturbed tidy (.refl s) fun _ => rfl).mono fun _ => .inl rfl
  | cons f rest ih =>
    have first := Laid.installs tidy joined (each s f).1 (each s f).2
    have others := ih first.spares.tidy (Nat.lt_of_lt_of_le joined first.spares.next)
    refine (first.trans others joined).mono fun slot => .inl ?_
    rw [List.map_cons]
    by_cases later : slot ∈ rest.map place
    · rw [if_pos later, if_pos (List.mem_cons_of_mem _ later)]
      rfl
    · rw [if_neg later]
      by_cases here : slot = place f
      · rw [if_pos here, if_pos (List.mem_cons.mpr (.inl here))]
        rfl
      · rw [if_neg here, if_neg (by simp [here, later])]
        rfl

end Laid

theorem mem_cappedForces {s : Encounter} {selector : Selector} {f : Force}
    (certain : selector ≠ .random) :
    f ∈ (s.cappedForces selector).1 ↔ selector.guards f = true := by
  cases selector with
  | only g => simp [cappedForces, Selector.guards, eq_comm]
  | every | largest | smallest => exact iff_of_true f.mem_all rfl
  | random => exact absurd rfl certain

theorem overlays_change (act : Instance → Instance) (event : InstanceId → Event) (s : Encounter)
    (id : InstanceId) (slot : Slot) : (change act event s id).overlays slot = s.overlays slot := by
  cases slot <;> rfl

section Plain

variable {id : InstanceId} {duration : Duration} {s : Encounter}

/-- A cap on the selected forces, remembered first. -/
theorem caps_laid (place : Force → Slot) (tidy : Tidy s) (joined : id.value < s.board.next)
    {effect : Effect} (cap : effect.isCap = true) (injective : ∀ f g, place f = place g → f = g)
    {act : Encounter → Force → Encounter} {selector : Selector} {limit : Nat}
    (each : ∀ s f, Undisturbed s (act s f) ∧
      Installs (place f) ⟨limit, duration, some id⟩ s (act s f))
    (drawn : ∀ f, selector = .random → effect.fate (place f) = .unsure)
    (certain : ∀ f, selector ≠ .random → effect.fate (place f) =
      .ofValue (if selector.guards f then some limit else none))
    (elsewhere : ∀ slot, (∀ f, slot ≠ place f) → effect.fate slot = .keeps) :
    Laid id duration (effect.fate ·) s
      (((s.rememberCap (some id) effect).cappedForces selector).1.foldl act
        ((s.rememberCap (some id) effect).cappedForces selector).2) := by
  have remembered : Laid id duration (fun _ => .keeps) s (s.rememberCap (some id) effect) :=
    .of_undisturbed tidy (Deed.remember s (some id) effect cap).undisturbed fun _ => rfl
  generalize s.rememberCap (some id) effect = after at remembered ⊢
  have drawing : Laid id duration (fun _ => .keeps) after (after.cappedForces selector).2 :=
    .of_undisturbed remembered.spares.tidy (after.cappedForces_deeds selector).undisturbed
      fun slot => by cases selector <;> rfl
  have chosen := @mem_cappedForces after selector
  generalize after.cappedForces selector = choice at drawing chosen ⊢
  have early := remembered.trans drawing joined
  have laid := early.trans (Laid.foldl_installs each early.spares.tidy
    (Nat.lt_of_lt_of_le joined early.spares.next) choice.1) joined
  refine laid.mono fun slot => ?_
  rw [Fate.andThen, Fate.keeps_andThen]
  -- which forces a random cap chose is unknown, so its fate is left open in every slot of its kind
  by_cases here : ∃ f, slot = place f
  · obtain ⟨f, rfl⟩ := here
    by_cases random : selector = .random
    · exact .inr (drawn f random)
    · refine .inl ?_
      have member : place f ∈ choice.1.map place ↔ selector.guards f = true := by
        rw [← chosen random, List.mem_map]
        exact ⟨fun ⟨g, present, same⟩ => injective g f same ▸ present, fun present => ⟨f, present, rfl⟩⟩
      rw [certain f random]
      by_cases guarded : selector.guards f = true
      · rw [if_pos (member.mpr guarded), if_pos guarded]
        rfl
      · rw [if_neg (fun present => guarded (member.mp present)), if_neg guarded]
        rfl
  · refine .inl ?_
    have apart : ∀ f, slot ≠ place f := fun f same => here ⟨f, same⟩
    rw [elsewhere slot apart, if_neg]
    intro member
    obtain ⟨f, _, same⟩ := List.mem_map.mp member
    exact apart f same.symm

theorem applyPressure_laid (tidy : Tidy s) (joined : id.value < s.board.next) {effect : Effect}
    {kind : PressureKind} {value : Nat}
    (fate : ∀ slot, effect.fate slot = if slot = .pressure kind then .lays value else .keeps) :
    Laid id duration (effect.fate ·) s (s.applyPressure kind ⟨value, duration, some id⟩) :=
  (Laid.installs tidy joined (Deed.pressure s kind _).undisturbed
    (s.applyPressure_installs kind _)).mono fun slot => .inl (fate slot).symm

theorem removeConstraints_laid (tidy : Tidy s) :
    Laid id duration (Effect.removeConstraints.fate ·) s
      (applyPlain (some id) duration s .removeConstraints) := by
  have same := (applyPlain_deeds (some id) duration s .removeConstraints).undisturbed
  have overlays : ∀ slot, (applyPlain (some id) duration s .removeConstraints).overlays slot =
      (s.overlays slot).releaseSource id := overlays_mapOverlays _ s
  have kept : Keeps s _ := .shrinks (Nat.le_of_eq same.next.symm) overlays
    (fun set single => single.releaseSource id) fun set => set.sources_keep_subset _
  refine ⟨.of_eq (tidy.of_undisturbed same kept) same.next kept.tagged
    (fun other _ => same.held?_eq other) ?_, same.held?_eq id, ?_⟩
  · intro other outside slot
    have apart : some other ≠ some id := by simpa using outside
    rw [overlay?, overlays]
    exact OverlaySet.of?_releaseSource_other (tidy.single slot) apart
  · intro slot
    change _ = none
    rw [overlay?, overlays]
    exact OverlaySet.of?_releaseSource_same _ id

/-- Effects that lead to no other do to overlays what their fates say. -/
theorem applyPlain_laid (tidy : Tidy s) (joined : id.value < s.board.next) (effect : Effect) :
    Laid id duration (effect.fate ·) s (applyPlain (some id) duration s effect) := by
  have same := (applyPlain_deeds (some id) duration s effect).undisturbed
  have keeps : (∀ slot, (applyPlain (some id) duration s effect).overlays slot = s.overlays slot) →
      (∀ slot, effect.fate slot = .keeps ∨ effect.fate slot = .unsure) →
      Laid id duration (effect.fate ·) s (applyPlain (some id) duration s effect) :=
    fun overlays fate => (Laid.of_undisturbed tidy same overlays).mono fun slot =>
      (fate slot).imp_left Eq.symm
  cases effect with
  | drain selector n | decay selector n =>
    refine keeps (fun slot => ?_) fun slot => by cases slot <;> exact .inl rfl
    refine (foldl_view (·.overlays slot) (fun s f => overlays_takeForce ..) _ _).trans ?_
    cases selector <;> rfl
  | hardCap selector limit =>
    refine caps_laid .hardCap tidy joined rfl (fun f g same => Slot.hardCap.inj same)
      (fun s f => ⟨(Deed.hardCap s _ f).undisturbed, installHardCap_installs _ s f⟩) ?_ ?_ ?_
    · rintro f rfl
      rfl
    · intro f certain
      cases selector <;> first | rfl | exact absurd rfl certain
    · intro slot apart
      cases slot with
      | hardCap f => exact absurd rfl (apart f)
      | softCap f | totalCap | pressure kind => cases selector <;> rfl
  | softCap selector limit =>
    refine caps_laid .softCap tidy joined rfl (fun f g same => Slot.softCap.inj same)
      (fun s f => ⟨(Deed.softCap s _ f).undisturbed, installSoftCap_installs _ s f⟩) ?_ ?_ ?_
    · rintro f rfl
      rfl
    · intro f certain
      cases selector <;> first | rfl | exact absurd rfl certain
    · intro slot apart
      cases slot with
      | softCap f => exact absurd rfl (apart f)
      | hardCap f | totalCap | pressure kind => cases selector <;> rfl
  | totalCap limit =>
    have remembered : Laid id duration (fun _ => .keeps) s
        (s.rememberCap (some id) (.totalCap limit)) :=
      .of_undisturbed tidy (Deed.remember s _ (.totalCap limit) rfl).undisturbed fun _ => rfl
    have capped := Laid.installs remembered.spares.tidy
      (Nat.lt_of_lt_of_le joined remembered.spares.next)
      (Deed.totalCap _ ⟨limit, duration, some id⟩).undisturbed (installTotalCap_installs _ _)
    refine (remembered.trans capped joined).mono fun slot => .inl ?_
    cases slot <;> rfl
  | gainArmor | gainShields | raiseReflect =>
    refine keeps (fun slot => foldl_view (·.overlays slot) (fun s id => overlays_change ..) _ _)
      fun slot => ?_
    cases slot <;> exact .inl rfl
  | amplifyDrains n | raiseCardCost n | limitHand n =>
    refine applyPressure_laid tidy joined fun slot => ?_
    rcases slot with f | f | _ | kind <;> first | rfl | cases kind <;> rfl
  | lockDraw =>
    refine applyPressure_laid tidy joined fun slot => ?_
    rcases slot with f | f | _ | kind <;> first | rfl | cases kind <;> rfl
  | forceDiscard | shuffleHand | copyLastCard | summon =>
    exact keeps (fun slot => rfl) fun slot => by cases slot <;> exact .inl rfl
  | reinstateConstraints =>
    exact keeps (fun slot => rfl) fun slot => by cases slot <;> first | exact .inr rfl | exact .inl rfl
  | removeConstraints => exact removeConstraints_laid tidy

end Plain

end Encounter

end Gremlin
