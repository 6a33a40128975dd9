import Gremlin.Proofs.Bestiary
import Gremlin.Proofs.Encounter.Journal
import Gremlin.Proofs.Encounter.Laying
import Gremlin.Proofs.Encounter.Reach

set_option autoImplicit false

/-!
What effects leave alone. Overlays and remembered caps belong to somebody, and effects touch only
those of their source and of whoever they summon; nobody else is moved, hurt or taken off the board.
-/

namespace Gremlin

namespace Instance

/-- What keeps a gremlin from harm but for its health and barrier. -/
def guard (gremlin : Instance) : Nat × Nat × Percentage :=
  (gremlin.armor, gremlin.shields, gremlin.reflect)

theorem rememberCap_guard (gremlin : Instance) (effect : Effect) :
    (gremlin.rememberCap effect).guard = gremlin.guard :=
  gremlin.rememberCap_view guard effect fun _ => rfl

/-- Gremlins that are the same without what effects change differ in nothing else. -/
theorem eq_of_bare_eq {gremlin other : Instance} (same : other.bare = gremlin.bare) :
    other = { gremlin with
      armor := other.armor
      shields := other.shields
      reflect := other.reflect
      installedCaps := other.installedCaps } := by
  cases gremlin
  cases other
  cases same
  rfl

end Instance

namespace Encounter

/-! ### Effects that lead to no other -/

section Plain

variable {source : Option InstanceId} {duration : Duration} {s : Encounter}

theorem map_get?_foldl_change {β : Type} (view : Instance → β) {act : Instance → Instance}
    {event : InstanceId → Event} (named : ∀ gremlin, (act gremlin).id = gremlin.id)
    {ids : List InstanceId} {id : InstanceId}
    (spared : id ∈ ids → ∀ gremlin, view (act gremlin) = view gremlin) (s : Encounter) :
    ((ids.foldl (change act event) s).board.get? id).map view =
      (s.board.get? id).map view := by
  induction ids generalizing s with
  | nil => rfl
  | cons first rest ih =>
    rw [List.foldl_cons, ih fun later => spared (List.mem_cons_of_mem _ later)]
    change ((s.board.modify first act).get? id).map view = _
    have keeps : ∀ gremlin, gremlin.id = first → (act gremlin).id = first :=
      fun gremlin same => (named gremlin).trans same
    by_cases here : id = first
    · subst here
      rw [Board.get?_modify_same keeps, Option.map_map]
      congr 1
      exact funext (spared List.mem_cons_self)
    · rw [Board.get?_modify_other here keeps]

theorem map_get?_rememberCap {β : Type} (view : Instance → β) {effect : Effect} {id : InstanceId}
    (remembers : source = some id → ∀ gremlin, view (gremlin.rememberCap effect) = view gremlin)
    (s : Encounter) :
    ((s.rememberCap source effect).board.get? id).map view = (s.board.get? id).map view := by
  cases source with
  | none => rfl
  | some own =>
    have keeps : ∀ g : Instance, g.id = own → (g.rememberCap effect).id = own :=
      fun g named => (congrArg Instance.id (g.rememberCap_bare effect)).trans named
    change ((s.board.modify own _).get? id).map view = _
    by_cases here : id = own
    · subst here
      rw [Board.get?_modify_same keeps, Option.map_map]
      congr 1
      exact funext (remembers rfl)
    · rw [Board.get?_modify_other here keeps]

/-- Effects change gremlins in two ways: the source remembers caps, and those in scope gain armor,
shields or reflection. -/
theorem map_get?_applyPlain {β : Type} (view : Instance → β) {effect : Effect} {id : InstanceId}
    (remembers : source = some id → ∀ gremlin, view (gremlin.rememberCap effect) = view gremlin)
    (gains : id ∈ s.inScope source effect.scope → ∀ gremlin armor shields reflect,
      view { gremlin with armor, shields, reflect } = view gremlin) :
    ((applyPlain source duration s effect).board.get? id).map view =
      (s.board.get? id).map view := by
  have remembered := s.map_get?_rememberCap view remembers
  cases effect with
  | drain selector n | decay selector n =>
    refine congrArg (fun board : Board => (board.get? id).map view)
      ((foldl_view (·.board) (fun s f => takeForce_board ..) _ _).trans ?_)
    cases selector <;> rfl
  | hardCap selector limit | softCap selector limit =>
    refine Eq.trans ?_ remembered
    refine congrArg (fun board : Board => (board.get? id).map view)
      ((foldl_view (·.board) (fun s f => ?_) _ _).trans ?_)
    · rfl
    · cases selector <;> rfl
  | totalCap limit => exact remembered
  | gainArmor | gainShields | raiseReflect =>
    refine map_get?_foldl_change view (fun gremlin => ?_) (fun here gremlin => ?_) s
    · rfl
    · exact gains here gremlin _ _ _
  | amplifyDrains | raiseCardCost | limitHand | lockDraw | forceDiscard | shuffleHand | copyLastCard
  | summon | reinstateConstraints => rfl
  | removeConstraints => cases source <;> rfl

theorem Installs.keep {slot : Slot} {overlay : Overlay} {s s' : Encounter}
    (installs : Installs slot overlay s s') {condition : Overlay → Bool}
    (dropped : ∀ other : Overlay, other.source = overlay.source → condition other = false)
    (place : Slot) : (s'.overlays place).keep condition = (s.overlays place).keep condition := by
  by_cases here : place = slot
  · rw [here, installs.there, OverlaySet.keep_install _ _ dropped]
  · rw [installs.elsewhere place here]

/-- Effects leave alone the overlays of all but their source. -/
theorem applyPlain_keep {condition : Overlay → Bool}
    (dropped : ∀ other : Overlay, other.source = source → condition other = false)
    (effect : Effect) (slot : Slot) :
    ((applyPlain source duration s effect).overlays slot).keep condition =
      (s.overlays slot).keep condition := by
  have kept : ∀ u : Encounter, u.overlays slot = s.overlays slot →
      (u.overlays slot).keep condition = (s.overlays slot).keep condition :=
    fun u same => congrArg (·.keep condition) same
  cases effect with
  | drain selector n | decay selector n =>
    refine kept _ ((foldl_view (·.overlays slot) (fun s f => overlays_takeForce ..) _ _).trans ?_)
    cases selector <;> rfl
  | hardCap selector limit =>
    refine (foldl_view (fun u => (u.overlays slot).keep condition)
      (fun s f => (installHardCap_installs _ s f).keep dropped slot) _ _).trans (kept _ ?_)
    cases selector <;> cases source <;> rfl
  | softCap selector limit =>
    refine (foldl_view (fun u => (u.overlays slot).keep condition)
      (fun s f => (installSoftCap_installs _ s f).keep dropped slot) _ _).trans (kept _ ?_)
    cases selector <;> cases source <;> rfl
  | totalCap limit =>
    refine ((installTotalCap_installs ⟨limit, duration, source⟩ _).keep dropped slot).trans
      (kept _ ?_)
    cases source <;> rfl
  | gainArmor | gainShields | raiseReflect =>
    exact kept _ (foldl_view (·.overlays slot) (fun s id => overlays_change ..) _ _)
  | amplifyDrains | raiseCardCost | limitHand | lockDraw =>
    exact (applyPressure_installs s _ _).keep dropped slot
  | forceDiscard | shuffleHand | copyLastCard | summon | reinstateConstraints => exact kept _ rfl
  | removeConstraints =>
    cases source with
    | none => exact kept _ rfl
    | some id =>
      have released := overlays_mapOverlays (·.releaseSource id) s slot
      exact (congrArg (·.keep condition) released).trans (OverlaySet.keep_releaseSource dropped)

end Plain

/-! ### Effects that lead to others -/

/-- From `s` to `s'` nothing has become of what is not theirs: overlays of others are where they
were, nobody has left, and whoever was there differs at most in armor, shields, reflection and, if it
is one of them, in the caps it remembers. Whoever has joined has been summoned. -/
structure Contained (theirs : Option InstanceId → Bool) (s s' : Encounter) : Prop where
  overlays : ∀ slot, (s'.overlays slot).keep (!theirs ·.source) =
    (s.overlays slot).keep (!theirs ·.source)
  order : s.board.ids.Sublist s'.board.ids
  bare : ∀ id ∈ s.board.ids, (s'.board.get? id).map Instance.bare =
    (s.board.get? id).map Instance.bare
  caps : ∀ id ∈ s.board.ids, theirs (some id) = false →
    (s'.board.get? id).map (·.installedCaps) = (s.board.get? id).map (·.installedCaps)
  told : ∃ lines, s'.journal.toList = s.journal.toList ++ lines ∧
    ∀ id ∈ s'.board.ids, id ∉ s.board.ids → ∃ line ∈ lines, ∃ summoner,
      line.event = .summoned summoner id

namespace Contained

variable {theirs : Option InstanceId → Bool} {s s' s'' : Encounter}

theorem trans (first : Contained theirs s s') (second : Contained theirs s' s'') :
    Contained theirs s s'' := by
  obtain ⟨early, journal, told⟩ := first.told
  obtain ⟨late, journal', told'⟩ := second.told
  refine ⟨fun slot => (second.overlays slot).trans (first.overlays slot),
    first.order.trans second.order,
    fun id old => (second.bare id (first.order.subset old)).trans (first.bare id old),
    fun id old others =>
      (second.caps id (first.order.subset old) others).trans (first.caps id old others),
    early ++ late, by rw [journal', journal, List.append_assoc], fun id present fresh => ?_⟩
  by_cases joined : id ∈ s'.board.ids
  · obtain ⟨line, written, summoned⟩ := told id joined fresh
    exact ⟨line, List.mem_append_left _ written, summoned⟩
  · obtain ⟨line, written, summoned⟩ := told' id present joined
    exact ⟨line, List.mem_append_right _ written, summoned⟩

theorem of_eq (board : s'.board = s.board) (overlays : ∀ slot, s'.overlays slot = s.overlays slot)
    (grows : s.journal.toList <+: s'.journal.toList) : Contained theirs s s' := by
  obtain ⟨lines, journal⟩ := grows
  exact ⟨fun slot => by rw [overlays], by rw [board],
    fun id _ => by rw [board], fun id _ _ => by rw [board], lines, journal.symm,
    fun id present fresh => absurd (board ▸ present) fresh⟩

theorem refl (s : Encounter) : Contained theirs s s := of_eq rfl (fun _ => rfl) (List.prefix_refl _)

theorem plain {source : Option InstanceId} (own : theirs source = true) (duration : Duration)
    (s : Encounter) (effect : Effect) :
    Contained theirs s (applyPlain source duration s effect) := by
  have ids := (applyPlain_deeds source duration s effect).undisturbed.ids
  obtain ⟨lines, journal⟩ :=
    (applyPlain_writes source duration s effect fun _ aside _ _ => aside).journal_kept
  refine ⟨applyPlain_keep (fun other same => by rw [same, own]; rfl) effect, by rw [ids],
    fun id _ => map_get?_applyPlain _ (fun _ gremlin => gremlin.rememberCap_bare effect)
      fun _ _ _ _ _ => rfl,
    fun id _ others => map_get?_applyPlain _ (fun same => ?_) fun _ _ _ _ _ => rfl,
    lines, journal.symm, fun id present fresh => absurd (ids ▸ present) fresh⟩
  rw [← same, own] at others
  cases others

theorem reinstated {source : Option InstanceId} (own : theirs source = true) (duration : Duration)
    (s : Encounter) : Contained theirs s (s.reinstate source duration) := by
  cases source with
  | none => exact refl s
  | some id =>
    have again : ∀ (caps : List Effect) (s : Encounter),
        Contained theirs s (caps.foldl (applyPlain (some id) duration) s) := by
      intro caps
      induction caps with
      | nil => exact refl
      | cons cap rest ih => exact fun s => (plain own duration s cap).trans (ih _)
    exact (again _ s).trans (of_eq rfl (fun _ => rfl) ⟨_, (Array.toList_push ..).symm⟩)

theorem blocked (s : Encounter) (id : InstanceId) (spec : SummonSpec) :
    Contained theirs s (s.turnAway id spec) := by
  have grows := (@turnAway_writes (fun _ => True) id spec trivial s).journal_kept
  unfold turnAway at grows ⊢
  split at grows <;> exact of_eq rfl (fun _ => rfl) grows

theorem drawn {own template : Option Template} {spec : SummonSpec} {after : Encounter}
    (drawn : s.summonTemplate own spec = (template, after)) : Contained theirs s after := by
  have draws : Contained theirs s (s.summonTemplate own spec).2 :=
    of_eq (s.summonTemplate_board own spec) (fun slot => by cases spec <;> rfl)
      (@summonTemplate_writes (fun _ => True) s own spec).journal_kept
  rwa [drawn] at draws

theorem welcome (numbered : s.board.Numbered) (template : Template) (position : SummonPosition)
    (summoner : Option InstanceId) : Contained theirs s (s.welcome template position summoner) := by
  have apart : ∀ id ∈ s.board.ids, id ≠ ⟨s.board.next⟩ := by
    rintro id old rfl
    exact Nat.lt_irrefl _ (numbered.below _ old)
  have found : ∀ id ∈ s.board.ids,
      (s.welcome template position summoner).board.get? id = s.board.get? id := fun id old =>
    Board.Numbered.get?_spawn_other template s.now position summoner (apart id old)
  refine ⟨fun _ => rfl, s.board.ids_sublist_spawn template s.now position summoner,
    fun id old => congrArg _ (found id old), fun id old _ => congrArg _ (found id old),
    [⟨s.now, .summoned summoner ⟨s.board.next⟩⟩], Array.toList_push .., ?_⟩
  intro id present fresh
  rcases Board.mem_ids_spawn.mp present with old | rfl
  · exact absurd old fresh
  · exact ⟨_, List.mem_singleton_self _, summoner, rfl⟩

end Contained

/-- From `s` to `s'` the gremlins stay numbered, and whoever owns what is the source's and what is of
those who join owns all that is touched. -/
def Confined (source : Option InstanceId) (s s' : Encounter) : Prop :=
  s'.board.Numbered ∧ ∀ theirs : Option InstanceId → Bool, theirs source = true →
    (∀ id ∈ s'.board.ids, id ∉ s.board.ids → theirs (some id) = true) → Contained theirs s s'

/-- A step on which nobody joins or leaves adds to what is touched what it touches itself. -/
theorem Confined.step {source : Option InstanceId} {s s' s'' : Encounter}
    (confined : Confined source s s') (ids : s''.board.ids = s'.board.ids)
    (next : s''.board.next = s'.board.next)
    (contained : ∀ theirs, theirs source = true → Contained theirs s' s'') :
    Confined source s s'' := by
  refine ⟨confined.1.of_ids_eq ids (Nat.le_of_eq next.symm), fun theirs own new => ?_⟩
  rw [ids] at new
  exact (confined.2 theirs own new).trans (contained theirs own)

/-- Effects, with all the openings they lead to, touch what is their source's and what is of those
who join. -/
theorem Unfolds.confined {offered : SummonSpec → Prop} {source : Option InstanceId}
    {s s' : Encounter} (unfolds : Unfolds offered source s s') (numbered : s.board.Numbered) :
    Confined source s s' := by
  induction unfolds with
  | refl _ _ s => exact ⟨numbered, fun _ _ _ => .refl s⟩
  | @plain _ source _ s' so_far duration effect ih =>
    have same := (applyPlain_deeds source duration s' effect).undisturbed
    exact (ih numbered).step same.ids same.next fun _ own => .plain own duration s' effect
  | @reinstated _ source _ s' so_far duration ih =>
    have same := (reinstate_deeds source duration s').undisturbed
    exact (ih numbered).step same.ids same.next fun _ own => .reinstated own duration s'
  | @blocked _ id _ s' so_far spec refused ih =>
    have same := (s'.turnAway_deeds id spec).undisturbed
    exact (ih numbered).step same.ids same.next fun _ _ => .blocked s' id spec
  | @missing _ source _ s' after so_far spec among drawn ih =>
    have board : after.board = s'.board := by
      rw [← s'.summonTemplate_board (s'.ownTemplate source) spec, drawn]
    refine (ih numbered).step (congrArg Board.ids board) (congrArg Board.next board) fun theirs _ => ?_
    have told : Contained theirs after (after.notify (.noTemplate spec)) :=
      .of_eq rfl (fun _ => rfl) (List.prefix_refl _)
    exact (Contained.drawn drawn).trans told
  | @joined _ source s s' after s'' so_far spec template position allowed drawn opening ih later =>
    obtain ⟨sound, contained⟩ := ih numbered
    have board : after.board = s'.board := by
      rw [← s'.summonTemplate_board (s'.ownTemplate source) spec, drawn]
    have ready : after.board.Numbered := board ▸ sound
    have welcomed : (after.welcome template position source).board.Numbered :=
      ready.spawn template after.now position source
    obtain ⟨opened, contained'⟩ := later welcomed
    refine ⟨opened, fun theirs own new => ?_⟩
    -- nobody leaves on the way, so whoever is new at some point is new in the end
    have first := (contained (fun _ => true) rfl fun _ _ _ => rfl).order
    have last := (contained' (fun _ => true) rfl fun _ _ _ => rfl).order
    have welcome : Contained theirs after (after.welcome template position source) :=
      .welcome ready template position source
    have joins := welcome.order
    have newborn : (⟨after.board.next⟩ : InstanceId) ∉ s.board.ids := by
      intro old
      have present := first.subset old
      rw [← board] at present
      exact Nat.lt_irrefl _ (ready.below _ present)
    have before : Contained theirs s s' := contained theirs own fun id present fresh =>
      new id (last.subset (joins.subset (board ▸ present))) fresh
    have joined : Contained theirs s (after.welcome template position source) :=
      (before.trans (.drawn drawn)).trans welcome
    refine joined.trans (contained' theirs ?_ ?_)
    · exact new _ (last.subset (Board.mem_ids_spawn.mpr (.inr rfl))) newborn
    · exact fun id present fresh => new id present fun old =>
        fresh (joins.subset (board ▸ first.subset old))

/-! ### Any effect, done for anybody -/

/-- Those that are on the board of `s'` and not on that of `s`. -/
def newcomers (s s' : Encounter) : List InstanceId := s'.board.ids.filter (· ∉ s.board.ids)

/-- Whether something belongs to a source or to somebody who has joined from `s` to `s'`. -/
def concerns (source : Option InstanceId) (s s' : Encounter) (owner : Option InstanceId) : Bool :=
  owner = source ∨ owner ∈ (newcomers s s').map some

theorem mem_newcomers {s s' : Encounter} {id : InstanceId} :
    id ∈ newcomers s s' ↔ id ∈ s'.board.ids ∧ id ∉ s.board.ids := by
  simp [newcomers]

theorem applyEffect_contained {source : Option InstanceId} {duration : Duration} {effect : Effect}
    {s s' : Encounter} (numbered : s.board.Numbered)
    (success : s.applyEffect source duration effect = .ok s') :
    Contained (concerns source s s') s s' := by
  have unfolds : Unfolds (fun _ => True) source s s' :=
    applyEffect_unfolds (fun _ _ => trivial) success
  refine (unfolds.confined numbered).2 _ (decide_eq_true (.inl rfl)) fun id present fresh => ?_
  exact decide_eq_true (.inr (List.mem_map_of_mem (mem_newcomers.mpr ⟨present, fresh⟩)))

/-- Caps are for the player. -/
theorem inScope_of_isCap {s : Encounter} {source : Option InstanceId} {effect : Effect}
    (cap : effect.isCap = true) : s.inScope source effect.scope = [] := by
  cases effect <;> first | rfl | cases cap

/-- Caps protect nobody. -/
theorem foldl_applyPlain_guard {source : Option InstanceId} {caps : List Effect}
    (capped : ∀ effect ∈ caps, effect.isCap = true) (duration : Duration) (id : InstanceId)
    (s : Encounter) :
    ((caps.foldl (applyPlain source duration) s).board.get? id).map Instance.guard =
      (s.board.get? id).map Instance.guard := by
  induction caps generalizing s with
  | nil => rfl
  | cons cap rest ih =>
    have others := ih fun effect member => capped effect (List.mem_cons_of_mem _ member)
    refine (others _).trans (map_get?_applyPlain _ (fun _ gremlin => ?_) fun here => ?_)
    · exact gremlin.rememberCap_guard cap
    · rw [inScope_of_isCap (capped cap List.mem_cons_self)] at here
      cases here

/-- What comes back to a source is caps alone, and protects nobody. -/
theorem reinstate_guard {source : Option InstanceId} {s : Encounter} (caps : s.CapsSound)
    (duration : Duration) (id : InstanceId) :
    ((s.reinstate source duration).board.get? id).map Instance.guard =
      (s.board.get? id).map Instance.guard := by
  cases source with
  | none => rfl
  | some own =>
    refine foldl_applyPlain_guard ?_ duration id s
    split
    · rename_i gremlin found
      exact (caps own gremlin found).caps
    · exact fun effect none => by cases none

/-- What effects do without summoning protects nobody out of their scope. -/
theorem applyEffect_guard {source : Option InstanceId} {duration : Duration} {effect : Effect}
    {s s' : Encounter} {id : InstanceId} (caps : s.CapsSound)
    (success : s.applyEffect source duration effect = .ok s')
    (plain : effect.summonSpec? = none) (outside : id ∉ s.inScope source effect.scope) :
    (s'.board.get? id).map Instance.guard = (s.board.get? id).map Instance.guard := by
  unfold applyEffect applyWith at success
  split at success
  · cases plain
  · cases success
    exact reinstate_guard caps duration id
  · cases success
    exact map_get?_applyPlain _ (fun _ gremlin => gremlin.rememberCap_guard effect)
      fun here => absurd here outside

/-- Whatever effect is done for anybody, the overlays of everyone else stay where and as they are,
in every slot, but for those of gremlins that are summoned meanwhile; nobody leaves, and those who
were there keep their order and everything they are but armor, shields, reflection and remembered
caps. Of these the source alone remembers caps, and an effect that is no summon protects nobody out
of its scope. -/
theorem effects_isolated {records : List Record} {source : Option InstanceId} {duration : Duration}
    {effect : Effect} {s s' : Encounter} (reachable : Reachable (Bestiary.load records).1 s)
    (success : s.applyEffect source duration effect = .ok s') :
    (∀ slot, (s'.overlays slot).overlays.filter (!concerns source s s' ·.source) =
      (s.overlays slot).overlays.filter (!concerns source s s' ·.source)) ∧
    s.board.ids.Sublist s'.board.ids ∧
    (∀ id ∈ newcomers s s', s.board.next ≤ id.value ∧
      ∃ line ∈ s'.journal.toList.drop s.journal.size, ∃ summoner,
        line.event = .summoned summoner id) ∧
    ∀ id gremlin, s.board.get? id = some gremlin → ∃ after, s'.board.get? id = some after ∧
      after = { gremlin with
        armor := after.armor
        shields := after.shields
        reflect := after.reflect
        installedCaps := after.installedCaps } ∧
      (some id ≠ source → after.installedCaps = gremlin.installedCaps) ∧
      (effect.summonSpec? = none → id ∉ s.inScope source effect.scope →
        after.armor = gremlin.armor ∧ after.shields = gremlin.shields ∧
          after.reflect = gremlin.reflect) := by
  have standing := reachable.standing fun _ member => Bestiary.sound_of_mem_load member
  have numbered := standing.orderly.numbered
  have contained := applyEffect_contained numbered success
  refine ⟨fun slot => congrArg OverlaySet.overlays (contained.overlays slot), contained.order,
    ?joined, ?kept⟩
  case joined =>
    intro id new
    obtain ⟨present, fresh⟩ := mem_newcomers.mp new
    obtain ⟨lines, journal, told⟩ := contained.told
    refine ⟨?_, ?_⟩
    · obtain ⟨track, found⟩ := Option.ne_none_iff_exists'.mp fun none =>
        track?_eq_none_iff.mp none present
      rcases ((applyEffect_effected success).struck standing.orderly).origin found with
        ⟨_, old, _⟩ | ⟨later, _⟩
      · exact absurd (mem_ids_of_track? old) fresh
      · exact later
    · rw [journal, ← Array.length_toList, List.drop_left]
      exact told id present fresh
  case kept =>
    intro id gremlin found
    have old := Board.mem_ids_iff.mpr ⟨gremlin, found⟩
    have same := contained.bare id old
    rw [found, Option.map_some] at same
    obtain ⟨after, present, bare⟩ := Option.map_eq_some_iff.mp same
    refine ⟨after, present, Instance.eq_of_bare_eq bare, fun apart => ?_, fun plain outside => ?_⟩
    · have others : concerns source s s' (some id) = false := by
        refine decide_eq_false ?_
        rintro (own | new)
        · exact apart own
        · obtain ⟨_, joined, same⟩ := List.mem_map.mp new
          cases same
          exact (mem_newcomers.mp joined).2 old
      have caps := contained.caps id old others
      rw [found, present] at caps
      exact Option.some.inj caps
    · have guards := applyEffect_guard standing.caps success plain outside
      rw [found, present] at guards
      obtain ⟨armor, rest⟩ := Prod.mk.inj (Option.some.inj guards)
      exact ⟨armor, Prod.mk.inj rest⟩

/-- A nest, and what hatches from it: a keeper, that caps heat on joining. -/
def keepers : List Record := [
  { templateId := "nest", sizeCategory := "small", maxHealth := 9, movePattern := "single",
    moves := "ticks=5,summon=keeper" },
  { templateId := "keeper", sizeCategory := "small", maxHealth := 4, movePattern := "single",
    moves := "ticks=0,heat_hard_cap=5,all_gremlins_gain_armor=2" }]

/-- A keeper that hatches under a cap of the player's puts its own beside it, and its armor on the
nest. -/
theorem effects_isolated_keeper : ∃ s s' nest after,
    Operation.runAll (new (Bestiary.load keepers).1 7)
      [.spawn "nest", .effect none .permanent (.hardCap (.only .heat) 3)] = .ok s ∧
    s.applyEffect (some ⟨0⟩) .permanent (.summon (.named "keeper")) = .ok s' ∧
    newcomers s s' = [⟨1⟩] ∧
    (s'.overlays (.hardCap .heat)).overlays =
      [⟨3, .permanent, none⟩, ⟨5, .passive, some ⟨1⟩⟩] ∧
    (s'.overlays (.hardCap .heat)).overlays.filter (!concerns (some ⟨0⟩) s s' ·.source) =
      (s.overlays (.hardCap .heat)).overlays.filter (!concerns (some ⟨0⟩) s s' ·.source) ∧
    s.board.get? ⟨0⟩ = some nest ∧ s'.board.get? ⟨0⟩ = some after ∧
    nest.armor = 0 ∧ after.armor = 2 ∧ after.health = nest.health := by
  have ran : ((Operation.runAll (new (Bestiary.load keepers).1 7)
      [.spawn "nest", .effect none .permanent (.hardCap (.only .heat) 3)]).toOption.map fun s =>
        (s.applyEffect (some ⟨0⟩) .permanent (.summon (.named "keeper"))).toOption.map fun s' =>
          (newcomers s s', (s'.overlays (.hardCap .heat)).overlays,
            (s.board.get? ⟨0⟩).map (·.armor), (s'.board.get? ⟨0⟩).map (·.armor))) =
      some (some ([⟨1⟩], [⟨3, .permanent, none⟩, ⟨5, .passive, some ⟨1⟩⟩], some 0, some 2)) := by
    decide +kernel
  obtain ⟨s, success, shown⟩ := toOption_map_eq_some.mp ran
  obtain ⟨s', applied, shown⟩ := toOption_map_eq_some.mp shown
  obtain ⟨new, shown⟩ := Prod.mk.inj shown
  obtain ⟨overlays, shown⟩ := Prod.mk.inj shown
  obtain ⟨before, later⟩ := Prod.mk.inj shown
  obtain ⟨nest, found, bare⟩ := Option.map_eq_some_iff.mp before
  obtain ⟨kept, _, _, others⟩ := effects_isolated ((Reachable.fresh 7).runAll success) applied
  obtain ⟨after, present, same, _⟩ := others ⟨0⟩ nest found
  rw [present, Option.map_some, Option.some.injEq] at later
  exact ⟨s, s', nest, after, success, applied, new, overlays, kept _, found, present, bare, later,
    (congrArg Instance.health same :)⟩

/-- Whoever did something in the name of a keeper before it hatched loses it to the keeper's own. -/
theorem not_all_other_overlays_stay : ¬ ∀ (records : List Record) (s s' : Encounter)
    (source : Option InstanceId) (duration : Duration) (effect : Effect),
    Reachable (Bestiary.load records).1 s → s.applyEffect source duration effect = .ok s' →
    ∀ slot, ∀ overlay ∈ (s.overlays slot).overlays, overlay.source ≠ source →
      overlay ∈ (s'.overlays slot).overlays := by
  intro stay
  have ran : ((Operation.runAll (new (Bestiary.load keepers).1 7)
      [.spawn "nest", .effect (some ⟨1⟩) .permanent (.hardCap (.only .heat) 3)]).toOption.map
        fun s => (s.applyEffect (some ⟨0⟩) .permanent (.summon (.named "keeper"))).toOption.map
          fun s' => ((s.overlays (.hardCap .heat)).overlays,
            (s'.overlays (.hardCap .heat)).overlays)) =
      some (some ([⟨3, .permanent, some ⟨1⟩⟩], [⟨5, .passive, some ⟨1⟩⟩])) := by
    decide +kernel
  obtain ⟨s, success, shown⟩ := toOption_map_eq_some.mp ran
  obtain ⟨s', applied, shown⟩ := toOption_map_eq_some.mp shown
  obtain ⟨before, after⟩ := Prod.mk.inj shown
  have stayed := stay keepers s s' (some ⟨0⟩) .permanent _ ((Reachable.fresh 7).runAll success)
    applied (.hardCap .heat) ⟨3, .permanent, some ⟨1⟩⟩ (before ▸ List.mem_singleton.mpr rfl)
    (by decide)
  rw [after] at stayed
  exact absurd stayed (by decide)

end Encounter

end Gremlin
