import Gremlin.Proofs.Encounter.Deeds

set_option autoImplicit false

/-!
How effects unfold. A summon goes one of three ways, and everything else is done at once; so what
the effects of a gremlin come to, with all the openings they lead to, is built by a few rules. What
effects keep is shown by going over the rules.
-/

namespace Gremlin

namespace Encounter

/-! ### Ways a summon can go -/

/-- The template of a source. -/
def ownTemplate (s : Encounter) (source : Option InstanceId) : Option Template :=
  (source.bind s.board.get?).map (·.template)

/-- A summon is refused, and listeners are told if the summoner is there. -/
def turnAway (s : Encounter) (id : InstanceId) (spec : SummonSpec) : Encounter :=
  match s.board.get? id with
  | some gremlin => (s.record (.summonBlocked id spec)).notify (.summonBlocked gremlin.summary spec)
  | none => s.record (.summonBlocked id spec)

/-- A summoned gremlin joins the board. -/
def welcome (s : Encounter) (template : Template) (position : SummonPosition)
    (summoner : Option InstanceId) : Encounter :=
  { s with board := (s.board.spawn template s.now position summoner).1 }.record
    (.summoned summoner ⟨s.board.next⟩)

/-- The ways a summon can go: the summoner may not summon, there is no template, or a gremlin joins
and does what it does on joining. -/
inductive Summoning (enter : InstanceId → Encounter → Except EncounterError Encounter)
    (source : Option InstanceId) (spec : SummonSpec) (s : Encounter) :
    Except EncounterError Encounter → Prop
  | blocked (id : InstanceId) (given : source = some id) (refused : s.board.canSummon id = false) :
      Summoning enter source spec s (.ok (s.turnAway id spec))
  | missing (after : Encounter)
      (allowed : ∀ id, source = some id → s.board.canSummon id = true)
      (drawn : s.summonTemplate (s.ownTemplate source) spec = (none, after)) :
      Summoning enter source spec s (.ok (after.notify (.noTemplate spec)))
  | joins (after : Encounter) (template : Template) (position : SummonPosition)
      (allowed : ∀ id, source = some id → s.board.canSummon id = true)
      (drawn : s.summonTemplate (s.ownTemplate source) spec = (some template, after)) :
      Summoning enter source spec s
        (enter ⟨after.board.next⟩ (after.welcome template position source))

theorem summon_summoning (enter : InstanceId → Encounter → Except EncounterError Encounter)
    (source : Option InstanceId) (spec : SummonSpec) (s : Encounter) :
    Summoning enter source spec s (s.summon enter source spec) := by
  rw [summon]
  split
  · rename_i id refuses
    obtain ⟨given, refused⟩ := Option.filter_eq_some_iff.mp refuses
    have away : Summoning enter source spec s (.ok (s.turnAway id spec)) :=
      .blocked id given (by simpa using refused)
    rw [turnAway] at away
    dsimp only
    split
    · rename_i gremlin found
      rw [show s.board.get? id = some gremlin from found] at away
      exact away
    · rename_i absent
      rw [show s.board.get? id = none from absent] at away
      exact away
  · rename_i free
    have allowed : ∀ id, source = some id → s.board.canSummon id = true := by
      intro id given
      subst given
      simpa [Option.filter] using free
    dsimp only
    split
    · rename_i after drawn
      exact .missing after allowed drawn
    · rename_i template after drawn
      exact .joins after template _ allowed drawn

theorem turnAway_deeds (s : Encounter) (id : InstanceId) (spec : SummonSpec) :
    Deeds s (s.turnAway id spec) := by
  have told := Relation.ReflTransGen.single (Deed.blocked s id spec)
  unfold turnAway
  split
  · exact told.tail (.notify _ _)
  · exact told

/-! ### The rules -/

/-- A gremlin on the board is of a template that can summon such a thing. -/
def Offers (s : Encounter) (id : InstanceId) (spec : SummonSpec) : Prop :=
  ∃ gremlin, s.board.get? id = some gremlin ∧ spec ∈ gremlin.template.summons

/-- What doing effects on behalf of a source comes to, if all their summons are among those that
are offered. Whoever joins the board opens its own move in turn. -/
inductive Unfolds :
    (SummonSpec → Prop) → Option InstanceId → Encounter → Encounter → Prop
  | refl (offered : SummonSpec → Prop) (source : Option InstanceId) (s : Encounter) :
      Unfolds offered source s s
  | plain {offered : SummonSpec → Prop} {source : Option InstanceId} {s s' : Encounter}
      (so_far : Unfolds offered source s s') (duration : Duration) (effect : Effect) :
      Unfolds offered source s (applyPlain source duration s' effect)
  | reinstated {offered : SummonSpec → Prop} {source : Option InstanceId} {s s' : Encounter}
      (so_far : Unfolds offered source s s') (duration : Duration) :
      Unfolds offered source s (s'.reinstate source duration)
  | blocked {offered : SummonSpec → Prop} {id : InstanceId} {s s' : Encounter}
      (so_far : Unfolds offered (some id) s s') (spec : SummonSpec)
      (refused : s'.board.canSummon id = false) :
      Unfolds offered (some id) s (s'.turnAway id spec)
  | missing {offered : SummonSpec → Prop} {source : Option InstanceId} {s s' after : Encounter}
      (so_far : Unfolds offered source s s') (spec : SummonSpec) (among : offered spec)
      (drawn : s'.summonTemplate (s'.ownTemplate source) spec = (none, after)) :
      Unfolds offered source s (after.notify (.noTemplate spec))
  | joined {offered : SummonSpec → Prop} {source : Option InstanceId}
      {s s' after s'' : Encounter} (so_far : Unfolds offered source s s') (spec : SummonSpec)
      (template : Template) (position : SummonPosition)
      (allowed : ∀ id, source = some id → s'.board.canSummon id = true)
      (drawn : s'.summonTemplate (s'.ownTemplate source) spec = (some template, after))
      (opening : Unfolds ((after.welcome template position source).Offers ⟨after.board.next⟩)
        (some ⟨after.board.next⟩) (after.welcome template position source) s'') :
      Unfolds offered source s s''

theorem Unfolds.trans {offered : SummonSpec → Prop} {source : Option InstanceId}
    {s s' s'' : Encounter} (first : Unfolds offered source s s')
    (second : Unfolds offered source s' s'') : Unfolds offered source s s'' := by
  induction second with
  | refl => exact first
  | plain _ duration effect ih => exact (ih first).plain duration effect
  | reinstated _ duration ih => exact (ih first).reinstated duration
  | blocked _ spec refused ih => exact (ih first).blocked spec refused
  | missing _ spec among drawn ih => exact (ih first).missing spec among drawn
  | joined _ spec template position allowed drawn opening ih =>
    exact (ih first).joined spec template position allowed drawn opening

section Nested

variable {enter : InstanceId → Encounter → Except EncounterError Encounter}
  (opens : ∀ {id s s'}, enter id s = .ok s' → Unfolds (s.Offers id) (some id) s s')
  {offered : SummonSpec → Prop} {source : Option InstanceId} {s s' : Encounter}

include opens

theorem summon_unfolds {spec : SummonSpec} (among : offered spec)
    (success : s.summon enter source spec = .ok s') : Unfolds offered source s s' := by
  have way := summon_summoning enter source spec s
  generalize s.summon enter source spec = result at way success
  have start := Unfolds.refl offered source s
  cases way with
  | blocked id given refused =>
    cases success
    subst given
    exact start.blocked spec refused
  | missing after allowed drawn =>
    cases success
    exact start.missing spec among drawn
  | joins after template position allowed drawn =>
    exact start.joined spec template position allowed drawn (opens success)

theorem applyWith_unfolds {duration : Duration} {effect : Effect}
    (among : ∀ spec, effect = .summon spec → offered spec)
    (success : s.applyWith enter source duration effect = .ok s') :
    Unfolds offered source s s' := by
  unfold applyWith at success
  split at success
  · exact summon_unfolds opens (among _ rfl) success
  · cases success
    exact (Unfolds.refl offered source s).reinstated duration
  · cases success
    exact (Unfolds.refl offered source s).plain duration effect

end Nested

theorem foldlM_unfolds {offered : SummonSpec → Prop} {source : Option InstanceId}
    {act : Encounter → Effect → Except EncounterError Encounter} {effects : List Effect}
    (each : ∀ {s effect s'}, effect ∈ effects → act s effect = .ok s' →
      Unfolds offered source s s')
    {s s' : Encounter} (success : effects.foldlM act s = .ok s') : Unfolds offered source s s' :=
  foldlM_preserves (motive := Unfolds offered source s) effects
    (fun _ _ _ member so_far stepped => so_far.trans (each member stepped)) (.refl _ _ s) success

theorem mem_effects_of_mem_entryEffects {move : Move} {effect : Effect}
    (member : effect ∈ entryEffects move) : effect ∈ move.effects := by
  rcases List.mem_append.mp member with once | standing
  · exact (List.mem_filter.mp once).1
  · exact (List.mem_filter.mp standing).1

/-- What a gremlin does on entering a move, its template can do. -/
theorem offers_of_entryEffects {s : Encounter} {id : InstanceId} {move : Move}
    (passive : (s.board.get? id).bind (·.passiveMove?) = some move) {spec : SummonSpec}
    (member : .summon spec ∈ entryEffects move) : s.Offers id spec := by
  obtain ⟨gremlin, found, held⟩ := Option.bind_eq_some_iff.mp passive
  refine ⟨gremlin, found, List.mem_filterMap.mpr ⟨.summon spec, ?_, rfl⟩⟩
  have current : gremlin.template.moves[gremlin.move]? = some move :=
    (Option.filter_eq_some_iff.mp held).1
  exact List.mem_append_left _ (List.mem_flatMap.mpr
    ⟨move, List.mem_of_getElem? current, mem_effects_of_mem_entryEffects member⟩)

/-- By induction on how deep the openings may still be nested. -/
theorem enterPassive_unfolds {nesting : Nat} {id : InstanceId} {s s' : Encounter}
    (success : enterPassive nesting id s = .ok s') : Unfolds (s.Offers id) (some id) s s' := by
  induction nesting generalizing id s s' with
  | zero => cases success
  | succ nesting ih =>
    rw [enterPassive] at success
    split at success
    · rename_i move passive
      refine foldlM_unfolds (fun member done => applyWith_unfolds ih ?_ done) success
      rintro spec rfl
      exact offers_of_entryEffects passive member
    · cases success
      exact .refl _ _ s

section Applied

variable {offered : SummonSpec → Prop} {source : Option InstanceId} {duration : Duration}
  {s s' : Encounter}

theorem applyEffect_unfolds {effect : Effect} (among : ∀ spec, effect = .summon spec → offered spec)
    (success : s.applyEffect source duration effect = .ok s') : Unfolds offered source s s' :=
  applyWith_unfolds enterPassive_unfolds among success

theorem applyEffects_unfolds {effects : List Effect}
    (among : ∀ spec, .summon spec ∈ effects → offered spec)
    (success : s.applyEffects source duration effects = .ok s') : Unfolds offered source s s' :=
  foldlM_unfolds (fun member done => applyEffect_unfolds (fun spec same => among spec (same ▸ member))
    done) success

end Applied

/-! ### Effects as deeds and arrivals -/

theorem welcome_effected {s after : Encounter} {source : Option InstanceId} {spec : SummonSpec}
    {template : Template} (position : SummonPosition)
    (allowed : ∀ id, source = some id → s.board.canSummon id = true)
    (drawn : s.summonTemplate (s.ownTemplate source) spec = (some template, after)) :
    Effected s (after.welcome template position source) := by
  have board := summonTemplate_board s (s.ownTemplate source) spec
  have bestiary := summonTemplate_bestiary s (s.ownTemplate source) spec
  have known := summonTemplate_known (congrArg Prod.fst drawn)
  rw [drawn] at board bestiary
  rw [← bestiary] at known
  rw [← board] at allowed
  exact (drawn_deeds drawn).effected.trans
    (Arrival.summoned after template position source known allowed).effected

theorem Unfolds.effected {offered : SummonSpec → Prop} {source : Option InstanceId}
    {s s' : Encounter} (unfolds : Unfolds offered source s s') : Effected s s' := by
  induction unfolds with
  | refl => exact .refl
  | @plain _ source _ s' _ duration effect ih =>
    exact ih.trans (applyPlain_deeds source duration s' effect).effected
  | @reinstated _ source _ s' _ duration ih =>
    exact ih.trans (reinstate_deeds source duration s').effected
  | @blocked _ id _ s' _ spec refused ih => exact ih.trans (s'.turnAway_deeds id spec).effected
  | @missing _ source _ s' after _ spec among drawn ih =>
    exact ih.trans ((drawn_deeds drawn).effected.trans (Deed.notify after _).effected)
  | joined _ spec template position allowed drawn opening ih later =>
    exact (ih.trans (welcome_effected position allowed drawn)).trans later

theorem foldlM_effected {α : Type} {act : Encounter → α → Except EncounterError Encounter}
    (each : ∀ {s argument s'}, act s argument = .ok s' → Effected s s') {arguments : List α}
    {s s' : Encounter} (success : arguments.foldlM act s = .ok s') : Effected s s' :=
  foldlM_preserves (motive := Effected s) arguments
    (fun _ _ _ _ so_far stepped => so_far.trans (each stepped)) .refl success

theorem enterPassive_effected {nesting : Nat} {id : InstanceId} {s s' : Encounter}
    (success : enterPassive nesting id s = .ok s') : Effected s s' :=
  (enterPassive_unfolds success).effected

theorem applyEffect_effected {source : Option InstanceId} {duration : Duration} {effect : Effect}
    {s s' : Encounter} (success : s.applyEffect source duration effect = .ok s') :
    Effected s s' := by
  have unfolds : Unfolds (fun _ => True) source s s' :=
    applyEffect_unfolds (fun _ _ => trivial) success
  exact unfolds.effected

theorem applyEffects_effected {source : Option InstanceId} {duration : Duration}
    {effects : List Effect} {s s' : Encounter}
    (success : s.applyEffects source duration effects = .ok s') : Effected s s' := by
  have unfolds : Unfolds (fun _ => True) source s s' :=
    applyEffects_unfolds (fun _ _ => trivial) success
  exact unfolds.effected

/-- A gremlin has just been put on the board. -/
def arriving (s : Encounter) (template : Template) (templateId : String) : Encounter :=
  { s with board := (s.board.spawn template s.now .bottom none).1 }.record
    (.spawned ⟨s.board.next⟩ templateId)

theorem spawn_eq_ok {templateId : String} {s s' : Encounter} {id : InstanceId}
    (success : s.spawn templateId = .ok (s', id)) :
    ∃ template, s.bestiary.get? templateId = some template ∧ id = ⟨s.board.next⟩ ∧
      enterPassive s.nesting ⟨s.board.next⟩ (s.arriving template templateId) = .ok s' := by
  rw [spawn] at success
  split at success
  · cases success
  · rename_i template found
    obtain ⟨after, entered, same⟩ := bind_eq_ok.mp success
    cases same
    exact ⟨template, found, rfl, entered⟩

theorem spawn_effected {templateId : String} {s s' : Encounter} {id : InstanceId}
    (success : s.spawn templateId = .ok (s', id)) : Effected s s' := by
  obtain ⟨template, found, _, entered⟩ := spawn_eq_ok success
  have named : template.id = templateId := by simpa using List.find?_some found
  have joined := Arrival.spawned s template (Bestiary.mem_of_get? found)
  rw [named] at joined
  exact joined.effected.trans (enterPassive_effected entered)

end Encounter

end Gremlin
