import Gremlin.Proofs.Encounter.Failures
import Gremlin.Proofs.Encounter.SummonCaps
import Gremlin.Proofs.OpeningGraph

set_option autoImplicit false

/-!
Chains of openings. A gremlin that is born into a passive move does the effects of that move on
joining; those may summon, and whoever is summoned opens in turn, all within one call. Whether such
a chain comes to an end can be read off the templates, up to what random summons draw.
-/

namespace Gremlin

open Gremlin.Random (Generator)

namespace Encounter

/-- A gremlin of a template is on a board in order, still in the move it was born into, and has so
many live summons. -/
structure Joined (bestiary : Bestiary) (id : InstanceId) (own : Template) (live : Nat)
    (s : Encounter) : Prop where
  known : s.bestiary = bestiary
  orderly : s.Orderly
  bounded : s.board.Bounded
  present : ∃ gremlin, s.board.get? id = some gremlin ∧ gremlin.template = own ∧ gremlin.move = 0
  brood : s.board.liveSummons id = live

namespace Joined

variable {bestiary : Bestiary} {id : InstanceId} {own : Template} {live : Nat} {s s' : Encounter}

theorem effected (joined : Joined bestiary id own live s) (effected : Effected s s') {later : Nat}
    (brood : s'.board.liveSummons id = later) : Joined bestiary id own later s' := by
  obtain ⟨gremlin, found, template, move⟩ := joined.present
  obtain ⟨after, present, same⟩ := effected.bare_kept joined.orderly found
  have phase : Phase (fun _ _ _ => True) [] s s' := effected.phase joined.orderly
  refine ⟨phase.bestiary.trans joined.known, phase.orderly, effected.bounded joined.bounded,
    ⟨after, present, ?_, ?_⟩, brood⟩
  · exact (congrArg Instance.template same).trans template
  · exact (congrArg Instance.move same).trans move

theorem deeds (joined : Joined bestiary id own live s) (deeds : Deeds s s') :
    Joined bestiary id own live s' :=
  joined.effected deeds.effected ((Board.liveSummons_congr deeds.kin id).trans joined.brood)

theorem known_number (joined : Joined bestiary id own live s) : id.value < s.board.next := by
  obtain ⟨gremlin, found, _⟩ := joined.present
  exact joined.bounded.numbered.below id (Board.mem_ids_iff.mpr ⟨gremlin, found⟩)

theorem room_iff (joined : Joined bestiary id own live s) :
    s.board.canSummon id = true ↔ own.HasRoom live := by
  obtain ⟨gremlin, found, template, _⟩ := joined.present
  rw [Board.canSummon_iff, joined.brood]
  constructor
  · rintro ⟨other, present, below⟩
    rw [found] at present
    cases present
    exact template ▸ below
  · intro room
    exact ⟨gremlin, found, template ▸ room⟩

theorem passiveMove?_eq (joined : Joined bestiary id own live s) :
    (s.board.get? id).bind (·.passiveMove?) = own.opening? := by
  obtain ⟨gremlin, found, template, move⟩ := joined.present
  rw [found, Option.bind_some, Instance.passiveMove?, Instance.currentMove?, template, move]
  rfl

/-- Whoever joins has no summons yet. -/
theorem newcomer {s : Encounter} (orderly : s.Orderly) (bounded : s.board.Bounded)
    {template : Template} (member : template ∈ s.bestiary.templates) (position : SummonPosition)
    (summoner : Option InstanceId)
    (allowed : ∀ id, summoner = some id → s.board.canSummon id = true)
    {event : Event} (still : event.mover? = none) :
    Joined s.bestiary ⟨s.board.next⟩ template 0 ({ s with
      board := (s.board.spawn template s.now position summoner).1 }.record event) := by
  have phase : Phase (fun _ _ _ => True) [] s ({ s with
      board := (s.board.spawn template s.now position summoner).1 }.record event) :=
    .of_spawn orderly member position summoner still
  refine ⟨rfl, phase.orderly, bounded.spawn template s.now position allowed, ⟨_,
    orderly.numbered.get?_spawn_same template s.now position summoner, rfl, rfl⟩, ?_⟩
  change (s.board.spawn template s.now position summoner).1.liveSummons ⟨s.board.next⟩ = 0
  rw [Board.liveSummons_spawn, bounded.liveSummons_next, if_neg]
  rintro ⟨_, same⟩
  obtain ⟨gremlin, found, _⟩ := Board.canSummon_iff.mp (allowed _ same)
  rw [bounded.numbered.get?_of_le (Nat.le_refl _)] at found
  cases found

end Joined

/-! ### The summons of an opening -/

section Opening

variable {bestiary : Bestiary} (sound : ∀ template ∈ bestiary.templates, template.Sound)
  {id : InstanceId} {own : Template} {live nesting : Nat} {s : Encounter}

theorem Joined.ownTemplate_eq (joined : Joined bestiary id own live s) :
    s.ownTemplate (some id) = some own := by
  obtain ⟨gremlin, found, template, _⟩ := joined.present
  rw [ownTemplate, Option.bind_some, found, Option.map_some, template]

theorem Joined.eq_nil_of_drawn (joined : Joined bestiary id own live s) {spec : SummonSpec}
    (nothing : (s.summonTemplate (s.ownTemplate (some id)) spec).1 = none) :
    bestiary.answers own spec = [] := by
  rw [joined.ownTemplate_eq] at nothing
  cases spec with
  | named target =>
    rw [Bestiary.answers, ← joined.known, show s.bestiary.get? target = none from nothing]
    rfl
  | ofSize size =>
    rw [Bestiary.answers, ← joined.known]
    exact Generator.eq_nil_of_choose nothing

theorem Joined.mem_answers_of_drawn (joined : Joined bestiary id own live s) {spec : SummonSpec}
    {template : Template}
    (drawn : (s.summonTemplate (s.ownTemplate (some id)) spec).1 = some template) :
    template ∈ bestiary.answers own spec := by
  rw [joined.ownTemplate_eq] at drawn
  cases spec with
  | named target =>
    rw [Bestiary.answers, ← joined.known, show s.bestiary.get? target = some template from drawn]
    exact List.mem_singleton_self template
  | ofSize size =>
    rw [Bestiary.answers, ← joined.known]
    exact Generator.mem_of_choose drawn

/-- A summon that creates nothing, or may not be, leaves the brood as it is. -/
theorem Joined.summon_idle (joined : Joined bestiary id own live s) (nesting : Nat)
    {spec : SummonSpec} (idle : bestiary.answers own spec = [] ∨ ¬ own.HasRoom live) :
    ∃ s', s.summon (enterPassive nesting) (some id) spec = .ok s' ∧
      Joined bestiary id own live s' := by
  have way := summon_summoning (enterPassive nesting) (some id) spec s
  generalize s.summon (enterPassive nesting) (some id) spec = result at way
  cases way with
  | blocked other given refused => exact ⟨_, rfl, joined.deeds (s.turnAway_deeds other spec)⟩
  | missing after allowed drawn =>
    exact ⟨_, rfl, joined.deeds ((drawn_deeds drawn).tail (.notify _ _))⟩
  | joins after template position allowed drawn =>
    rcases idle with nothing | full
    · have member := joined.mem_answers_of_drawn (congrArg Prod.fst drawn)
      rw [nothing] at member
      cases member
    · exact absurd (joined.room_iff.mp (allowed id rfl)) full

/-- Effects other than summons leave the brood as it is. -/
theorem Joined.applyWith_plain (joined : Joined bestiary id own live s) (nesting : Nat)
    {effect : Effect} (plain : effect.summonSpec? = none) :
    ∃ s', s.applyWith (enterPassive nesting) (some id) .passive effect = .ok s' ∧
      Joined bestiary id own live s' := by
  unfold applyWith
  split
  · cases plain
  · exact ⟨_, rfl, joined.deeds (reinstate_deeds (some id) .passive s)⟩
  · exact ⟨_, rfl, joined.deeds (applyPlain_deeds (some id) .passive s effect)⟩

include sound

/-- Any other summon lets a gremlin of one of its answers join, which opens before anything else
happens. By what it does on opening, the brood of its summoner does not grow any more. -/
theorem Joined.summon_creates (joined : Joined bestiary id own live s) (nesting : Nat)
    {spec : SummonSpec} (some : bestiary.answers own spec ≠ []) (room : own.HasRoom live) :
    ∃ template ∈ bestiary.answers own spec, ∃ newcomer welcomed,
      s.summon (enterPassive nesting) (.some id) spec = enterPassive nesting newcomer welcomed ∧
      Joined bestiary newcomer template 0 welcomed ∧
      ∀ s', enterPassive nesting newcomer welcomed = .ok s' →
        Joined bestiary id own (live + 1) s' := by
  have way := summon_summoning (enterPassive nesting) (.some id) spec s
  generalize s.summon (enterPassive nesting) (.some id) spec = result at way
  cases way with
  | blocked other given refused =>
    cases given
    rw [joined.room_iff.mpr room] at refused
    cases refused
  | missing after allowed drawn =>
    exact absurd (joined.eq_nil_of_drawn (congrArg Prod.fst drawn)) some
  | joins after template position allowed drawn =>
    have member := joined.mem_answers_of_drawn (congrArg Prod.fst drawn)
    have drew := joined.deeds (drawn_deeds drawn)
    have known : template ∈ after.bestiary.templates :=
      drew.known ▸ Bestiary.mem_of_mem_answers member
    have may : ∀ other, Option.some id = .some other → after.board.canSummon other = true := by
      rintro other ⟨⟩
      exact drew.room_iff.mpr room
    have opens : Joined after.bestiary ⟨after.board.next⟩ template 0
        (after.welcome template position (.some id)) :=
      .newcomer drew.orderly drew.bounded known position (.some id) may rfl
    rw [drew.known] at opens
    refine ⟨template, member, _, _, rfl, opens, fun s' success => ?_⟩
    have arrived : Effected after (after.welcome template position (.some id)) :=
      (Arrival.summoned after template position (.some id) known may).effected
    have grown := Board.liveSummons_spawn after.board template after.now position (.some id) id
    rw [if_pos ⟨(sound template (Bestiary.mem_of_mem_answers member)).healthy, rfl⟩, drew.brood]
      at grown
    refine drew.effected (arrived.trans (enterPassive_effected success)) ?_
    refine ((enterPassive_rears success).others id ?_ ?_).trans grown
    · rintro ⟨⟩
      exact Nat.lt_irrefl _ drew.known_number
    · exact Nat.lt_succ_of_lt drew.known_number

/-- The ways an effect of an opening can go: it creates nothing, or a gremlin joins and opens. -/
theorem Joined.effect_cases (joined : Joined bestiary id own live s) (effect : Effect)
    (rest : List Effect) :
    (∃ after, s.applyWith (enterPassive nesting) (some id) .passive effect = .ok after ∧
      Joined bestiary id own live after ∧
      bestiary.created own live ((effect :: rest).filterMap Effect.summonSpec?) =
        bestiary.created own live (rest.filterMap Effect.summonSpec?)) ∨
      ∃ answers, ∃ template ∈ answers, ∃ newcomer welcomed,
        s.applyWith (enterPassive nesting) (some id) .passive effect =
          enterPassive nesting newcomer welcomed ∧
        Joined bestiary newcomer template 0 welcomed ∧
        (∀ after, enterPassive nesting newcomer welcomed = .ok after →
          Joined bestiary id own (live + 1) after) ∧
        bestiary.created own live ((effect :: rest).filterMap Effect.summonSpec?) =
          answers :: bestiary.created own (live + 1) (rest.filterMap Effect.summonSpec?) := by
  cases given : effect.summonSpec? with
  | none =>
    obtain ⟨after, done, stays⟩ := joined.applyWith_plain nesting given
    exact .inl ⟨after, done, stays, by rw [List.filterMap_cons_none given]⟩
  | some spec =>
    obtain rfl : effect = .summon spec := by
      cases effect <;> cases given
      rfl
    rw [List.filterMap_cons_some given]
    by_cases idle : bestiary.answers own spec = [] ∨ ¬ own.HasRoom live
    · obtain ⟨after, done, stays⟩ := joined.summon_idle nesting idle
      exact .inl ⟨after, done, stays, Bestiary.created_cons_of_idle idle _⟩
    · rw [not_or, not_not] at idle
      obtain ⟨template, member, newcomer, welcomed, creates, opens, later⟩ :=
        joined.summon_creates sound nesting idle.1 idle.2
      exact .inr ⟨_, template, member, newcomer, welcomed, creates, opens, later,
        Bestiary.created_cons_of_room idle.2 idle.1 _⟩

/-! ### Openings that end, and openings that do not -/

theorem Joined.effects_end
    (opens : ∀ {id own s}, Joined bestiary id own 0 s → bestiary.ends List.all nesting own = true →
      ∃ s', enterPassive nesting id s = .ok s')
    (joined : Joined bestiary id own live s) {effects : List Effect}
    (ends : ∀ answers ∈ bestiary.created own live (effects.filterMap Effect.summonSpec?),
      ∀ template ∈ answers, bestiary.ends List.all nesting template = true) :
    ∃ s', effects.foldlM (applyWith (enterPassive nesting) (some id) .passive) s = .ok s' := by
  induction effects generalizing live s with
  | nil => exact ⟨s, rfl⟩
  | cons effect rest ih =>
    rw [List.foldlM_cons]
    rcases joined.effect_cases sound effect rest with ⟨after, done, stays, created⟩ |
      ⟨answers, template, member, newcomer, welcomed, creates, opening, later, created⟩
    · rw [created] at ends
      obtain ⟨s', success⟩ := ih stays ends
      exact ⟨s', bind_eq_ok.mpr ⟨after, done, success⟩⟩
    · rw [created] at ends
      obtain ⟨after, opened⟩ := opens opening (ends answers List.mem_cons_self template member)
      obtain ⟨s', success⟩ :=
        ih (later after opened) fun others given => ends others (List.mem_cons_of_mem _ given)
      exact ⟨s', bind_eq_ok.mpr ⟨after, creates.trans opened, success⟩⟩

/-- If every gremlin that may be summoned opens to an end within the depth, so does its summoner. By
induction on the depth, and in each opening on its effects. -/
theorem Joined.opening_ends (joined : Joined bestiary id own 0 s)
    (ends : bestiary.ends List.all nesting own = true) :
    ∃ s', enterPassive nesting id s = .ok s' := by
  induction nesting generalizing id own s with
  | zero => cases ends
  | succ nesting ih =>
    rw [enterPassive, joined.passiveMove?_eq]
    cases opening : own.opening? with
    | none => exact ⟨s, rfl⟩
    | some move =>
      refine joined.effects_end sound ih fun answers created => ?_
      rw [Bestiary.ends_succ_eq_true_iff, Template.openingSummons, opening] at ends
      simp only [Option.toList_some, List.flatMap_singleton] at ends
      exact List.all_eq_true.mp (ends answers created)

theorem Joined.effects_fail
    (opens : ∀ {id own s}, Joined bestiary id own 0 s → bestiary.ends List.any nesting own = false →
      enterPassive nesting id s = .error .endlessSummons)
    (joined : Joined bestiary id own live s) {effects : List Effect}
    (endless : ∃ answers ∈ bestiary.created own live (effects.filterMap Effect.summonSpec?),
      ∀ template ∈ answers, bestiary.ends List.any nesting template = false) :
    effects.foldlM (applyWith (enterPassive nesting) (some id) .passive) s =
      .error .endlessSummons := by
  induction effects generalizing live s with
  | nil =>
    obtain ⟨answers, created, _⟩ := endless
    rw [List.filterMap_nil, Bestiary.created_nil] at created
    cases created
  | cons effect rest ih =>
    rw [List.foldlM_cons]
    rcases joined.effect_cases sound effect rest with ⟨after, done, stays, created⟩ |
      ⟨answers, template, member, newcomer, welcomed, creates, opening, later, created⟩
    · rw [created] at endless
      rw [done]
      exact ih stays endless
    · rw [created] at endless
      obtain ⟨others, given, never⟩ := endless
      rw [creates]
      cases opened : enterPassive nesting newcomer welcomed with
      | error reason =>
        rw [(enterPassive_atMostEndless _ _ _).only _ opened]
        rfl
      | ok after =>
        rcases List.mem_cons.mp given with rfl | given
        · rw [opens opening (never template member)] at opened
          cases opened
        · exact ih (later after opened) ⟨others, given, never⟩

/-- If one of the summons that take place creates no gremlin that may open to an end within the
depth, the depth is exceeded. -/
theorem Joined.opening_fails (joined : Joined bestiary id own 0 s)
    (endless : bestiary.ends List.any nesting own = false) :
    enterPassive nesting id s = .error .endlessSummons := by
  induction nesting generalizing id own s with
  | zero => rfl
  | succ nesting ih =>
    rw [Bestiary.ends, List.all_eq_false] at endless
    rw [enterPassive, joined.passiveMove?_eq]
    cases opening : own.opening? with
    | none =>
      rw [Template.openingSummons, opening] at endless
      simp [Bestiary.created_nil] at endless
    | some move =>
      refine joined.effects_fail sound ih ?_
      rw [Template.openingSummons, opening] at endless
      simp only [Option.toList_some, List.flatMap_singleton, Bool.not_eq_true,
        List.any_eq_false] at endless
      exact endless

end Opening

/-! ### Spawns -/

/-- A spawn is the opening of a gremlin that has just joined. -/
theorem spawn_joined {s : Encounter} (orderly : s.Orderly) (bounded : s.board.Bounded)
    {templateId : String} {template : Template}
    (found : s.bestiary.get? templateId = some template) :
    ∃ id start, Joined s.bestiary id template 0 start ∧
      s.spawn templateId = (enterPassive s.nesting id start).map fun after => (after, id) := by
  have joined := Joined.newcomer orderly bounded (Bestiary.mem_of_get? found) .bottom none
    (fun _ none => by cases none)
    (rfl : (Event.spawned ⟨s.board.next⟩ templateId).mover? = none)
  refine ⟨_, _, joined, ?_⟩
  rw [spawn, found]
  rfl

section Spawn

variable {records : List Record} {s : Encounter} {templateId : String} {template : Template}
  (reachable : Reachable (Bestiary.load records).1 s)
  (found : (Bestiary.load records).1.get? templateId = some template)

include reachable found

theorem spawn_opens (depth : Nat) :
    ∃ id start, Joined (Bestiary.load records).1 id template 0 start ∧
      ({ s with nesting := depth } : Encounter).spawn templateId =
        (enterPassive depth id start).map fun after => (after, id) := by
  have nested : Reachable (Bestiary.load records).1 { s with nesting := depth } :=
    reachable.step (.nest depth) rfl
  have standing := nested.standing fun _ member => Bestiary.sound_of_mem_load member
  obtain ⟨id, start, joined, spawns⟩ :=
    spawn_joined standing.orderly nested.bounded (standing.known ▸ found)
  exact ⟨id, start, standing.known ▸ joined, spawns⟩

theorem spawn_returns (ends : (Bestiary.load records).1.mustEnd template = true) {depth : Nat}
    (deep : (Bestiary.load records).1.templates.length ≤ depth) :
    ∃ s' id, ({ s with nesting := depth } : Encounter).spawn templateId = .ok (s', id) := by
  obtain ⟨id, start, joined, spawns⟩ := spawn_opens reachable found depth
  obtain ⟨after, opened⟩ := joined.opening_ends (fun _ => Bestiary.sound_of_mem_load)
    (Bestiary.ends_mono Bestiary.all_monotone deep ends)
  exact ⟨after, id, spawns.trans (opened ▸ rfl)⟩

theorem spawn_fails (endless : (Bestiary.load records).1.mayEnd template = false) (depth : Nat) :
    ({ s with nesting := depth } : Encounter).spawn templateId = .error .endlessSummons := by
  obtain ⟨id, start, joined, spawns⟩ := spawn_opens reachable found depth
  have never : (Bestiary.load records).1.ends List.any depth template = false := by
    refine Bool.eq_false_iff.mpr fun within => ?_
    have may := Bestiary.ends_length Bestiary.any_monotone (Bestiary.mem_of_get? found) within
    exact Bool.false_ne_true (endless.symm.trans may)
  rw [spawns, joined.opening_fails (fun _ => Bestiary.sound_of_mem_load) never]
  rfl

end Spawn

/-- A spawn returns if the opening of its template ends whatever is drawn, and then no deeper than
there are templates; it exceeds every depth if there is no end to what summons lead to. If openings
summon by name, it is one or the other. -/
theorem spawn_ends {records : List Record} {s : Encounter} {templateId : String}
    {template : Template} (reachable : Reachable (Bestiary.load records).1 s)
    (found : (Bestiary.load records).1.get? templateId = some template) :
    ((Bestiary.load records).1.mustEnd template = true →
      ∀ depth, (Bestiary.load records).1.templates.length ≤ depth →
        ∃ s' id, ({ s with nesting := depth } : Encounter).spawn templateId = .ok (s', id)) ∧
      ((Bestiary.load records).1.mayEnd template = false →
        ∀ depth, ({ s with nesting := depth } : Encounter).spawn templateId =
          .error .endlessSummons) ∧
      ((Bestiary.load records).1.OpensByName →
        (Bestiary.load records).1.mustEnd template =
          (Bestiary.load records).1.mayEnd template) := by
  refine ⟨?_, ?_, ?_⟩
  · intro ends depth deep
    exact spawn_returns reachable found ends deep
  · intro endless depth
    exact spawn_fails reachable found endless depth
  · intro named
    exact named.ends_eq _ (Bestiary.mem_of_get? found)

/-- A nest comes with an egg, and an egg with nothing. -/
def nests : List Record := [
  { templateId := "nest", sizeCategory := "small", maxHealth := 4, movePattern := "single",
    moves := "ticks=0,summon=egg" },
  { templateId := "egg", sizeCategory := "gnat", maxHealth := 1, movePattern := "none" }]

theorem spawn_ends_nest :
    ∃ s' id, ({ new (Bestiary.load nests).1 7 with nesting := 2 } : Encounter).spawn "nest" =
      .ok (s', id) := by
  have shown : ((Bestiary.load nests).1.get? "nest").map (fun template =>
      ((Bestiary.load nests).1.mustEnd template, (Bestiary.load nests).1.templates.length)) =
        some (true, 2) := by
    decide +kernel
  obtain ⟨template, found, both⟩ := Option.map_eq_some_iff.mp shown
  obtain ⟨ends, two⟩ := Prod.mk.inj both
  exact (spawn_ends (.fresh 7) found).1 ends 2 (Nat.le_of_eq two)

/-- A hydra comes with another hydra. -/
def hydras : List Record := [
  { templateId := "hydra", sizeCategory := "small", maxHealth := 1, movePattern := "single",
    moves := "ticks=0,summon=hydra" }]

/-- No depth is enough for a hydra, which loads without a fault. -/
theorem not_every_spawn_returns :
    ¬ ∀ (records : List Record) (s : Encounter) (templateId : String) (template : Template),
      Reachable (Bestiary.load records).1 s →
      (Bestiary.load records).1.get? templateId = some template →
      ∃ depth s' id, ({ s with nesting := depth } : Encounter).spawn templateId = .ok (s', id) := by
  intro returns
  have shown : ((Bestiary.load hydras).1.get? "hydra").map (Bestiary.load hydras).1.mayEnd =
      some false := by
    decide +kernel
  obtain ⟨template, found, endless⟩ := Option.map_eq_some_iff.mp shown
  obtain ⟨depth, s', id, success⟩ := returns hydras _ "hydra" template (.fresh 7) found
  rw [spawn_fails (.fresh 7) found endless] at success
  cases success

end Encounter

end Gremlin
