import Gremlin.Proofs.Encounter.Deaths

set_option autoImplicit false

/-!
Fights in which nobody asks for a random choice. Only random patterns, random selectors and summons
of a size draw from the generator. Where nobody on the board or in the bestiary has any, every call
of a tick does the same whatever the generator is, leaves it alone, and brings nobody who has.
-/

namespace Gremlin

open Gremlin.Random (Generator)

/-! ### Who asks for a random choice -/

/-- Whether an effect asks for a random choice, of a force or of a template. -/
def Effect.isRandom : Effect → Bool
  | drain .random _ | decay .random _ | hardCap .random _ | softCap .random _
  | summon (.ofSize _) => true
  | _ => false

theorem Effect.selector_ne_random {effect : Effect} (certain : effect.isRandom = false)
    {selector : Selector} (written : effect.selector? = some selector) : selector ≠ .random := by
  rintro rfl
  cases effect <;> cases written <;> cases certain

/-- Whether gremlins of a kind ask for random choices, by their pattern, their moves or their
death. -/
def Template.isRandom (template : Template) : Bool :=
  template.pattern = .random ||
    (template.moves.flatMap (·.effects) ++ template.onDeath).any (·.isRandom)

namespace Template

variable {template : Template} (certain : template.isRandom = false)

include certain

theorem pattern_ne_random : template.pattern ≠ .random := by
  intro random
  simp [isRandom, random] at certain

theorem isRandom_of_mem_moves {move : Move} (held : move ∈ template.moves) {effect : Effect}
    (member : effect ∈ move.effects) : effect.isRandom = false := by
  have all := (Bool.or_eq_false_iff.mp certain).2
  rw [List.any_eq_false] at all
  refine Bool.eq_false_iff.mpr (all effect ?_)
  exact List.mem_append_left _ (List.mem_flatMap.mpr ⟨move, held, member⟩)

theorem isRandom_of_mem_onDeath {effect : Effect} (member : effect ∈ template.onDeath) :
    effect.isRandom = false := by
  have all := (Bool.or_eq_false_iff.mp certain).2
  rw [List.any_eq_false] at all
  exact Bool.eq_false_iff.mpr (all effect (List.mem_append_right _ member))

end Template

namespace Instance

/-- A gremlin asks for no random choice, not even by the caps it remembers. -/
structure Certain (gremlin : Instance) : Prop where
  template : gremlin.template.isRandom = false
  caps : ∀ effect ∈ gremlin.installedCaps, effect.isRandom = false

namespace Certain

variable {gremlin : Instance}

theorem of_eq {other : Instance} (certain : gremlin.Certain)
    (template : other.template = gremlin.template)
    (caps : other.installedCaps = gremlin.installedCaps) : other.Certain :=
  ⟨template ▸ certain.template, caps ▸ certain.caps⟩

theorem rememberCap (certain : gremlin.Certain) {effect : Effect}
    (lasting : effect.isRandom = false) : (gremlin.rememberCap effect).Certain := by
  unfold Instance.rememberCap
  split
  · exact certain
  · refine ⟨certain.template, fun other member => ?_⟩
    rcases List.mem_append.mp member with old | new
    · exact certain.caps other old
    · rw [List.mem_singleton.mp new]
      exact lasting

theorem isRandom_of_current (certain : gremlin.Certain) {move : Move}
    (current : gremlin.currentMove? = some move) {effect : Effect}
    (member : effect ∈ move.effects) : effect.isRandom = false :=
  Template.isRandom_of_mem_moves certain.template (List.mem_of_getElem? current) member

end Certain

/-- Only a random pattern draws. -/
theorem nextMove_of_certain {gremlin : Instance} (certain : gremlin.Certain) (g g' : Generator) :
    gremlin.nextMove g' = ((gremlin.nextMove g).1, (gremlin.nextMove g).2.1, g') := by
  have certainly := Template.pattern_ne_random certain.template
  unfold nextMove
  dsimp only
  split
  · rfl
  · cases pattern : gremlin.template.pattern with
    | random => exact absurd pattern certainly
    | single | sequence | cycle | byHealth => rfl
    | adaptive =>
      dsimp only
      cases gremlin.template.adaptive with
      | none => rfl
      | some table =>
        dsimp only
        split <;> rfl

theorem nextMove_keeps (gremlin : Instance) (g : Generator) :
    (gremlin.nextMove g).2.1.template = gremlin.template ∧
      (gremlin.nextMove g).2.1.installedCaps = gremlin.installedCaps := by
  obtain ⟨observed, same⟩ := gremlin.nextMove_gremlin g
  rw [same]
  exact ⟨rfl, rfl⟩

end Instance

namespace Encounter

/-- Nobody asks for a random choice, neither on the board nor among those who may join it. -/
structure Certain (s : Encounter) : Prop where
  templates : ∀ template ∈ s.bestiary.templates, template.isRandom = false
  gremlins : ∀ gremlin ∈ s.board.gremlins, gremlin.Certain

namespace Certain

variable {s s' : Encounter}

theorem of_board_eq (certain : s.Certain) (bestiary : s'.bestiary = s.bestiary)
    (board : s'.board = s.board) : s'.Certain :=
  ⟨bestiary ▸ certain.templates, board ▸ certain.gremlins⟩

theorem get? (certain : s.Certain) {id : InstanceId} {gremlin : Instance}
    (found : s.board.get? id = some gremlin) : gremlin.Certain :=
  certain.gremlins gremlin (Board.mem_of_get? found)

theorem modify (certain : s.Certain) (id : InstanceId) {change : Instance → Instance}
    (keeps : ∀ gremlin, gremlin.Certain → (change gremlin).Certain) :
    (s.modify id change).Certain := by
  refine ⟨certain.templates, fun gremlin member => ?_⟩
  obtain ⟨old, present, rfl⟩ := List.mem_map.mp member
  split
  · exact keeps old (certain.gremlins old present)
  · exact certain.gremlins old present

theorem observe (certain : s.Certain) (action : PlayerAction) : (s.observe action).Certain := by
  refine ⟨certain.templates, fun gremlin member => ?_⟩
  obtain ⟨old, present, rfl⟩ := List.mem_map.mp member
  exact (certain.gremlins old present).of_eq rfl rfl

theorem remove (certain : s.Certain) (id : InstanceId) :
    Certain { s with board := s.board.remove id } :=
  ⟨certain.templates, fun gremlin member => certain.gremlins gremlin (List.mem_filter.mp member).1⟩

theorem spawn (certain : s.Certain) {template : Template}
    (known : template ∈ s.bestiary.templates) (position : SummonPosition)
    (summoner : Option InstanceId) :
    Certain { s with board := (s.board.spawn template s.now position summoner).1 } := by
  have born : (Instance.spawn ⟨s.board.next⟩ template s.now summoner).Certain :=
    ⟨certain.templates template known, List.forall_mem_nil _⟩
  refine ⟨certain.templates, ?_⟩
  cases position with
  | top => exact List.forall_mem_cons.mpr ⟨born, certain.gremlins⟩
  | bottom =>
    exact List.forall_mem_append.mpr ⟨certain.gremlins, List.forall_mem_singleton.mpr born⟩

theorem foldl {α : Type} {act : Encounter → α → Encounter} {arguments : List α}
    (each : ∀ argument ∈ arguments, ∀ s, s.Certain → (act s argument).Certain)
    (certain : s.Certain) : (arguments.foldl act s).Certain := by
  induction arguments generalizing s with
  | nil => exact certain
  | cons argument rest ih =>
    rw [List.forall_mem_cons] at each
    exact ih each.2 (each.1 s certain)

end Certain

/-- The same encounter with another generator. -/
def seeded (s : Encounter) (generator : Generator) : Encounter := { s with generator }

section Seeded

variable (s : Encounter) (generator : Generator)

@[simp] theorem seeded_board : (s.seeded generator).board = s.board := rfl

@[simp] theorem seeded_bestiary : (s.seeded generator).bestiary = s.bestiary := rfl

@[simp] theorem seeded_clock : (s.seeded generator).clock = s.clock := rfl

end Seeded

/-- A call does the same whatever the generator is, does not draw from it, and leads to nobody who
asks for a random choice. -/
structure Unseeded (act : Encounter → Except EncounterError Encounter) (s : Encounter) : Prop where
  same : ∀ generator, act (s.seeded generator) = (act s).map (·.seeded generator)
  certain : ∀ s', act s = .ok s' → s'.Certain

namespace Unseeded

variable {act next : Encounter → Except EncounterError Encounter} {s : Encounter}

theorem done (change : Encounter → Encounter)
    (same : ∀ generator, change (s.seeded generator) = (change s).seeded generator)
    (certain : (change s).Certain) : Unseeded (fun s => .ok (change s)) s := by
  refine ⟨fun generator => congrArg Except.ok (same generator), fun s' success => ?_⟩
  cases success
  exact certain

theorem idle (certain : s.Certain) : Unseeded (fun s => .ok s) s :=
  .done (fun s => s) (fun _ => rfl) certain

/-- It is enough to know what a call does on encounters that differ in their generator alone. -/
theorem congr (agree : ∀ generator, act (s.seeded generator) = next (s.seeded generator))
    (unseeded : Unseeded next s) : Unseeded act s := by
  have here : act s = next s := agree s.generator
  refine ⟨fun generator => ?_, fun s' success => unseeded.certain s' (here ▸ success)⟩
  rw [agree, here, unseeded.same]

theorem after (change : Encounter → Encounter)
    (same : ∀ generator, change (s.seeded generator) = (change s).seeded generator)
    (unseeded : Unseeded act (change s)) : Unseeded (fun s => act (change s)) s := by
  refine ⟨fun generator => ?_, unseeded.certain⟩
  rw [same, unseeded.same]

theorem bind (first : Unseeded act s) (second : ∀ s', s'.Certain → Unseeded next s') :
    Unseeded (fun s => act s >>= next) s := by
  constructor
  · intro generator
    rw [first.same]
    cases acted : act s with
    | error reason => rfl
    | ok after => exact (second after (first.certain after acted)).same generator
  · intro s' success
    obtain ⟨after, acted, success⟩ := bind_eq_ok.mp success
    exact (second after (first.certain after acted)).certain s' success

theorem foldlM {α : Type} {act : Encounter → α → Except EncounterError Encounter}
    {arguments : List α}
    (each : ∀ s argument, argument ∈ arguments → s.Certain → Unseeded (act · argument) s)
    (certain : s.Certain) : Unseeded (fun s => arguments.foldlM act s) s := by
  induction arguments generalizing s with
  | nil => exact .idle certain
  | cons argument rest ih =>
    have first := each s argument List.mem_cons_self certain
    apply first.bind
    intro after
    apply ih
    intro s other member
    exact each s other (List.mem_cons_of_mem _ member)

end Unseeded

/-! ### Effects -/

theorem foldl_seeded {α : Type} {act : Encounter → α → Encounter} {arguments : List α}
    (each : ∀ argument ∈ arguments, ∀ s generator,
      act (seeded s generator) argument = (act s argument).seeded generator)
    (s : Encounter) (generator : Generator) :
    arguments.foldl act (s.seeded generator) = (arguments.foldl act s).seeded generator := by
  induction arguments generalizing s with
  | nil => rfl
  | cons argument rest ih =>
    rw [List.forall_mem_cons] at each
    rw [List.foldl_cons, each.1, ih each.2, List.foldl_cons]

theorem takeForce_seeded (event : Force → Nat → Event) (amount : Nat) (force : Force)
    (s : Encounter) (generator : Generator) :
    takeForce event amount (s.seeded generator) force =
      (takeForce event amount s force).seeded generator := by
  rw [takeForce_eq, takeForce_eq]
  rfl

theorem takeForce_certain (event : Force → Nat → Event) (amount : Nat) (force : Force)
    (s : Encounter) (certain : s.Certain) : (takeForce event amount s force).Certain := by
  rw [takeForce_eq]
  exact certain.of_board_eq rfl rfl

theorem installHardCap_seeded (overlay : Overlay) (force : Force) (s : Encounter)
    (generator : Generator) : installHardCap overlay (s.seeded generator) force =
      (installHardCap overlay s force).seeded generator := rfl

theorem installSoftCap_seeded (overlay : Overlay) (force : Force) (s : Encounter)
    (generator : Generator) : installSoftCap overlay (s.seeded generator) force =
      (installSoftCap overlay s force).seeded generator := rfl

theorem change_seeded (change : Instance → Instance) (event : InstanceId → Event) (id : InstanceId)
    (s : Encounter) (generator : Generator) :
    Encounter.change change event (s.seeded generator) id =
      (Encounter.change change event s id).seeded generator := rfl

theorem rememberCap_seeded (s : Encounter) (source : Option InstanceId) (effect : Effect)
    (generator : Generator) : (s.seeded generator).rememberCap source effect =
      (s.rememberCap source effect).seeded generator := by
  cases source <;> rfl

theorem presentForces_seeded {selector : Selector} (certain : selector ≠ .random) (s : Encounter)
    (generator : Generator) : (s.seeded generator).presentForces selector =
      ((s.presentForces selector).1, (s.presentForces selector).2.seeded generator) := by
  cases selector with
  | random => exact absurd rfl certain
  | only _ | every | largest | smallest => rfl

theorem cappedForces_seeded {selector : Selector} (certain : selector ≠ .random) (s : Encounter)
    (generator : Generator) : (s.seeded generator).cappedForces selector =
      ((s.cappedForces selector).1, (s.cappedForces selector).2.seeded generator) := by
  cases selector with
  | random => exact absurd rfl certain
  | only _ | every | largest | smallest => rfl

/-- Without a random selector an effect does the same whatever the generator is. -/
theorem applyPlain_seeded (source : Option InstanceId) (duration : Duration) {effect : Effect}
    (certain : effect.isRandom = false) (s : Encounter) (generator : Generator) :
    applyPlain source duration (s.seeded generator) effect =
      (applyPlain source duration s effect).seeded generator := by
  cases effect with
  | drain selector n =>
    have selects := Effect.selector_ne_random certain rfl
    simp only [applyPlain, presentForces_seeded selects]
    exact foldl_seeded (fun force _ => takeForce_seeded _ _ force) _ generator
  | decay selector n =>
    have selects := Effect.selector_ne_random certain rfl
    simp only [applyPlain, presentForces_seeded selects]
    exact foldl_seeded (fun force _ => takeForce_seeded _ _ force) _ generator
  | hardCap selector limit =>
    have selects := Effect.selector_ne_random certain rfl
    simp only [applyPlain, rememberCap_seeded, cappedForces_seeded selects]
    exact foldl_seeded (fun force _ => installHardCap_seeded _ force) _ generator
  | softCap selector limit =>
    have selects := Effect.selector_ne_random certain rfl
    simp only [applyPlain, rememberCap_seeded, cappedForces_seeded selects]
    exact foldl_seeded (fun force _ => installSoftCap_seeded _ force) _ generator
  | totalCap limit => cases source <;> rfl
  | gainArmor scope n | gainShields scope n =>
    cases scope <;> exact foldl_seeded (fun id _ => change_seeded _ _ id) s generator
  | raiseReflect gain => exact foldl_seeded (fun id _ => change_seeded _ _ id) s generator
  | amplifyDrains _ | raiseCardCost _ | limitHand _ | lockDraw | forceDiscard _ | shuffleHand
  | copyLastCard => rfl
  | removeConstraints => cases source <;> rfl
  | summon _ | reinstateConstraints => rfl

theorem change_certain {change : Instance → Instance} (event : InstanceId → Event)
    (template : ∀ gremlin, (change gremlin).template = gremlin.template)
    (caps : ∀ gremlin, (change gremlin).installedCaps = gremlin.installedCaps) (id : InstanceId)
    (s : Encounter) (certain : s.Certain) : (Encounter.change change event s id).Certain := by
  have changed : (s.modify id change).Certain :=
    certain.modify id fun gremlin certain => certain.of_eq (template gremlin) (caps gremlin)
  exact changed.of_board_eq rfl rfl

theorem rememberCap_certain {s : Encounter} (certain : s.Certain) (source : Option InstanceId)
    {effect : Effect} (lasting : effect.isRandom = false) :
    (s.rememberCap source effect).Certain := by
  cases source with
  | none => exact certain
  | some id => exact certain.modify id fun gremlin certain => certain.rememberCap lasting

/-- Only a cap is remembered, so no other effect can make anyone ask for a random choice later. -/
theorem applyPlain_certain (source : Option InstanceId) (duration : Duration) {effect : Effect}
    (lasting : effect.isCap = true → effect.isRandom = false) (s : Encounter)
    (certain : s.Certain) : (applyPlain source duration s effect).Certain := by
  have presents : ∀ selector, (s.presentForces selector).2.Certain := by
    intro selector
    cases selector <;> exact certain.of_board_eq rfl rfl
  have caps : ∀ (after : Encounter) selector, after.Certain →
      (after.cappedForces selector).2.Certain := by
    intro after selector certain
    cases selector <;> exact certain.of_board_eq rfl rfl
  cases effect with
  | drain selector n | decay selector n =>
    exact (presents selector).foldl fun force _ => takeForce_certain _ _ force
  | hardCap selector limit | softCap selector limit =>
    have remembered := rememberCap_certain certain source (lasting rfl)
    exact (caps _ selector remembered).foldl fun _ _ _ certain => certain.of_board_eq rfl rfl
  | totalCap limit =>
    exact (rememberCap_certain certain source (lasting rfl)).of_board_eq rfl rfl
  | gainArmor scope n | gainShields scope n | raiseReflect gain =>
    refine certain.foldl fun id _ => change_certain _ ?_ ?_ id <;> intro _ <;> rfl
  | amplifyDrains _ | raiseCardCost _ | limitHand _ | lockDraw | forceDiscard _ | shuffleHand
  | copyLastCard => exact certain.of_board_eq rfl rfl
  | removeConstraints => cases source <;> exact certain.of_board_eq rfl rfl
  | summon _ | reinstateConstraints => exact certain

/-- The caps that a gremlin reinstates are those it remembers. -/
theorem reinstate_unseeded {s : Encounter} (certain : s.Certain) (source : Option InstanceId)
    (duration : Duration) : Unseeded (fun s => .ok (s.reinstate source duration)) s := by
  cases source with
  | none => exact .idle certain
  | some id =>
    let redone (caps : List Effect) (s : Encounter) : Encounter :=
      (caps.foldl (applyPlain (some id) duration) s).record (.constraintsReinstated id caps.length)
    have redoes : ∀ caps : List Effect, (∀ effect ∈ caps, effect.isRandom = false) →
        Unseeded (fun s => .ok (redone caps s)) s := by
      intro caps lasting
      apply Unseeded.done (redone caps)
      · intro generator
        have all := foldl_seeded (fun effect member =>
          applyPlain_seeded (some id) duration (lasting effect member)) s generator
        exact congrArg (·.record (.constraintsReinstated id caps.length)) all
      · have all : (caps.foldl (applyPlain (some id) duration) s).Certain :=
          certain.foldl fun effect member =>
            applyPlain_certain _ _ fun _ => lasting effect member
        exact all.of_board_eq rfl rfl
    cases found : s.board.get? id with
    | none =>
      refine .congr (fun generator => ?_) (redoes [] (List.forall_mem_nil _))
      rw [reinstate, seeded_board, found]
    | some gremlin =>
      refine .congr (fun generator => ?_) (redoes gremlin.installedCaps (certain.get? found).caps)
      rw [reinstate, seeded_board, found]

/-! ### Summons -/

section Nested

variable {enter : InstanceId → Encounter → Except EncounterError Encounter}
  (enters : ∀ id s, Certain s → Unseeded (enter id) s) {s : Encounter} (certain : s.Certain)

include enters certain

/-- Whoever is summoned is of a template that is known, even if it is drawn among those of a
size. -/
theorem summon_certain {source : Option InstanceId} {spec : SummonSpec} {s' : Encounter}
    (success : s.summon enter source spec = .ok s') : s'.Certain := by
  have way := summon_summoning enter source spec s
  have bestiary := summonTemplate_bestiary s (s.ownTemplate source) spec
  have board := summonTemplate_board s (s.ownTemplate source) spec
  generalize s.summon enter source spec = result at way success
  cases way with
  | blocked id given refused =>
    cases success
    unfold turnAway
    split <;> exact certain.of_board_eq rfl rfl
  | missing after allowed drawn =>
    cases success
    rw [drawn] at bestiary board
    exact certain.of_board_eq bestiary board
  | joins after template position allowed drawn =>
    have known := summonTemplate_known (congrArg Prod.fst drawn)
    rw [drawn] at bestiary board
    have drew : after.Certain := certain.of_board_eq bestiary board
    have joined := drew.spawn (bestiary ▸ known) position source
    have welcomed : (after.welcome template position source).Certain := joined.of_board_eq rfl rfl
    exact (enters _ _ welcomed).certain s' success

theorem summon_unseeded (source : Option InstanceId) (name : String) :
    Unseeded (fun s => s.summon enter source (.named name)) s := by
  refine ⟨fun generator => ?_, fun s' success => summon_certain enters certain success⟩
  have spawns : ∀ template ∈ s.bestiary.templates, ∀ position,
      enter ⟨s.board.next⟩ ((s.seeded generator).welcome template position source) =
        (enter ⟨s.board.next⟩ (s.welcome template position source)).map (·.seeded generator) := by
    intro template known position
    have joined := certain.spawn known position source
    have welcomed : (s.welcome template position source).Certain := joined.of_board_eq rfl rfl
    exact (enters _ _ welcomed).same generator
  unfold summon
  rw [seeded_board]
  split
  · rename_i id refuses
    dsimp only [record, seeded]
    cases s.board.get? id <;> rfl
  · dsimp only [summonTemplate]
    rw [seeded_bestiary]
    cases found : s.bestiary.get? name with
    | none => rfl
    | some template => exact spawns template (Bestiary.mem_of_get? found) _

theorem applyWith_unseeded (source : Option InstanceId) (duration : Duration) {effect : Effect}
    (lasting : effect.isRandom = false) :
    Unseeded (fun s => s.applyWith enter source duration effect) s := by
  have plain : Unseeded (fun s => .ok (applyPlain source duration s effect)) s :=
    .done (applyPlain source duration · effect) (applyPlain_seeded source duration lasting s)
      (applyPlain_certain source duration (fun _ => lasting) s certain)
  cases effect with
  | summon spec =>
    cases spec with
    | named name => exact summon_unseeded enters certain source name
    | ofSize size => cases lasting
  | reinstateConstraints => exact reinstate_unseeded certain source duration
  | drain _ _ | decay _ _ | hardCap _ _ | softCap _ _ | totalCap _ | gainArmor _ _
  | gainShields _ _ | raiseReflect _ | amplifyDrains _ | raiseCardCost _ | limitHand _ | lockDraw
  | forceDiscard _ | shuffleHand | copyLastCard | removeConstraints => exact plain

/-- Whatever effect is given, only a random cap could be remembered and reinstated later. -/
theorem applyWith_certain {source : Option InstanceId} {duration : Duration} {effect : Effect}
    (lasting : effect.isCap = true → effect.isRandom = false) {s' : Encounter}
    (success : s.applyWith enter source duration effect = .ok s') : s'.Certain := by
  unfold applyWith at success
  split at success
  · exact summon_certain enters certain success
  · exact (reinstate_unseeded certain source duration).certain s' success
  · cases success
    exact applyPlain_certain source duration lasting s certain

end Nested

/-- By induction on how deep the openings may still be nested. -/
theorem enterPassive_unseeded (nesting : Nat) (id : InstanceId) (s : Encounter)
    (certain : s.Certain) : Unseeded (enterPassive nesting id) s := by
  induction nesting generalizing id s with
  | zero => exact ⟨fun _ => rfl, fun s' success => by cases success⟩
  | succ nesting ih =>
    cases passive : (s.board.get? id).bind (·.passiveMove?) with
    | none =>
      refine .congr (fun generator => ?_) (.idle certain)
      rw [enterPassive, seeded_board, passive]
    | some move =>
      obtain ⟨gremlin, found, held⟩ := Option.bind_eq_some_iff.mp passive
      have current : gremlin.currentMove? = some move := (Option.filter_eq_some_iff.mp held).1
      have lasting : ∀ effect ∈ entryEffects move, effect.isRandom = false := fun effect member =>
        (certain.get? found).isRandom_of_current current (mem_effects_of_mem_entryEffects member)
      have opens : Unseeded (fun s =>
          (entryEffects move).foldlM (applyWith (enterPassive nesting) (some id) .passive) s) s :=
        .foldlM (fun s effect member certain =>
          applyWith_unseeded ih certain (some id) .passive (lasting effect member)) certain
      refine .congr (fun generator => ?_) opens
      rw [enterPassive, seeded_board, passive]

section Calls

variable {s : Encounter} (certain : s.Certain)

include certain

theorem applyEffects_unseeded (source : Option InstanceId) (duration : Duration)
    {effects : List Effect} (lasting : ∀ effect ∈ effects, effect.isRandom = false) :
    Unseeded (fun s => s.applyEffects source duration effects) s := by
  refine .foldlM (fun s effect member certain => ?_) certain
  have applied := applyWith_unseeded (enterPassive_unseeded s.nesting) certain source duration
    (lasting effect member)
  exact .congr (fun _ => rfl) applied

theorem enterMove_unseeded (id : InstanceId) (index : Nat) :
    Unseeded (fun s => s.enterMove id index) s := by
  have released : (s.releasePassive id).Certain := certain.of_board_eq rfl rfl
  cases found : s.board.get? id with
  | none =>
    refine .congr (fun generator => ?_) (.done (·.releasePassive id) (fun _ => rfl) released)
    dsimp only [Encounter.enterMove, releasePassive, seeded]
    rw [found]
  | some gremlin =>
    let entered (s : Encounter) : Encounter :=
      ((s.releasePassive id).modify id (·.enterMove index)).record (.moveEntered id index)
    have modified : ((s.releasePassive id).modify id (·.enterMove index)).Certain :=
      released.modify id fun _ certain => certain.of_eq rfl rfl
    have told : (entered s).Certain := modified.of_board_eq rfl rfl
    refine .congr (fun generator => ?_)
      (.after entered (fun _ => rfl) (enterPassive_unseeded s.nesting id _ told))
    dsimp only [Encounter.enterMove, releasePassive, seeded]
    rw [found]
    rfl

/-- A gremlin that is there and alive does something, and nothing happens otherwise. -/
theorem ifAlive_unseeded {act : Encounter → Instance → Except EncounterError Encounter}
    (id : InstanceId)
    (acts : ∀ gremlin, s.board.get? id = some gremlin → Unseeded (act · gremlin) s) :
    Unseeded (fun s => s.ifAlive id (act s)) s := by
  have rests : Unseeded (fun s => .ok s) s := .idle certain
  cases found : s.board.get? id with
  | none =>
    refine .congr (fun generator => ?_) rests
    rw [ifAlive, seeded_board, found]
  | some gremlin =>
    by_cases alive : gremlin.isAlive = true
    · refine .congr (fun generator => ?_) (acts gremlin found)
      rw [ifAlive, seeded_board, found]
      exact if_pos alive
    · refine .congr (fun generator => ?_) rests
      rw [ifAlive, seeded_board, found]
      exact if_neg alive

theorem holdMove_unseeded (id : InstanceId) : Unseeded (fun s => s.holdMove id) s := by
  refine ifAlive_unseeded certain id fun gremlin found => ?_
  let regenerated (s : Encounter) : Encounter := s.modify id (·.regenerate)
  have rested : (regenerated s).Certain := by
    exact certain.modify id fun gremlin certain => certain.of_eq (regenerate_template gremlin)
      (gremlin.regenerate_view (·.installedCaps) fun _ => rfl)
  cases passive : gremlin.passiveMove? with
  | none => exact .done regenerated (fun _ => rfl) rested
  | some move =>
    have current : gremlin.currentMove? = some move := (Option.filter_eq_some_iff.mp passive).1
    have counted : ((regenerated s).modify id (·.countTrigger)).Certain :=
      rested.modify id fun _ certain => certain.of_eq rfl rfl
    refine .after (fun s => (regenerated s).modify id (·.countTrigger)) (fun _ => rfl)
      (applyEffects_unseeded counted (some id) .passive fun effect member => ?_)
    exact (certain.get? found).isRandom_of_current current (List.mem_filter.mp member).1

theorem fireMove_unseeded (id : InstanceId) : Unseeded (fun s => s.fireMove id) s := by
  refine ifAlive_unseeded certain id fun gremlin found => ?_
  let aged (s : Encounter) : Encounter := s.modify id (·.age)
  have older : (aged s).Certain := certain.modify id fun _ certain => certain.of_eq rfl rfl
  have waits : Unseeded (fun s => .ok (aged s)) s := .done aged (fun _ => rfl) older
  cases current : gremlin.currentMove? with
  | none => exact waits
  | some move =>
    by_cases fires : gremlin.age.fires = true
    · let fired (s : Encounter) : Encounter :=
        ((aged s).modify id (·.countTrigger)).record (.moveFired id gremlin.move)
      have counted : ((aged s).modify id (·.countTrigger)).Certain :=
        older.modify id fun _ certain => certain.of_eq rfl rfl
      have told : (fired s).Certain := counted.of_board_eq rfl rfl
      refine .congr (fun _ => if_pos fires) (.after fired (fun _ => rfl)
        (applyEffects_unseeded told (some id) (.ticks move.interval) fun effect member => ?_))
      exact (certain.get? found).isRandom_of_current current member
    · exact .congr (fun _ => if_neg fires) waits

/-- A gremlin that asks for no random choice decides the same whatever the generator is. -/
theorem changeMove_unseeded (id : InstanceId) : Unseeded (fun s => s.changeMove id) s := by
  refine ifAlive_unseeded certain id fun gremlin found => ?_
  have choice := Instance.nextMove_of_certain (certain.get? found) s.generator
  obtain ⟨template, caps⟩ := gremlin.nextMove_keeps s.generator
  generalize (gremlin.nextMove s.generator).1 = next at choice
  generalize (gremlin.nextMove s.generator).2.1 = after at choice template caps
  let decided (s : Encounter) : Encounter := s.modify id fun _ => after
  have decides : (decided s).Certain :=
    certain.modify id fun _ _ => (certain.get? found).of_eq template caps
  cases next with
  | none =>
    refine .congr (fun generator => ?_) (.done decided (fun _ => rfl) decides)
    rw [choice]
    rfl
  | some index =>
    refine .congr (fun generator => ?_)
      (.after decided (fun _ => rfl) (enterMove_unseeded decides id index))
    rw [choice]
    rfl

/-- A phase of a tick goes over those who were there when it began. -/
theorem foldlM_ids_unseeded {act : Encounter → InstanceId → Except EncounterError Encounter}
    (each : ∀ s id, Certain s → Unseeded (act · id) s) :
    Unseeded (fun s => s.board.ids.foldlM act s) s := by
  have all : Unseeded (s.board.ids.foldlM act ·) s :=
    .foldlM (fun s id _ certain => each s id certain) certain
  exact .congr (fun _ => rfl) all

theorem applyPassives_unseeded : Unseeded applyPassives s := by
  let released (s : Encounter) : Encounter := { s with
    pool := s.pool.releaseAllPassive
    pressure := s.pressure.releaseAllPassive }
  have lifted : (released s).Certain := certain.of_board_eq rfl rfl
  have holds := foldlM_ids_unseeded lifted fun s id certain => holdMove_unseeded certain id
  exact .after released (fun _ => rfl) holds

theorem bury_unseeded (id : InstanceId) : Unseeded (fun s => s.bury id) s := by
  cases found : s.board.get? id with
  | none =>
    refine .congr (fun generator => ?_) (.idle certain)
    rw [bury, seeded_board, found]
  | some gremlin =>
    have avenges := applyEffects_unseeded certain (some id) .permanent
      fun effect member => Template.isRandom_of_mem_onDeath (certain.get? found).template member
    have leaves : ∀ after : Encounter, after.Certain →
        Unseeded (fun s => .ok (s.parting id gremlin)) after := fun after certain =>
      have observed := (certain.remove id).observe .gremlinKilled
      .done (·.parting id gremlin) (fun _ => rfl) (observed.of_board_eq rfl rfl)
    refine .congr (fun generator => ?_) (avenges.bind leaves)
    rw [bury, seeded_board, found]
    rfl

theorem terminate_unseeded : Unseeded (fun s => .ok s.terminate) s := by
  refine .done terminate (fun generator => ?_) ?_
  · unfold terminate
    rw [seeded_clock]
    split <;> rfl
  · obtain ⟨_, board, bestiary, _⟩ := s.terminate_concluded
    exact certain.of_board_eq bestiary board

theorem pruneDead_unseeded : Unseeded pruneDead s := by
  have buries : Unseeded (s.board.dead.foldlM bury ·) s :=
    .foldlM (fun s id _ certain => bury_unseeded certain id) certain
  have ends : ∀ after : Encounter, after.Certain →
      Unseeded (fun s => .ok (if s.board.isEmpty then s.terminate else s)) after := by
    intro after certain
    by_cases empty : after.board.isEmpty = true
    · refine .congr (fun generator => ?_) (terminate_unseeded certain)
      rw [seeded_board, if_pos empty]
    · refine .congr (fun generator => ?_) (.idle certain)
      rw [seeded_board, if_neg empty]
  refine .congr (fun generator => ?_) (buries.bind ends)
  rfl

theorem advance_unseeded : Unseeded advance s := by
  cases ticks : s.clock.advance? with
  | none =>
    refine ⟨fun generator => ?_, fun s' success => ?_⟩
    · unfold advance
      rw [seeded_clock, ticks]
      rfl
    · unfold advance at success
      rw [ticks] at success
      cases success
  | some clock =>
    let begun (s : Encounter) : Encounter := { s with clock }.record (.tick clock.now)
    have begins : (begun s).Certain := certain.of_board_eq rfl rfl
    have ends : ∀ after : Encounter, after.Certain →
        Unseeded (fun s => s.expire.pruneDead) after := by
      intro after certain
      have expired : after.expire.Certain := certain.of_board_eq rfl rfl
      exact .after expire (fun _ => rfl) (pruneDead_unseeded expired)
    have changes : ∀ after : Encounter, after.Certain →
        Unseeded (fun s => s.runTransitions >>= fun s => s.expire.pruneDead) after :=
      fun after certain => (foldlM_ids_unseeded certain fun s id certain =>
        changeMove_unseeded certain id).bind ends
    have fires : ∀ after : Encounter, after.Certain →
        Unseeded (fun s => s.fireMoves >>= fun s => s.runTransitions >>= fun s =>
          s.expire.pruneDead) after :=
      fun after certain => (foldlM_ids_unseeded certain fun s id certain =>
        fireMove_unseeded certain id).bind changes
    refine .congr (fun generator => ?_)
      (.after begun (fun _ => rfl) ((applyPassives_unseeded begins).bind fires))
    unfold advance
    rw [seeded_clock, ticks]

end Calls

end Encounter

end Gremlin
