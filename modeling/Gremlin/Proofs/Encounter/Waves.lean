import Gremlin.Proofs.Encounter.Broods
import Gremlin.Proofs.Encounter.Failures

set_option autoImplicit false

/-!
Waves and the fights they set up. The faults that are found in a wave on its own are exactly what
keeps its fight from being set up, and a fight that is set up has the wave's gremlins on the board
in their order, among whomever their openings have summoned.
-/

namespace Gremlin

namespace Bestiary

theorem contains_iff {bestiary : Bestiary} {id : String} :
    bestiary.contains id = true ↔ ∃ template, bestiary.get? id = some template := by
  rw [contains, List.any_eq_true, ← Option.isSome_iff_exists, get?, List.find?_isSome]

theorem id_of_get? {bestiary : Bestiary} {id : String} {template : Template}
    (found : bestiary.get? id = some template) : template.id = id := by
  simpa using List.find?_some found

end Bestiary

/-! ### Who is on the board of its own accord -/

/-- The templates of those that nobody summoned, from top to bottom. -/
def Board.roots (board : Board) : List String :=
  (board.gremlins.filter (·.summoner = none)).map (·.template.id)

theorem Board.roots_eq (board : Board) :
    board.roots = (board.kin.filter (·.summoner = none)).map (·.template.id) := by
  rw [roots, kin, List.filter_map, List.map_map]
  rfl

/-- Whoever is summoned, to whichever end of the board, leaves the others in their order. -/
theorem Board.roots_spawn_summoned (board : Board) (template : Template) (now : Ticks)
    (position : SummonPosition) (summoner : InstanceId) :
    (board.spawn template now position (some summoner)).1.roots = board.roots := by
  have summoned : (Instance.spawn ⟨board.next⟩ template now (some summoner)).summoner ≠ none :=
    Option.some_ne_none summoner
  cases position with
  | top => rw [roots, spawn, List.filter_cons_of_neg (by simpa using summoned), roots]
  | bottom =>
    rw [roots, spawn, List.filter_append, List.filter_cons_of_neg (by simpa using summoned),
      List.filter_nil, List.append_nil, roots]

theorem Board.roots_spawn (board : Board) (template : Template) (now : Ticks) :
    (board.spawn template now .bottom none).1.roots = board.roots ++ [template.id] := by
  rw [roots, spawn, List.filter_append, List.map_append, roots]
  rfl

namespace Encounter

theorem Deeds.roots {s s' : Encounter} (deeds : Deeds s s') : s'.board.roots = s.board.roots := by
  rw [Board.roots_eq, Board.roots_eq, deeds.kin]

/-- What is done on behalf of somebody brings only summoned gremlins. -/
theorem Unfolds.roots {offered : SummonSpec → Prop} {source : Option InstanceId} {s s' : Encounter}
    (unfolds : Unfolds offered source s s') {id : InstanceId} (given : source = some id) :
    s'.board.roots = s.board.roots := by
  induction unfolds generalizing id with
  | refl => rfl
  | @plain _ source _ s' _ duration effect ih =>
    exact (applyPlain_deeds source duration s' effect).roots.trans (ih given)
  | @reinstated _ source _ s' _ duration ih =>
    exact (reinstate_deeds source duration s').roots.trans (ih given)
  | @blocked _ _ _ s' _ spec refused ih => exact (s'.turnAway_deeds _ spec).roots.trans (ih given)
  | @missing _ source _ s' after _ spec among drawn ih =>
    have told : Deeds s' (after.notify (.noTemplate spec)) :=
      (drawn_deeds drawn).tail (.notify _ _)
    exact told.roots.trans (ih given)
  | @joined _ source _ s' after _ _ spec template position allowed drawn _ ih later =>
    have deeds := drawn_deeds drawn
    have welcomed : (after.welcome template position source).board.roots = after.board.roots := by
      rw [given]
      exact Board.roots_spawn_summoned after.board template after.now position id
    exact (later rfl).trans (welcomed.trans (deeds.roots.trans (ih given)))

/-- A spawned gremlin comes last of those that nobody summoned, whatever its opening leads to. -/
theorem spawn_roots {templateId : String} {s s' : Encounter} {id : InstanceId}
    (success : s.spawn templateId = .ok (s', id)) :
    s'.board.roots = s.board.roots ++ [templateId] := by
  obtain ⟨template, found, _, entered⟩ := spawn_eq_ok success
  rw [(enterPassive_unfolds entered).roots rfl, ← Bestiary.id_of_get? found]
  exact s.board.roots_spawn template s.now

/-- Spawns gremlins in order. -/
def spawnAll (s : Encounter) (templateIds : List String) : Except EncounterError Encounter :=
  templateIds.foldlM (fun s templateId => (s.spawn templateId).map (·.1)) s

theorem spawnAll_cons {s s' : Encounter} {templateId : String} {rest : List String} :
    s.spawnAll (templateId :: rest) = .ok s' ↔
      ∃ next id, s.spawn templateId = .ok (next, id) ∧ next.spawnAll rest = .ok s' := by
  rw [spawnAll, List.foldlM_cons, bind_eq_ok]
  simp only [map_eq_ok, Prod.exists]
  constructor
  · rintro ⟨_, ⟨next, id, spawned, rfl⟩, later⟩
    exact ⟨next, id, spawned, later⟩
  · rintro ⟨next, id, spawned, later⟩
    exact ⟨next, ⟨next, id, spawned, rfl⟩, later⟩

theorem spawnAll_roots {templateIds : List String} {s s' : Encounter}
    (success : s.spawnAll templateIds = .ok s') :
    s'.board.roots = s.board.roots ++ templateIds := by
  induction templateIds generalizing s with
  | nil =>
    cases success
    rw [List.append_nil]
  | cons templateId rest ih =>
    obtain ⟨next, id, spawned, later⟩ := spawnAll_cons.mp success
    rw [ih later, spawn_roots spawned, List.append_assoc]
    rfl

theorem Effected.bestiary {s s' : Encounter} (effected : Effected s s') :
    s'.bestiary = s.bestiary := by
  induction effected with
  | refl => rfl
  | tail _ last so_far =>
    rcases last with deed | arrival
    · exact deed.undisturbed.bestiary.trans so_far
    · cases arrival <;> exact so_far

theorem spawn_error {templateId : String} {s : Encounter} {reason : EncounterError}
    (failed : s.spawn templateId = .error reason) :
    reason = .endlessSummons ∨ s.bestiary.contains templateId = false := by
  rw [spawn] at failed
  split at failed
  · rename_i absent
    refine .inr (Bool.eq_false_iff.mpr fun known => ?_)
    obtain ⟨template, found⟩ := Bestiary.contains_iff.mp known
    rw [absent] at found
    cases found
  · refine .inl (AtMostEndless.only ?_ reason failed)
    exact (enterPassive_atMostEndless ..).bind fun _ => .ok _

/-- Spawning stops at the first gremlin that is in no template, if it does not get lost in openings
before. -/
theorem spawnAll_error {templateIds : List String} {s : Encounter} {reason : EncounterError}
    (failed : s.spawnAll templateIds = .error reason) :
    reason = .endlessSummons ∨ ∃ id ∈ templateIds, s.bestiary.contains id = false := by
  induction templateIds generalizing s with
  | nil => cases failed
  | cons templateId rest ih =>
    rw [spawnAll, List.foldlM_cons] at failed
    cases spawned : s.spawn templateId with
    | error early =>
      rw [spawned] at failed
      cases failed
      exact (spawn_error spawned).imp_right fun absent => ⟨templateId, List.mem_cons_self, absent⟩
    | ok joined =>
      rw [spawned] at failed
      refine (ih failed).imp_right fun ⟨id, member, absent⟩ => ?_
      rw [(spawn_effected spawned).bestiary] at absent
      exact ⟨id, List.mem_cons_of_mem _ member, absent⟩

theorem spawnAll_known {templateIds : List String} {s s' : Encounter}
    (success : s.spawnAll templateIds = .ok s') :
    ∀ id ∈ templateIds, s.bestiary.contains id = true := by
  induction templateIds generalizing s with
  | nil => exact fun _ member => absurd member List.not_mem_nil
  | cons templateId rest ih =>
    obtain ⟨next, _, spawned, later⟩ := spawnAll_cons.mp success
    intro id member
    rcases List.mem_cons.mp member with rfl | among
    · obtain ⟨template, found, _⟩ := spawn_eq_ok spawned
      exact Bestiary.contains_iff.mpr ⟨template, found⟩
    · rw [← (spawn_effected spawned).bestiary]
      exact ih later id among

end Encounter

/-! ### Faults -/

/-- Whether a fault is one of the wave itself, and not of its place among others. -/
def WaveError.isOwn : WaveError → Bool
  | .empty _ | .unknownGremlin _ _ => true
  | .duplicate _ => false

namespace Wave

variable {bestiary : Bestiary}

theorem ownErrors_eq_nil_iff {wave : Wave} :
    wave.ownErrors bestiary = [] ↔
      wave.gremlins ≠ [] ∧ ∀ id ∈ wave.gremlins, bestiary.contains id = true := by
  rw [ownErrors, List.append_eq_nil_iff, List.map_eq_nil_iff, List.filter_eq_nil_iff]
  refine and_congr ?_ (forall₂_congr fun id _ => ?_)
  · cases wave.gremlins <;> simp
  · simp

theorem isOwn_of_mem_ownErrors {wave : Wave} {error : WaveError}
    (member : error ∈ wave.ownErrors bestiary) : error.isOwn = true := by
  rcases List.mem_append.mp member with empty | unknown
  · split at empty
    · rw [List.mem_singleton.mp empty]
      rfl
    · cases empty
  · obtain ⟨id, _, rfl⟩ := List.mem_map.mp unknown
    rfl

/-- What is found at a wave whose predecessors have the given ids. -/
def found (bestiary : Bestiary) (seen : List String) (wave : Wave) : List WaveError :=
  (if wave.waveId ∈ seen then [.duplicate wave.waveId] else []) ++ wave.ownErrors bestiary

theorem exists_isOwn_iff {seen : List String} {wave : Wave} :
    (∃ error ∈ wave.found bestiary seen, error.isOwn = true) ↔ wave.ownErrors bestiary ≠ [] := by
  constructor
  · rintro ⟨error, member, own⟩ none
    rw [found, none, List.append_nil] at member
    split at member
    · rw [List.mem_singleton.mp member] at own
      cases own
    · cases member
  · intro some
    obtain ⟨error, member⟩ := List.exists_mem_of_ne_nil _ some
    exact ⟨error, List.mem_append_right _ member, isOwn_of_mem_ownErrors member⟩

theorem errorsAfter_append (seen : List String) (before after : List Wave) :
    errorsAfter bestiary seen (before ++ after) = errorsAfter bestiary seen before ++
      errorsAfter bestiary ((before.map (·.waveId)).reverse ++ seen) after := by
  induction before generalizing seen with
  | nil => rfl
  | cons wave rest ih =>
    rw [List.cons_append, errorsAfter, ih, errorsAfter, List.map_cons, List.reverse_cons]
    simp only [List.append_assoc, List.cons_append, List.nil_append]

/-- The check of a wave comes after those of the waves before it. -/
theorem errors_take_succ {waves : List Wave} {place : Nat} {wave : Wave}
    (there : waves[place]? = some wave) :
    errors bestiary (waves.take (place + 1)) = errors bestiary (waves.take place) ++
      wave.found bestiary ((waves.take place).map (·.waveId)).reverse := by
  rw [List.take_add_one, there, errors, errorsAfter_append, errors]
  simp only [Option.toList_some, errorsAfter, List.append_nil]
  rfl

theorem errorsAfter_eq_nil_iff {seen : List String} {waves : List Wave} :
    errorsAfter bestiary seen waves = [] ↔ (∀ wave ∈ waves, wave.ownErrors bestiary = []) ∧
      (waves.map (·.waveId)).Nodup ∧ ∀ wave ∈ waves, wave.waveId ∉ seen := by
  induction waves generalizing seen with
  | nil => simp [errorsAfter]
  | cons wave rest ih =>
    rw [errorsAfter, List.append_eq_nil_iff, List.append_eq_nil_iff, ih, List.forall_mem_cons,
      List.forall_mem_cons, List.map_cons, List.nodup_cons]
    simp only [ite_eq_right_iff, List.cons_ne_nil, imp_false, List.mem_map, List.mem_cons, not_or,
      not_exists, not_and]
    constructor
    · rintro ⟨⟨new, own⟩, others, distinct, apart⟩
      exact ⟨⟨own, others⟩, ⟨fun other member => (apart other member).1, distinct⟩, new,
        fun other member => (apart other member).2⟩
    · rintro ⟨⟨own, others⟩, ⟨apart, distinct⟩, new, later⟩
      exact ⟨⟨new, own⟩, others, distinct,
        fun other member => ⟨apart other member, later other member⟩⟩

theorem errors_eq_nil_iff {waves : List Wave} :
    errors bestiary waves = [] ↔
      (∀ wave ∈ waves, wave.ownErrors bestiary = []) ∧ (waves.map (·.waveId)).Nodup := by
  rw [errors, errorsAfter_eq_nil_iff]
  exact and_congr_right fun _ => and_iff_left fun _ _ => List.not_mem_nil

/-! ### Fights -/

/-- The fight of a wave, in which openings have so much room to lead to one another. -/
def fight (wave : Wave) (bestiary : Bestiary) (nesting : Nat) : Except EncounterError Encounter :=
  if wave.gremlins.isEmpty then .error .noGremlins
  else Encounter.spawnAll { Encounter.new bestiary Encounter.defaultSeed with
    source := wave.scenario.source, nesting } wave.gremlins

theorem ofScenario_eq_fight (wave : Wave) (bestiary : Bestiary) :
    Encounter.ofScenario wave.scenario bestiary =
      wave.fight bestiary (Encounter.new bestiary Encounter.defaultSeed).nesting := by
  have rows : wave.scenario.gremlins = wave.gremlins := rfl
  rw [fight, Encounter.ofScenario, rows]
  by_cases empty : wave.gremlins.isEmpty
  · rw [if_pos empty, if_pos empty]
  · rw [if_neg empty, if_neg empty]
    rfl

variable {wave : Wave} {nesting : Nat}

theorem fight_eq_ok {s : Encounter} (success : wave.fight bestiary nesting = .ok s) :
    wave.ownErrors bestiary = [] ∧ s.board.roots = wave.gremlins := by
  rw [fight] at success
  split at success
  · cases success
  · rename_i some
    refine ⟨ownErrors_eq_nil_iff.mpr ⟨fun none => some (List.isEmpty_iff.mpr none), ?_⟩, ?_⟩
    · exact Encounter.spawnAll_known success
    · exact Encounter.spawnAll_roots success

theorem fight_eq_error {reason : EncounterError}
    (failed : wave.fight bestiary nesting = .error reason) (returns : reason ≠ .endlessSummons) :
    wave.ownErrors bestiary ≠ [] := by
  intro none
  obtain ⟨some, known⟩ := ownErrors_eq_nil_iff.mp none
  rw [fight, if_neg (fun empty => some (List.isEmpty_iff.mp empty))] at failed
  rcases Encounter.spawnAll_error failed with endless | ⟨id, member, absent⟩
  · exact returns endless
  · rw [show (Encounter.new bestiary Encounter.defaultSeed).bestiary = bestiary from rfl] at absent
    rw [known id member] at absent
    cases absent

/-- Unless its openings never end, the fight of a wave is set up exactly if the wave has no fault of
its own. -/
theorem exists_fight_iff (returns : wave.fight bestiary nesting ≠ .error .endlessSummons) :
    (∃ s, wave.fight bestiary nesting = .ok s) ↔ wave.ownErrors bestiary = [] := by
  constructor
  · rintro ⟨s, success⟩
    exact (fight_eq_ok success).1
  · intro none
    cases result : wave.fight bestiary nesting with
    | ok s => exact ⟨s, rfl⟩
    | error reason =>
      refine absurd none (fight_eq_error result ?_)
      rintro rfl
      exact returns result

/-- Whether something failed for a given reason can be seen without comparing what it would have come
to. -/
instance decidableFailure {α : Type} (result : Except EncounterError α) (reason : EncounterError) :
    Decidable (result = .error reason) :=
  match result with
  | .ok _ => isFalse fun failed => nomatch failed
  | .error other => decidable_of_iff (other = reason) ⟨congrArg _, Except.error.inj⟩

/-- At each wave a fault of its own is found exactly if its fight cannot be set up, as long as no
openings go on without end. A fight that is set up has the wave's gremlins in the wave's order among
those that nobody summoned, and no fault at all is found exactly if all fights can be set up and no
two waves share an id. What holds with however much room for openings holds of a scenario. -/
theorem errors_decide_fights (bestiary : Bestiary) (nesting : Nat) {waves : List Wave}
    (returns : ∀ wave ∈ waves, wave.fight bestiary nesting ≠ .error .endlessSummons) :
    (∀ wave : Wave, wave.fight bestiary (Encounter.new bestiary Encounter.defaultSeed).nesting =
      Encounter.ofScenario wave.scenario bestiary) ∧
    (∀ place wave, waves[place]? = some wave → ∃ found,
      errors bestiary (waves.take (place + 1)) = errors bestiary (waves.take place) ++ found ∧
      ((∃ error ∈ found, error.isOwn = true) ↔
        ∃ reason, wave.fight bestiary nesting = .error reason)) ∧
    (∀ wave ∈ waves, ∀ s, wave.fight bestiary nesting = .ok s →
      (s.board.gremlins.filter (·.summoner = none)).map (·.template.id) = wave.gremlins) ∧
    (errors bestiary waves = [] ↔
      (∀ wave ∈ waves, ∃ s, wave.fight bestiary nesting = .ok s) ∧
        (waves.map (·.waveId)).Nodup) := by
  refine ⟨fun wave => (ofScenario_eq_fight wave bestiary).symm, ?_, ?_, ?_⟩
  · intro place wave there
    refine ⟨_, errors_take_succ there, ?_⟩
    have decided := exists_fight_iff (returns wave (List.mem_of_getElem? there))
    rw [exists_isOwn_iff, ne_eq, ← decided]
    cases wave.fight bestiary nesting <;> simp
  · intro wave _ s success
    exact (fight_eq_ok success).2
  · rw [errors_eq_nil_iff]
    refine and_congr_left fun _ => forall₂_congr fun wave member => ?_
    exact (exists_fight_iff (returns wave member)).symm

/-- A herald, whose opening puts a mite at the top of the board, and the mites. -/
def heralds : List Record := [
  { templateId := "herald", sizeCategory := "small", maxHealth := 4, summonPosition := "top",
    moves := "ticks=0,summon=mite" },
  { templateId := "mite", sizeCategory := "small", maxHealth := 1 }]

/-- A wave of these gremlins. -/
def named (waveId : String) (gremlins : List String) : Wave :=
  { waveId, displayName := waveId, act := 1, difficulty := 1, gremlins }

/-- A wave of heralds and a mite, and one of the same id with a stranger. -/
def court : List Wave :=
  [named "court" ["herald", "mite", "herald"], named "court" ["mite", "king"]]

/-- The first wave of the court has its gremlins in order among the mites that the heralds summon;
the second has a fault of its own and no fight. -/
theorem errors_decide_fights_court :
    errors (Bestiary.load heralds).1 court =
      [.duplicate "court", .unknownGremlin "court" "king"] ∧
    (∃ s, Encounter.ofScenario (named "court" ["herald", "mite", "herald"]).scenario
        (Bestiary.load heralds).1 = .ok s ∧
      s.board.gremlins.map (·.template.id) = ["mite", "mite", "herald", "mite", "herald"] ∧
      (s.board.gremlins.filter (·.summoner = none)).map (·.template.id) =
        ["herald", "mite", "herald"]) ∧
    ∃ reason, Encounter.ofScenario (named "court" ["mite", "king"]).scenario
      (Bestiary.load heralds).1 = .error reason := by
  have listed : errors (Bestiary.load heralds).1 court =
      [.duplicate "court", .unknownGremlin "court" "king"] := by
    decide +kernel
  have first : errors (Bestiary.load heralds).1 (court.take 1) = [] := by
    decide +kernel
  have returns : ∀ wave ∈ court, wave.fight (Bestiary.load heralds).1 2000 ≠
      .error .endlessSummons := by
    decide +kernel
  have ran : ((Encounter.ofScenario (named "court" ["herald", "mite", "herald"]).scenario
      (Bestiary.load heralds).1).toOption.map fun s => s.board.gremlins.map (·.template.id)) =
        some ["mite", "mite", "herald", "mite", "herald"] := by
    decide +kernel
  obtain ⟨s, arranged, board⟩ := toOption_map_eq_some.mp ran
  obtain ⟨same, decided, roots, _⟩ := errors_decide_fights (Bestiary.load heralds).1 2000 returns
  refine ⟨listed, ⟨s, arranged, board, ?_⟩, ?_⟩
  · exact roots _ List.mem_cons_self s ((same _).trans arranged)
  · obtain ⟨found, added, failed⟩ := decided 1 _ rfl
    rw [first, List.nil_append] at added
    rw [← same]
    exact failed.mp ⟨.unknownGremlin "court" "king",
      (added.symm.trans listed) ▸ List.mem_cons_of_mem _ List.mem_cons_self, rfl⟩

end Wave

end Gremlin
