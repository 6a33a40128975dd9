import Gremlin.Catalog
import Gremlin.Proofs.Encounter.Burials
import Mathlib.Data.List.Forall2

set_option autoImplicit false

/-!
Caps on summons: no gremlin ever has more live summons than its cap lets it. Broods are counted on
the board each time a summon is due. The count is kept within the caps by what any summon, from
wherever it is done, does to the board, and nothing else adds to a brood.
-/

namespace Gremlin

open Gremlin.Random (Generator)

namespace Kin

variable {kins kins' : List Kin}

theorem fades_refl (kins : List Kin) : List.Forall₂ Fades kins kins :=
  List.forall₂_same.mpr fun kin _ => .refl kin

theorem ids_of_fades (fades : List.Forall₂ Fades kins kins') :
    kins'.map (·.id) = kins.map (·.id) := by
  induction fades with
  | nil => rfl
  | cons one _ ih => rw [List.map_cons, List.map_cons, one.id, ih]

theorem exists_of_fades (fades : List.Forall₂ Fades kins kins') {kin' : Kin}
    (member : kin' ∈ kins') : ∃ kin ∈ kins, kin.Fades kin' := by
  induction fades with
  | nil => cases member
  | @cons first first' rest rest' one _ ih =>
    rcases List.mem_cons.mp member with rfl | later
    · exact ⟨first, List.mem_cons_self, one⟩
    · obtain ⟨kin, present, fades⟩ := ih later
      exact ⟨kin, List.mem_cons_of_mem _ present, fades⟩

theorem countP_le_of_fades (fades : List.Forall₂ Fades kins kins') (parent : InstanceId) :
    kins'.countP (fun kin => kin.alive && kin.summoner = some parent) ≤
      kins.countP fun kin => kin.alive && kin.summoner = some parent := by
  induction fades with
  | nil => exact Nat.le_refl _
  | @cons first first' rest rest' one _ ih =>
    have counts : (first'.alive && decide (first'.summoner = some parent)) = true →
        (first.alive && decide (first.summoner = some parent)) = true := by
      rw [one.summoner, Bool.and_eq_true, Bool.and_eq_true]
      exact fun both => ⟨one.alive both.1, both.2⟩
    rw [List.countP_cons, List.countP_cons]
    split
    · rename_i counted
      rw [if_pos (counts counted)]
      exact Nat.succ_le_succ ih
    · exact Nat.le_trans ih (Nat.le_add_right _ _)

end Kin

namespace Board

/-- Nobody has more live summons than its cap lets it. Whoever was summoned is younger than its
summoner, so that a newcomer has none. -/
structure Bounded (board : Board) : Prop where
  numbered : board.Numbered
  younger : ∀ kin ∈ board.kin, ∀ parent, kin.summoner = some parent → parent.value < kin.id.value
  capped : ∀ kin ∈ board.kin, ∀ cap, kin.template.targeting.summonCap = some cap →
    board.liveSummons kin.id ≤ cap

theorem kin_spawn (board : Board) (template : Template) (now : Ticks) (position : SummonPosition)
    (summoner : Option InstanceId) (kin : Kin) :
    kin ∈ (board.spawn template now position summoner).1.kin ↔
      kin = (Instance.spawn ⟨board.next⟩ template now summoner).kin ∨ kin ∈ board.kin := by
  cases position with
  | top => simp [Board.kin, spawn]
  | bottom => simp [Board.kin, spawn, or_comm]

theorem fades_modify {board : Board} (distinct : board.ids.Nodup) {id : InstanceId}
    {change : Instance → Instance}
    (fades : ∀ gremlin, board.get? id = some gremlin → gremlin.kin.Fades (change gremlin).kin) :
    List.Forall₂ Kin.Fades board.kin (board.modify id change).kin := by
  rw [kin, kin, modify, List.map_map, List.forall₂_map_left_iff, List.forall₂_map_right_iff,
    List.forall₂_same]
  intro gremlin present
  by_cases own : gremlin.id = id
  · rw [Function.comp_apply, if_pos own]
    exact fades gremlin (own ▸ get?_of_mem distinct present)
  · rw [Function.comp_apply, if_neg own]
    exact .refl _

namespace Bounded

variable {board board' : Board}

theorem empty : ({} : Board).Bounded :=
  ⟨.empty, fun _ member => (List.not_mem_nil member).elim,
    fun _ member => (List.not_mem_nil member).elim⟩

theorem fades (bounded : board.Bounded) (fades : List.Forall₂ Kin.Fades board.kin board'.kin)
    (next : board'.next = board.next) : board'.Bounded := by
  refine ⟨bounded.numbered.of_ids_eq ?_ (Nat.le_of_eq next.symm), ?_, ?_⟩
  · rw [ids_eq, ids_eq, Kin.ids_of_fades fades]
  · intro kin' member parent raised
    obtain ⟨kin, present, one⟩ := Kin.exists_of_fades fades member
    rw [one.id]
    exact bounded.younger kin present parent (one.summoner ▸ raised)
  · intro kin' member cap capped
    obtain ⟨kin, present, one⟩ := Kin.exists_of_fades fades member
    rw [liveSummons_eq]
    refine Nat.le_trans (Kin.countP_le_of_fades fades kin'.id) ?_
    rw [← liveSummons_eq, one.id]
    exact bounded.capped kin present cap (one.template ▸ capped)

theorem of_kin_eq (bounded : board.Bounded) (same : board'.kin = board.kin)
    (next : board'.next = board.next) : board'.Bounded :=
  bounded.fades (same ▸ Kin.fades_refl board.kin) next

theorem modify (bounded : board.Bounded) {id : InstanceId} {change : Instance → Instance}
    (fades : ∀ gremlin, board.get? id = some gremlin → gremlin.kin.Fades (change gremlin).kin) :
    (board.modify id change).Bounded :=
  bounded.fades (fades_modify bounded.numbered.distinct fades) rfl

/-- A gremlin is replaced by itself, perhaps without its life. -/
theorem replace (bounded : board.Bounded) {id : InstanceId} {gremlin gremlin' : Instance}
    (found : board.get? id = some gremlin) (fades : gremlin.kin.Fades gremlin'.kin) :
    (board.modify id fun _ => gremlin').Bounded := by
  refine bounded.modify fun other present => ?_
  rw [found] at present
  cases present
  exact fades

theorem remove (bounded : board.Bounded) (id : InstanceId) : (board.remove id).Bounded := by
  have kept : (board.remove id).kin.Sublist board.kin := List.filter_sublist.map _
  refine ⟨bounded.numbered.remove id, ?_, ?_⟩
  · intro kin member
    exact bounded.younger kin (kept.subset member)
  · intro kin member cap capped
    rw [liveSummons_eq]
    refine Nat.le_trans kept.countP_le ?_
    rw [← liveSummons_eq]
    exact bounded.capped kin (kept.subset member) cap capped

theorem liveSummons_next (bounded : board.Bounded) : board.liveSummons ⟨board.next⟩ = 0 := by
  rw [liveSummons_eq, List.countP_eq_zero]
  intro kin member counted
  rw [Bool.and_eq_true, decide_eq_true_eq] at counted
  have below : kin.id.value < board.next :=
    bounded.numbered.below kin.id (ids_eq board ▸ List.mem_map_of_mem member)
  exact Nat.lt_asymm below (bounded.younger kin member _ counted.2)

/-- A gremlin joins whose summoner, if it has one, may summon. -/
theorem spawn (bounded : board.Bounded) (template : Template) (now : Ticks)
    (position : SummonPosition) {summoner : Option InstanceId}
    (allowed : ∀ id, summoner = some id → board.canSummon id = true) :
    (board.spawn template now position summoner).1.Bounded := by
  have fresh : ∀ id : InstanceId, board.canSummon id = true → id.value < board.next := by
    intro id may
    obtain ⟨gremlin, found, _⟩ := canSummon_iff.mp may
    exact bounded.numbered.below id (mem_ids_iff.mpr ⟨gremlin, found⟩)
  refine ⟨bounded.numbered.spawn template now position summoner, ?_, ?_⟩
  · intro kin member parent raised
    rcases (kin_spawn board template now position summoner kin).mp member with rfl | old
    · exact fresh parent (allowed parent raised)
    · exact bounded.younger kin old parent raised
  · intro kin member cap capped
    rw [liveSummons_spawn]
    rcases (kin_spawn board template now position summoner kin).mp member with rfl | old
    · have own : summoner ≠ some ⟨board.next⟩ :=
        fun same => Nat.lt_irrefl _ (fresh _ (allowed _ same))
      change board.liveSummons ⟨board.next⟩ + _ ≤ cap
      rw [bounded.liveSummons_next, if_neg fun both => own both.2]
      exact Nat.zero_le cap
    · split
      · rename_i both
        -- The summoner was below its cap when the summon was allowed.
        obtain ⟨gremlin, found, below⟩ := canSummon_iff.mp (allowed kin.id both.2)
        obtain ⟨own, present, rfl⟩ := List.mem_map.mp old
        have same := (get?_of_mem bounded.numbered.distinct present).symm.trans found
        cases same
        exact below cap capped
      · exact bounded.capped kin old cap capped

end Bounded

end Board

namespace Encounter

/-! ### Effects -/

theorem Deed.bounded {s s' : Encounter} (deed : Deed s s') (bounded : s.board.Bounded) :
    s'.board.Bounded :=
  bounded.of_kin_eq deed.kin deed.undisturbed.next

theorem Arrival.bounded {s s' : Encounter} (arrival : Arrival s s') (bounded : s.board.Bounded) :
    s'.board.Bounded := by
  cases arrival with
  | spawned template known =>
    exact bounded.spawn template s.now .bottom fun id none => by cases none
  | summoned template position summoner known allowed =>
    exact bounded.spawn template s.now position allowed

theorem Effected.bounded {s s' : Encounter} (effected : Effected s s')
    (bounded : s.board.Bounded) : s'.board.Bounded := by
  induction effected with
  | refl => exact bounded
  | tail _ last so_far =>
    rcases last with deed | arrival
    · exact deed.bounded so_far
    · exact arrival.bounded so_far

/-! ### Ticks -/

theorem modify_bounded {s : Encounter} {id : InstanceId} {change : Instance → Instance}
    (same : ∀ gremlin, (change gremlin).kin = gremlin.kin) (bounded : s.board.Bounded) :
    (s.modify id change).board.Bounded :=
  bounded.of_kin_eq (Board.kin_modify fun gremlin _ _ => same gremlin) rfl

theorem holdMove_bounded {s s' : Encounter} {id : InstanceId} (success : s.holdMove id = .ok s')
    (bounded : s.board.Bounded) : s'.board.Bounded := by
  have regenerated : (s.modify id (·.regenerate)).board.Bounded :=
    modify_bounded (fun gremlin => gremlin.regenerate_view Instance.kin fun _ => rfl) bounded
  cases holdMove_holdsMove success with
  | lifeless => exact bounded
  | active => exact regenerated
  | passive gremlin move _ found alive passive done =>
    exact (applyEffects_effected done).bounded (modify_bounded (fun _ => rfl) regenerated)

theorem fireMove_bounded {s s' : Encounter} {id : InstanceId} (success : s.fireMove id = .ok s')
    (bounded : s.board.Bounded) : s'.board.Bounded := by
  have aged : (s.modify id (·.age)).board.Bounded := modify_bounded (fun _ => rfl) bounded
  cases fireMove_firesMove success with
  | lifeless => exact bounded
  | waits => exact aged
  | fires gremlin move _ found alive current due done =>
    exact (applyEffects_effected done).bounded (modify_bounded (fun _ => rfl) aged)

theorem enterMove_bounded {s s' : Encounter} {id : InstanceId} {index : Nat}
    (success : s.enterMove id index = .ok s') (bounded : s.board.Bounded) : s'.board.Bounded := by
  cases enterMove_entersMove success with
  | absent => exact bounded
  | enters gremlin _ found done =>
    exact (enterPassive_effected done).bounded (modify_bounded (fun _ => rfl) bounded)

theorem changeMove_bounded {s s' : Encounter} {id : InstanceId}
    (success : s.changeMove id = .ok s') (bounded : s.board.Bounded) : s'.board.Bounded := by
  have decides : ∀ gremlin, s.board.get? id = some gremlin →
      (s.modify id fun _ => (gremlin.nextMove s.generator).2.1).board.Bounded := by
    intro gremlin found
    obtain ⟨observed, same⟩ := gremlin.nextMove_gremlin s.generator
    rw [same]
    exact bounded.replace found (.refl _)
  cases changeMove_changesMove success with
  | lifeless => exact bounded
  | stays gremlin found => exact decides gremlin found
  | enters gremlin index _ found alive next done =>
    exact enterMove_bounded done (decides gremlin found)

theorem foldlM_bounded {act : Encounter → InstanceId → Except EncounterError Encounter}
    (each : ∀ {s id s'}, act s id = .ok s' → s.board.Bounded → s'.board.Bounded)
    {ids : List InstanceId} {s s' : Encounter} (success : ids.foldlM act s = .ok s')
    (bounded : s.board.Bounded) : s'.board.Bounded :=
  foldlM_preserves (motive := fun s => s.board.Bounded) ids
    (fun _ _ _ _ so_far acted => each acted so_far) bounded success

theorem bury_bounded {s s' : Encounter} {id : InstanceId} (success : s.bury id = .ok s')
    (bounded : s.board.Bounded) : s'.board.Bounded := by
  rcases bury_eq_ok success with ⟨_, rfl⟩ | ⟨gremlin, avenged, _, avenges, rfl⟩
  · exact bounded
  · exact (((applyEffects_effected avenges).bounded bounded).remove id).of_kin_eq
      (Board.kin_map fun _ => rfl) rfl

theorem pruneDead_bounded {s s' : Encounter} (success : s.pruneDead = .ok s')
    (bounded : s.board.Bounded) : s'.board.Bounded := by
  obtain ⟨after, burials, concluded⟩ := pruneDead_eq_ok success
  rw [concluded.board]
  exact foldlM_bounded bury_bounded burials bounded

theorem advance_bounded {s s' : Encounter} (success : s.advance = .ok s')
    (bounded : s.board.Bounded) : s'.board.Bounded := by
  obtain ⟨_, held, fired, changed, holds, fires, changes, prunes⟩ := advance_eq_ok success
  have after_holds : held.board.Bounded := foldlM_bounded holdMove_bounded holds bounded
  have after_fires : fired.board.Bounded := foldlM_bounded fireMove_bounded fires after_holds
  have after_changes : changed.board.Bounded :=
    foldlM_bounded changeMove_bounded changes after_fires
  exact pruneDead_bounded prunes after_changes

/-! ### Everything that can be done with an encounter -/

theorem Ensues.bounded {told s' : Encounter} {killed : Bool} (ensues : Ensues told killed s')
    (bounded : told.board.Bounded) : s'.board.Bounded := by
  cases ensues with
  | burial _ prunes => exact pruneDead_bounded prunes bounded
  | nothing _ same => exact same ▸ bounded

theorem applyHit_bounded {s s' : Encounter} {id : InstanceId} {hit : Hit} {outcome : HitOutcome}
    (success : s.applyHit id hit = .ok (s', outcome)) (bounded : s.board.Bounded) :
    s'.board.Bounded := by
  obtain ⟨gremlin, found, _, ensues⟩ := applyHit_eq_ok success
  exact ensues.bounded (bounded.replace found (gremlin.applyHit_fades hit))

theorem execute_bounded {s s' : Encounter} {id : InstanceId} {landed : Bool}
    (success : s.execute id = .ok (s', landed)) (bounded : s.board.Bounded) : s'.board.Bounded := by
  obtain ⟨gremlin, found, _, ensues⟩ := execute_eq_ok success
  exact ensues.bounded (bounded.replace found gremlin.execute_fades)

theorem heal_bounded {s s' : Encounter} {id : InstanceId} {amount : Nat}
    (success : s.heal id amount = .ok s') (bounded : s.board.Bounded) : s'.board.Bounded := by
  obtain ⟨_, _, rfl⟩ := heal_eq_ok success
  refine bounded.modify fun gremlin _ => ?_
  unfold Instance.heal
  split
  · rename_i alive
    exact ⟨rfl, rfl, rfl, fun _ => alive⟩
  · exact .refl _

/-- By one case per operation. -/
theorem Operation.bounded {s s' : Encounter} {operation : Operation}
    (success : operation.run s = .ok s') (bounded : s.board.Bounded) : s'.board.Bounded := by
  cases operation with
  | spawn templateId =>
    obtain ⟨id, spawned⟩ := map_fst_eq_ok.mp success
    exact (spawn_effected spawned).bounded bounded
  | effect source duration given => exact (applyEffect_effected success).bounded bounded
  | hit id given =>
    obtain ⟨outcome, hits⟩ := map_fst_eq_ok.mp success
    exact applyHit_bounded hits bounded
  | execute id =>
    obtain ⟨landed, executes⟩ := map_fst_eq_ok.mp success
    exact execute_bounded executes bounded
  | heal id amount => exact heal_bounded success bounded
  | observe action =>
    cases success
    exact bounded.of_kin_eq (Board.kin_map fun _ => rfl) rfl
  | terminate =>
    cases success
    rw [s.terminate_concluded.2.1]
    exact bounded
  | advance => exact advance_bounded success bounded
  | gain | spend | notify | reseed | nest =>
    cases success
    exact bounded

theorem Reachable.bounded {bestiary : Bestiary} {s : Encounter} (reachable : Reachable bestiary s) :
    s.board.Bounded := by
  induction reachable with
  | fresh seed => exact .empty
  | arranged success =>
    obtain ⟨start, blank, effected⟩ := ofScenario_effected success
    exact effected.bounded (blank.board ▸ .empty)
  | step _ operation success ih => exact operation.bounded success ih

/-- The encounters that operations, and switching gremlins to whatever move, lead to. -/
abbrev Meddled : Encounter → Encounter → Prop :=
  Relation.ReflTransGen fun s s' =>
    (∃ operation : Operation, operation.run s = .ok s') ∨ ∃ id index, s.enterMove id index = .ok s'

theorem Meddled.bounded {s s' : Encounter} (meddled : Meddled s s') (bounded : s.board.Bounded) :
    s'.board.Bounded := by
  induction meddled with
  | refl => exact bounded
  | tail _ last so_far =>
    rcases last with ⟨operation, success⟩ | ⟨id, index, success⟩
    · exact operation.bounded success so_far
    · exact enterMove_bounded success so_far

/-! ### Summons that are refused -/

/-- A gremlin may not summon: it is not on the board, or has reached its cap. -/
def Barred (s : Encounter) (id : InstanceId) : Prop :=
  s.board.get? id = none ∨
    ∃ gremlin cap, s.board.get? id = some gremlin ∧
      gremlin.template.targeting.summonCap = some cap ∧ cap ≤ s.board.liveSummons id

theorem Barred.canSummon {s : Encounter} {id : InstanceId} (barred : s.Barred id) :
    s.board.canSummon id = false := by
  refine Bool.eq_false_iff.mpr fun may => ?_
  obtain ⟨gremlin, found, below⟩ := Board.canSummon_iff.mp may
  rcases barred with absent | ⟨other, cap, present, capped, reached⟩
  · rw [absent] at found
    cases found
  · rw [present] at found
    cases found
    exact Nat.not_lt.mpr reached (below cap capped)

/-- A refused summon leaves nothing but a line in the journal and what listeners are told. -/
theorem Barred.summon {s : Encounter} {id : InstanceId} (barred : s.Barred id)
    (enter : InstanceId → Encounter → Except EncounterError Encounter) (spec : SummonSpec) :
    s.summon enter (some id) spec = .ok (s.turnAway id spec) := by
  have way := summon_summoning enter (some id) spec s
  have refused := barred.canSummon
  generalize s.summon enter (some id) spec = result at way
  cases way with
  | blocked other given _ =>
    cases given
    rfl
  | missing after allowed _ =>
    rw [allowed id rfl] at refused
    cases refused
  | joins after template position allowed _ =>
    rw [allowed id rfl] at refused
    cases refused

theorem turnAway_leaves (s : Encounter) (id : InstanceId) (spec : SummonSpec) :
    (s.turnAway id spec).board = s.board ∧ (s.turnAway id spec).pool = s.pool ∧
      (s.turnAway id spec).pressure = s.pressure ∧
      (s.turnAway id spec).generator = s.generator ∧
      (s.turnAway id spec).journal = s.journal.push ⟨s.now, .summonBlocked id spec⟩ := by
  unfold turnAway
  split <;> exact ⟨rfl, rfl, rfl, rfl, rfl⟩

/-! ### Slots that deaths free -/

section Slot

variable {s struck avenged s' : Encounter} {id : InstanceId} {gremlin dead : Instance}
  (killing : Killing id gremlin dead s struck avenged s')

include killing

/-- Of whoever is not the victim, the kill changes nothing that bears on broods. -/
theorem Killing.kin_kept {other : InstanceId} (apart : other ≠ id) {bystander : Instance}
    (present : s.board.get? other = some bystander) :
    ∃ later, s'.board.get? other = some later ∧ later.kin = bystander.kin := by
  have before : struck.board.get? other = some bystander := by
    rw [killing.board, Board.get?_modify_other apart fun _ _ => killing.named, present]
  obtain ⟨between, found, same⟩ := (applyEffects_effected killing.avenges).bare_kept killing.orderly
    before
  have kept := Board.kin_get?_congr killing.left other
  rw [Board.get?_remove_other apart, found] at kept
  obtain ⟨later, after, alike⟩ := Option.map_eq_some_iff.mp kept
  exact ⟨later, after, alike.trans (Instance.kin_of_bare same)⟩

/-- The brood of the victim's summoner has lost one and got none: the victim's last summons belong
to the victim's own brood. -/
theorem Killing.frees_slot (bounded : s.board.Bounded) (alive : gremlin.isAlive = true)
    {parent : InstanceId} (raised : gremlin.summoner = some parent) :
    s'.board.liveSummons parent + 1 = s.board.liveSummons parent := by
  have older : parent.value < id.value :=
    Board.id_of_get? killing.found ▸ bounded.younger gremlin.kin
      (List.mem_map_of_mem (Board.mem_of_get? killing.found)) parent raised
  have known : id.value < s.board.next :=
    bounded.numbered.below id (Board.mem_ids_iff.mpr ⟨gremlin, killing.found⟩)
  have lost := Board.liveSummons_remove bounded.numbered.distinct killing.found parent
  rw [if_pos ⟨alive, raised⟩] at lost
  have lifeless := Board.liveSummons_remove killing.orderly.numbered.distinct killing.fallen parent
  rw [killing.lifeless, if_neg fun both => Bool.false_ne_true both.1, killing.board,
    Board.remove_modify fun _ _ => killing.named, ← killing.board] at lifeless
  have others : avenged.board.liveSummons parent = struck.board.liveSummons parent := by
    refine (applyEffects_rears killing.avenges).others parent ?_ ?_
    · rintro ⟨⟩
      exact Nat.lt_irrefl _ older
    · rw [killing.board]
      exact Nat.lt_trans older known
  rw [killing.liveSummons_left, others, lifeless, lost]

end Slot

/-- Whatever is done with an encounter, no brood outgrows its cap; a summon that may not be leaves
no trace but a line in the journal; and a kill frees one slot of the victim's summoner. -/
theorem summon_caps_hold {records : List Record} {s : Encounter}
    (reachable : Reachable (Bestiary.load records).1 s) :
    (∀ s', Meddled s s' → ∀ gremlin ∈ s'.board.gremlins, ∀ cap,
      gremlin.template.targeting.summonCap = some cap →
        s'.board.liveSummons gremlin.id ≤ cap) ∧
      (∀ (t : Encounter) (enter : InstanceId → Encounter → Except EncounterError Encounter)
        (id : InstanceId) (duration : Duration) (spec : SummonSpec), t.Barred id →
        ∃ t', t.applyWith enter (some id) duration (.summon spec) = .ok t' ∧ t'.board = t.board ∧
          t'.pool = t.pool ∧ t'.pressure = t.pressure ∧ t'.generator = t.generator ∧
          t'.journal = t.journal.push ⟨t.now, .summonBlocked id spec⟩) ∧
      ∀ (operation : Operation) (s' : Encounter), operation.run s = .ok s' →
        ∀ id gremlin parent, operation.victim s = some id → s.board.get? id = some gremlin →
          gremlin.summoner = some parent →
          s'.board.liveSummons parent + 1 = s.board.liveSummons parent ∧
            ∀ summoner, s.board.get? parent = some summoner → s'.board.canSummon parent = true := by
  have bounded := reachable.bounded
  refine ⟨?_, ?_, ?_⟩
  · intro s' meddled gremlin present cap capped
    exact (meddled.bounded bounded).capped gremlin.kin (List.mem_map_of_mem present) cap capped
  · intro t enter id duration spec barred
    exact ⟨_, barred.summon enter spec, t.turnAway_leaves id spec⟩
  · intro operation s' success id gremlin parent kills found raised
    have standing := reachable.standing fun _ member => Bestiary.sound_of_mem_load member
    obtain ⟨dead, struck, avenged, killing⟩ :=
      Operation.killing standing.orderly standing.living kills found success
    have alive : gremlin.isAlive = true :=
      Instance.isAlive_iff.mpr (standing.living id _ (track?_of_get? found)).positive
    have freed := killing.frees_slot bounded alive raised
    refine ⟨freed, fun summoner present => ?_⟩
    have apart : parent ≠ id := by
      rintro rfl
      have older := bounded.younger gremlin.kin
        (List.mem_map_of_mem (Board.mem_of_get? found)) _ raised
      exact Nat.lt_irrefl _ (Board.id_of_get? found ▸ older)
    obtain ⟨later, after, alike⟩ := killing.kin_kept apart present
    have template : later.template = summoner.template := congrArg Kin.template alike
    refine Board.canSummon_iff.mpr ⟨later, after, fun cap capped => ?_⟩
    rw [template] at capped
    have below : s.board.liveSummons summoner.id ≤ cap :=
      bounded.capped summoner.kin (List.mem_map_of_mem (Board.mem_of_get? present)) cap capped
    rw [Board.id_of_get? present, ← freed] at below
    exact below

/-- A gnat breeds twice, which is its cap. One of its young is killed, and it may breed again. -/
theorem summon_caps_hold_breeding : ∃ s s',
    Operation.runAll (new (Bestiary.load Catalog.gnats).1 7)
      (.spawn "breeding_gnat" :: List.replicate 24 .advance) = .ok s ∧
    Operation.run s (.hit ⟨1⟩ ⟨1, false⟩) = .ok s' ∧ s.board.liveSummons ⟨0⟩ = 2 ∧
    s'.board.liveSummons ⟨0⟩ = 1 ∧ s'.board.canSummon ⟨0⟩ = true ∧
    ∀ t, Meddled s t → ∀ gremlin ∈ t.board.gremlins, ∀ cap,
      gremlin.template.targeting.summonCap = some cap → t.board.liveSummons gremlin.id ≤ cap := by
  have ran : ((Operation.runAll (new (Bestiary.load Catalog.gnats).1 7)
      (.spawn "breeding_gnat" :: List.replicate 24 .advance)).toOption.map fun s =>
        (Operation.victim s (.hit ⟨1⟩ ⟨1, false⟩), (s.board.get? ⟨1⟩).map (·.summoner),
          (s.board.get? ⟨0⟩).isSome,
          (Operation.run s (.hit ⟨1⟩ ⟨1, false⟩)).toOption.map (·.board.liveSummons ⟨0⟩))) =
      some (some ⟨1⟩, some (some ⟨0⟩), true, some 1) := by
    decide +kernel
  obtain ⟨s, success, shown⟩ := toOption_map_eq_some.mp ran
  obtain ⟨kills, shown⟩ := Prod.mk.inj shown
  obtain ⟨young, shown⟩ := Prod.mk.inj shown
  obtain ⟨breeder, struck⟩ := Prod.mk.inj shown
  obtain ⟨gremlin, found, raised⟩ := Option.map_eq_some_iff.mp young
  obtain ⟨summoner, present⟩ := Option.isSome_iff_exists.mp breeder
  obtain ⟨s', killed, one⟩ := toOption_map_eq_some.mp struck
  obtain ⟨capped, _, frees⟩ := summon_caps_hold ((Reachable.fresh 7).runAll success)
  obtain ⟨freed, may⟩ := frees _ s' killed ⟨1⟩ gremlin ⟨0⟩ kills found raised
  rw [one] at freed
  exact ⟨s, s', success, killed, freed.symm, one, may summoner present, capped⟩

end Encounter

end Gremlin
