import Gremlin.Proofs.Board

set_option autoImplicit false

/-!
The order of a board. Gremlins join at its ends under ever greater numbers and leave from anywhere,
so one order of all who ever joined holds at every moment, and no two gremlins ever change places.
-/

namespace Gremlin.Board

/-! ### Changes of a board -/

/-- A change of a board. -/
inductive Change where
  | spawn (template : Template) (now : Ticks) (position : SummonPosition)
    (summoner : Option InstanceId)
  | remove (id : InstanceId)
  /-- Something happens to gremlins where they stand. -/
  | alter (change : Instance → Instance) (keeps : ∀ gremlin, (change gremlin).id = gremlin.id)

/-- Whether somebody leaves by a change. -/
def Change.isRemoval : Change → Bool
  | remove _ => true
  | spawn .. | alter .. => false

/-- Makes a change, and tells who joined by it. -/
def change (board : Board) : Change → Board × List InstanceId
  | .spawn template now position summoner =>
    let (grown, id) := board.spawn template now position summoner
    (grown, [id])
  | .remove id => (board.remove id, [])
  | .alter change _ => (board.map change, [])

/-- Makes changes in order, and tells who joined, one after the other. -/
def changeAll (board : Board) : List Change → Board × List InstanceId
  | [] => (board, [])
  | change :: rest =>
    let (after, joined) := board.change change
    let (last, later) := after.changeAll rest
    (last, joined ++ later)

/-- The board that changes make of an empty one. -/
def after (changes : List Change) : Board := (({} : Board).changeAll changes).1

/-- Everybody who joined an empty board by changes, one after the other. -/
def joined (changes : List Change) : List InstanceId := (({} : Board).changeAll changes).2

theorem changeAll_append (board : Board) (first second : List Change) :
    (board.changeAll (first ++ second)).1 = ((board.changeAll first).1.changeAll second).1 := by
  induction first generalizing board with
  | nil => rfl
  | cons change rest ih => exact ih (board.change change).1

/-! ### Numbers -/

namespace Numbered

variable {board : Board}

theorem change (numbered : board.Numbered) (change : Change) : (board.change change).1.Numbered := by
  cases change with
  | spawn template now position summoner => exact numbered.spawn template now position summoner
  | remove id => exact numbered.remove id
  | alter change keeps => exact numbered.of_ids_eq (ids_map keeps) (Nat.le_refl _)

theorem changeAll (numbered : board.Numbered) (changes : List Change) :
    (board.changeAll changes).1.Numbered := by
  induction changes generalizing board with
  | nil => exact numbered
  | cons change rest ih => exact ih (numbered.change change)

end Numbered

theorem numbered_after (changes : List Change) : (after changes).Numbered :=
  Numbered.empty.changeAll changes

theorem next_le_change (board : Board) (change : Change) :
    board.next ≤ (board.change change).1.next := by
  cases change with
  | spawn => exact Nat.le_succ _
  | remove | alter => exact Nat.le_refl _

theorem next_le_changeAll (board : Board) (changes : List Change) :
    board.next ≤ (board.changeAll changes).1.next := by
  induction changes generalizing board with
  | nil => exact Nat.le_refl _
  | cons change rest ih => exact Nat.le_trans (board.next_le_change change) (ih _)

/-- Whoever joined has a smaller number than the next to join. -/
theorem changeAll_lt_next (board : Board) (changes : List Change) :
    ∀ id ∈ (board.changeAll changes).2, id.value < (board.changeAll changes).1.next := by
  induction changes generalizing board with
  | nil =>
    intro id member
    cases member
  | cons change rest ih =>
    intro id member
    rcases List.mem_append.mp member with now | later
    · have below : id.value < (board.change change).1.next := by
        cases change with
        | spawn template now position summoner =>
          obtain rfl := List.mem_singleton.mp now
          exact Nat.lt_succ_self _
        | remove | alter => cases now
      exact Nat.lt_of_lt_of_le below (next_le_changeAll _ rest)
    · exact ih _ id later

/-! ### Joining and leaving -/

/-- The gremlin at an end of the board. -/
def outermost? (board : Board) : SummonPosition → Option Instance
  | .top => board.gremlins.head?
  | .bottom => board.gremlins.getLast?

theorem outermost?_spawn (board : Board) (template : Template) (now : Ticks)
    (position : SummonPosition) (summoner : Option InstanceId) :
    (board.spawn template now position summoner).1.outermost? position =
      some (Instance.spawn ⟨board.next⟩ template now summoner) := by
  cases position with
  | top => rfl
  | bottom => exact List.getLast?_concat

private theorem filter_ne_eq_eraseP {gremlins : List Instance}
    (distinct : (gremlins.map (·.id)).Nodup) (id : InstanceId) :
    gremlins.filter (·.id ≠ id) = gremlins.eraseP (·.id = id) := by
  induction gremlins with
  | nil => rfl
  | cons first rest ih =>
    obtain ⟨fresh, others⟩ := List.nodup_cons.mp distinct
    by_cases own : first.id = id
    · rw [List.filter_cons_of_neg (by simpa using own), List.eraseP_cons_of_pos (by simpa using own)]
      refine List.filter_eq_self.mpr fun gremlin member => decide_eq_true fun same => ?_
      have again : gremlin.id ∈ rest.map (·.id) := List.mem_map_of_mem member
      rw [same, ← own] at again
      exact fresh again
    · rw [List.filter_cons_of_pos (by simpa using own),
        List.eraseP_cons_of_neg (by simpa using own), ih others]

namespace Numbered

variable {board : Board}

/-- Without the newcomer everybody stands as before. -/
theorem spawn_gremlins (numbered : board.Numbered) (template : Template) (now : Ticks)
    (position : SummonPosition) (summoner : Option InstanceId) :
    (board.spawn template now position summoner).1.gremlins.filter (·.id ≠ ⟨board.next⟩) =
      board.gremlins := by
  have old : board.gremlins.filter (·.id ≠ ⟨board.next⟩) = board.gremlins := by
    refine List.filter_eq_self.mpr fun gremlin member => decide_eq_true fun same => ?_
    have below := numbered.below gremlin.id (List.mem_map_of_mem member)
    rw [same] at below
    exact Nat.lt_irrefl _ below
  cases position with
  | top =>
    change (Instance.spawn ⟨board.next⟩ template now summoner :: board.gremlins).filter _ = _
    rw [List.filter_cons_of_neg (by simp [Instance.spawn]), old]
  | bottom =>
    change (board.gremlins ++ [Instance.spawn ⟨board.next⟩ template now summoner]).filter _ = _
    rw [List.filter_append, old, List.filter_cons_of_neg (by simp [Instance.spawn]),
      List.filter_nil, List.append_nil]

/-- Nobody leaves but the one who is called. -/
theorem remove_gremlins (numbered : board.Numbered) (id : InstanceId) :
    (board.remove id).gremlins = board.gremlins.eraseP (·.id = id) :=
  filter_ne_eq_eraseP numbered.distinct id

theorem get?_eq_some_iff (numbered : board.Numbered) {id : InstanceId} {gremlin : Instance} :
    board.get? id = some gremlin ↔ gremlin ∈ board.gremlins ∧ gremlin.id = id := by
  constructor
  · intro found
    exact ⟨mem_of_get? found, id_of_get? found⟩
  · rintro ⟨member, rfl⟩
    exact get?_of_mem numbered.distinct member

end Numbered

/-! ### One order for all -/

/-- Everybody who ever joined, from top to bottom, as if nobody had left. -/
def lineup (changes : List Change) : List InstanceId :=
  (after (changes.filter (!·.isRemoval))).ids

/-- A board as it stands beside the board as it would be if nobody had left. -/
structure Within (board whole : Board) : Prop where
  next : board.next = whole.next
  ids : board.ids.Sublist whole.ids

namespace Within

variable {board whole : Board}

theorem refl (board : Board) : board.Within board := ⟨rfl, List.Sublist.refl _⟩

theorem remove (within : board.Within whole) (id : InstanceId) : (board.remove id).Within whole :=
  ⟨within.next, (ids_remove ▸ List.filter_sublist).trans within.ids⟩

/-- Whoever joins joins both boards at the same end. -/
theorem change (within : board.Within whole) {change : Change} (stay : change.isRemoval = false) :
    (board.change change).1.Within (whole.change change).1 := by
  cases change with
  | spawn template now position summoner =>
    refine ⟨congrArg (· + 1) within.next, ?_⟩
    cases position with
    | top =>
      change (board.spawn template now .top summoner).1.ids.Sublist
        (whole.spawn template now .top summoner).1.ids
      rw [ids_spawn_top, ids_spawn_top, within.next]
      exact within.ids.cons_cons _
    | bottom =>
      change (board.spawn template now .bottom summoner).1.ids.Sublist
        (whole.spawn template now .bottom summoner).1.ids
      rw [ids_spawn_bottom, ids_spawn_bottom, within.next]
      exact within.ids.append_right _
  | remove id => cases stay
  | alter change keeps =>
    refine ⟨within.next, ?_⟩
    change (board.map change).ids.Sublist (whole.map change).ids
    rw [ids_map keeps, ids_map keeps]
    exact within.ids

/-- By induction on the changes; a removal only takes from the board as it stands. -/
theorem changeAll (within : board.Within whole) (changes : List Change) :
    (board.changeAll changes).1.Within
      (whole.changeAll (changes.filter (!·.isRemoval))).1 := by
  induction changes generalizing board whole with
  | nil => exact within
  | cons first rest ih =>
    cases leaves : first.isRemoval with
    | false =>
      rw [List.filter_cons_of_pos (by simp [leaves])]
      exact ih (within.change leaves)
    | true =>
      rw [List.filter_cons_of_neg (by simp [leaves])]
      cases first with
      | spawn | alter => cases leaves
      | remove id => exact ih (within.remove id)

end Within

theorem ids_change_sublist (board : Board) {change : Change} (stay : change.isRemoval = false) :
    board.ids.Sublist (board.change change).1.ids := by
  cases change with
  | spawn template now position summoner =>
    exact board.ids_sublist_spawn template now position summoner
  | remove id => cases stay
  | alter change keeps =>
    have same : (board.map change).ids = board.ids := ids_map keeps
    exact same ▸ List.Sublist.refl _

theorem ids_changeAll_sublist (board : Board) {changes : List Change}
    (stay : ∀ change ∈ changes, change.isRemoval = false) :
    board.ids.Sublist (board.changeAll changes).1.ids := by
  induction changes generalizing board with
  | nil => exact List.Sublist.refl _
  | cons change rest ih =>
    exact (board.ids_change_sublist (stay change List.mem_cons_self)).trans
      (ih _ fun other member => stay other (List.mem_cons_of_mem _ member))

theorem lineup_nodup (changes : List Change) : (lineup changes).Nodup :=
  (numbered_after _).distinct

theorem lineup_sublist {moment changes : List Change} (earlier : moment <+: changes) :
    (lineup moment).Sublist (lineup changes) := by
  obtain ⟨later, rfl⟩ := earlier
  unfold lineup after
  rw [List.filter_append, changeAll_append]
  refine ids_changeAll_sublist _ fun change member => ?_
  simpa using (List.mem_filter.mp member).2

theorem ids_sublist_lineup {moment changes : List Change} (earlier : moment <+: changes) :
    (after moment).ids.Sublist (lineup changes) :=
  ((Within.refl {}).changeAll moment).ids.trans (lineup_sublist earlier)

/-! ### Two gremlins -/

/-- One gremlin stands somewhere above another. -/
def Above (board : Board) (upper lower : InstanceId) : Prop := [upper, lower].Sublist board.ids

/-- Two who are present stand as they do in the order of all. -/
theorem above_iff {board : Board} {order : List InstanceId} (distinct : order.Nodup)
    (listed : board.ids.Sublist order) {upper lower : InstanceId} (upperHere : upper ∈ board.ids)
    (lowerHere : lower ∈ board.ids) : board.Above upper lower ↔ [upper, lower].Sublist order := by
  constructor
  · intro above
    exact above.trans listed
  · intro above
    have picked := above.filter (· ∈ board.ids)
    rw [filter_mem_of_sublist distinct listed] at picked
    have both : [upper, lower].filter (· ∈ board.ids) = [upper, lower] := by
      simp [upperHere, lowerHere]
    rw [both] at picked
    exact picked

/-! ### Every board that changes lead to -/

/-- Whatever is done to a board: whoever joins gets a greater number than all who joined before and
stands at an end, the others as they stood; a removal leaves the others as they stand; a number finds
the gremlin that carries it and no other; two who are there at two moments stand in the same order at
both; and one order of everybody holds at every moment, also among the targetable and the dead. -/
theorem board_order_lasts (changes : List Change) :
    let board := after changes
    (∀ template now position summoner,
      let grown := board.spawn template now position summoner
      (∀ id ∈ joined changes, id.value < grown.2.value) ∧
        grown.1.outermost? position = some (Instance.spawn grown.2 template now summoner) ∧
        grown.1.gremlins.filter (·.id ≠ grown.2) = board.gremlins) ∧
      (∀ id, (board.remove id).gremlins = board.gremlins.eraseP (·.id = id)) ∧
      (∀ id gremlin, board.get? id = some gremlin ↔ gremlin ∈ board.gremlins ∧ gremlin.id = id) ∧
      (∀ earlier later, earlier <+: changes → later <+: changes → ∀ upper lower,
        upper ∈ (after earlier).ids → lower ∈ (after earlier).ids →
        upper ∈ (after later).ids → lower ∈ (after later).ids →
        ((after earlier).Above upper lower ↔ (after later).Above upper lower)) ∧
      ∃ order : List InstanceId, order.Nodup ∧ ∀ moment, moment <+: changes →
        (after moment).ids.Sublist order ∧
          (after moment).targetable.Sublist (after moment).ids ∧
          (after moment).dead.Sublist (after moment).ids := by
  intro board
  have numbered : board.Numbered := numbered_after changes
  refine ⟨fun template now position summoner => ⟨changeAll_lt_next {} changes,
      board.outermost?_spawn template now position summoner,
      numbered.spawn_gremlins template now position summoner⟩,
    numbered.remove_gremlins, fun id gremlin => numbered.get?_eq_some_iff, ?_,
    lineup changes, lineup_nodup changes, fun moment earlier =>
      ⟨ids_sublist_lineup earlier, targetable_sublist _, dead_sublist _⟩⟩
  -- both moments are read in the same order of everybody
  intro earlier later before now upper lower upperThen lowerThen upperNow lowerNow
  have distinct := lineup_nodup changes
  rw [above_iff distinct (ids_sublist_lineup before) upperThen lowerThen,
    above_iff distinct (ids_sublist_lineup now) upperNow lowerNow]

/-- The kind of a gremlin with nothing but one health. -/
def mite : Template where
  id := "mite"
  displayName := "Mite"
  description := ""
  archetype := ""
  size := .small
  stats := {
    maxHealth := 1, armor := 0, shields := 0, shieldRegen := 0, shieldRegenMax := 0
    barrierCount := 0, damageCap := none, reflect := .zero, executeThreshold := none }
  targeting := { protection := .targetable, summonPosition := .bottom, summonCap := none }
  moves := []
  pattern := .single
  thresholds := []
  weights := []
  adaptive := none
  onDeath := []

/-- A summon stays above its summoner, though one between them leaves and another joins. -/
theorem board_order_lasts_summon :
    let earlier : List Change :=
      [.spawn mite ⟨0⟩ .bottom none, .spawn mite ⟨0⟩ .bottom none, .spawn mite ⟨3⟩ .top (some ⟨1⟩)]
    let changes := earlier ++ [.remove ⟨0⟩, .spawn mite ⟨4⟩ .bottom none]
    (after earlier).ids = [⟨2⟩, ⟨0⟩, ⟨1⟩] ∧ (after changes).ids = [⟨2⟩, ⟨1⟩, ⟨3⟩] ∧
      joined changes = [⟨0⟩, ⟨1⟩, ⟨2⟩, ⟨3⟩] ∧
      (after earlier).Above ⟨2⟩ ⟨1⟩ ∧ (after changes).Above ⟨2⟩ ⟨1⟩ := by
  intro earlier changes
  have idsThen : (after earlier).ids = [⟨2⟩, ⟨0⟩, ⟨1⟩] := rfl
  have idsNow : (after changes).ids = [⟨2⟩, ⟨1⟩, ⟨3⟩] := rfl
  have above : (after earlier).Above ⟨2⟩ ⟨1⟩ := by
    rw [Above, idsThen]
    decide
  obtain ⟨_, _, _, steady, _⟩ := board_order_lasts changes
  have still := steady earlier changes (List.prefix_append ..) List.prefix_rfl ⟨2⟩ ⟨1⟩
    (by rw [idsThen]; decide) (by rw [idsThen]; decide) (by rw [idsNow]; decide)
    (by rw [idsNow]; decide)
  exact ⟨idsThen, idsNow, rfl, above, still.mp above⟩

end Gremlin.Board
