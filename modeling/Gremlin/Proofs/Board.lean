import Gremlin.Board

set_option autoImplicit false

/-!
The board as a table from identities to gremlins: what each change of the board does to the
gremlin of every identity. A board is numbered if its identities differ and lie below the next one
to be handed out; every change keeps it so.
-/

namespace Gremlin

/-- Of a list without repetitions, what is in a sublist is the sublist. -/
theorem filter_mem_of_sublist {α : Type} [DecidableEq α] {items chosen : List α}
    (distinct : items.Nodup) (listed : chosen.Sublist items) :
    items.filter (· ∈ chosen) = chosen := by
  induction listed with
  | slnil => rfl
  | @cons chosen rest item listed ih =>
    obtain ⟨fresh, distinct⟩ := List.nodup_cons.mp distinct
    have absent : item ∉ chosen := fun member => fresh (listed.subset member)
    rw [List.filter_cons_of_neg (by simpa using absent), ih distinct]
  | @cons_cons chosen rest item listed ih =>
    obtain ⟨fresh, distinct⟩ := List.nodup_cons.mp distinct
    have others : rest.filter (· ∈ item :: chosen) = rest.filter (· ∈ chosen) := by
      apply List.filter_congr
      intro other member
      have apart : other ≠ item := by
        rintro rfl
        exact fresh member
      simp [apart]
    rw [List.filter_cons_of_pos (by simp), others, ih distinct]

namespace Board

theorem id_of_get? {board : Board} {id : InstanceId} {gremlin : Instance}
    (found : board.get? id = some gremlin) : gremlin.id = id := by
  simpa using List.find?_some found

theorem mem_of_get? {board : Board} {id : InstanceId} {gremlin : Instance}
    (found : board.get? id = some gremlin) : gremlin ∈ board.gremlins :=
  List.mem_of_find?_eq_some found

theorem mem_ids_iff {board : Board} {id : InstanceId} :
    id ∈ board.ids ↔ ∃ gremlin, board.get? id = some gremlin := by
  rw [← Option.isSome_iff_exists, get?, List.find?_isSome, ids, List.mem_map]
  simp only [decide_eq_true_eq]

theorem get?_eq_none_iff {board : Board} {id : InstanceId} :
    board.get? id = none ↔ id ∉ board.ids := by
  rw [mem_ids_iff, ← Option.isSome_iff_exists, Option.not_isSome_iff_eq_none]

private theorem find?_of_mem {gremlins : List Instance} {gremlin : Instance}
    (distinct : (gremlins.map (·.id)).Nodup) (present : gremlin ∈ gremlins) :
    gremlins.find? (·.id = gremlin.id) = some gremlin := by
  induction gremlins with
  | nil => cases present
  | cons first rest ih =>
    rw [List.map_cons, List.nodup_cons] at distinct
    rcases List.mem_cons.mp present with rfl | later
    · simp
    · have other : first.id ≠ gremlin.id := by
        intro same
        exact distinct.1 (same ▸ List.mem_map_of_mem later)
      rw [List.find?_cons_of_neg (by simpa using other)]
      exact ih distinct.2 later

theorem get?_of_mem {board : Board} {gremlin : Instance} (distinct : board.ids.Nodup)
    (present : gremlin ∈ board.gremlins) : board.get? gremlin.id = some gremlin :=
  find?_of_mem distinct present

/-! ### What each change does to every identity -/

section Changes

variable {board : Board} {id : InstanceId} {change : Instance → Instance}

theorem ids_modify (keeps : ∀ gremlin, gremlin.id = id → (change gremlin).id = id) :
    (board.modify id change).ids = board.ids := by
  simp only [modify, ids, List.map_map]
  apply List.map_congr_left
  intro gremlin _
  by_cases same : gremlin.id = id
  · simp [same, keeps gremlin same]
  · simp [same]

theorem get?_modify (keeps : ∀ gremlin, gremlin.id = id → (change gremlin).id = id)
    (other : InstanceId) : (board.modify id change).get? other =
      (board.get? other).map fun g => if g.id = id then change g else g := by
  have same : ((fun g : Instance => decide (g.id = other)) ∘
      fun g => if g.id = id then change g else g) = fun g => decide (g.id = other) := by
    funext gremlin
    by_cases named : gremlin.id = id <;> simp [named, keeps]
  simp only [modify, get?, List.find?_map]
  rw [same]

theorem get?_modify_same (keeps : ∀ gremlin, gremlin.id = id → (change gremlin).id = id) :
    (board.modify id change).get? id = (board.get? id).map change := by
  rw [get?_modify keeps]
  exact Option.map_congr fun gremlin found => if_pos (id_of_get? found)

theorem get?_modify_other {other : InstanceId} (apart : other ≠ id)
    (keeps : ∀ gremlin, gremlin.id = id → (change gremlin).id = id) :
    (board.modify id change).get? other = board.get? other := by
  rw [get?_modify keeps]
  refine (Option.map_congr fun gremlin found => ?_).trans Option.map_id'
  have named : gremlin.id = other := id_of_get? found
  exact if_neg fun own => apart (named.symm.trans own)

theorem ids_map (keeps : ∀ gremlin, (change gremlin).id = gremlin.id) :
    (board.map change).ids = board.ids := by
  simp only [map, ids, List.map_map]
  exact List.map_congr_left fun gremlin _ => keeps gremlin

theorem get?_map (keeps : ∀ gremlin, (change gremlin).id = gremlin.id) :
    (board.map change).get? id = (board.get? id).map change := by
  simp only [map, get?, List.find?_map]
  congr 2
  funext gremlin
  simp only [Function.comp_apply, keeps]

theorem get?_observe (board : Board) (action : PlayerAction) (id : InstanceId) :
    (board.map (·.observe action)).get? id = (board.get? id).map (·.observe action) :=
  get?_map fun _ => rfl

theorem get?_remove_same : (board.remove id).get? id = none := by
  simp [remove, get?]

theorem get?_remove_other {other : InstanceId} (apart : other ≠ id) :
    (board.remove id).get? other = board.get? other := by
  simp only [remove, get?, List.find?_filter]
  congr 1
  funext gremlin
  by_cases named : gremlin.id = other <;> simp [named, apart]

theorem ids_remove : (board.remove id).ids = board.ids.filter (· ≠ id) := by
  simp only [remove, ids, List.filter_map, Function.comp_def]

theorem mem_dead_iff {id : InstanceId} (distinct : board.ids.Nodup) :
    id ∈ board.dead ↔ ∃ gremlin, board.get? id = some gremlin ∧ gremlin.isAlive = false := by
  simp only [dead, List.mem_map, List.mem_filter, Bool.not_eq_true']
  constructor
  · rintro ⟨gremlin, ⟨present, lifeless⟩, rfl⟩
    exact ⟨gremlin, get?_of_mem distinct present, lifeless⟩
  · rintro ⟨gremlin, found, lifeless⟩
    exact ⟨gremlin, ⟨mem_of_get? found, lifeless⟩, id_of_get? found⟩

end Changes

theorem targetable_sublist (board : Board) : board.targetable.Sublist board.ids :=
  List.filter_sublist

theorem dead_sublist (board : Board) : board.dead.Sublist board.ids := List.filter_sublist.map _

theorem ids_spawn_top (board : Board) (template : Template) (now : Ticks)
    (summoner : Option InstanceId) :
    (board.spawn template now .top summoner).1.ids = ⟨board.next⟩ :: board.ids := rfl

theorem ids_spawn_bottom (board : Board) (template : Template) (now : Ticks)
    (summoner : Option InstanceId) :
    (board.spawn template now .bottom summoner).1.ids = board.ids ++ [⟨board.next⟩] :=
  List.map_append

theorem ids_sublist_spawn (board : Board) (template : Template) (now : Ticks)
    (position : SummonPosition) (summoner : Option InstanceId) :
    board.ids.Sublist (board.spawn template now position summoner).1.ids := by
  cases position with
  | top => exact List.sublist_cons_self _ _
  | bottom =>
    rw [ids_spawn_bottom]
    exact List.sublist_append_left _ _

theorem mem_ids_spawn {board : Board} {template : Template} {now : Ticks}
    {position : SummonPosition} {summoner : Option InstanceId} {id : InstanceId} :
    id ∈ (board.spawn template now position summoner).1.ids ↔
      id ∈ board.ids ∨ id = ⟨board.next⟩ := by
  cases position <;> simp [spawn, ids, Instance.spawn, or_comm]

/-! ### Numbered boards -/

/-- The identities differ and have all been handed out. -/
structure Numbered (board : Board) : Prop where
  distinct : board.ids.Nodup
  below : ∀ id ∈ board.ids, id.value < board.next

namespace Numbered

variable {board : Board}

theorem empty : ({} : Board).Numbered := ⟨List.nodup_nil, fun _ member => by cases member⟩

theorem of_ids_eq {other : Board} (numbered : board.Numbered) (ids : other.ids = board.ids)
    (next : board.next ≤ other.next) : other.Numbered := by
  refine ⟨ids ▸ numbered.distinct, fun id member => ?_⟩
  rw [ids] at member
  exact Nat.lt_of_lt_of_le (numbered.below id member) next

theorem get?_of_le (numbered : board.Numbered) {id : InstanceId} (fresh : board.next ≤ id.value) :
    board.get? id = none := by
  rw [get?_eq_none_iff]
  intro member
  have := numbered.below id member
  omega

theorem remove (numbered : board.Numbered) (id : InstanceId) : (board.remove id).Numbered := by
  refine ⟨ids_remove ▸ numbered.distinct.filter _, fun other member => ?_⟩
  rw [ids_remove] at member
  exact numbered.below other (List.mem_filter.mp member).1

section Spawn

variable (template : Template) (now : Ticks) (position : SummonPosition)
  (summoner : Option InstanceId)

theorem spawn (numbered : board.Numbered) :
    (board.spawn template now position summoner).1.Numbered := by
  have fresh : (⟨board.next⟩ : InstanceId) ∉ board.ids := by
    intro member
    exact Nat.lt_irrefl _ (numbered.below _ member)
  have grown : ∀ id ∈ board.ids, id.value < board.next + 1 := by
    intro id member
    exact Nat.lt_succ_of_lt (numbered.below id member)
  cases position with
  | top =>
    refine ⟨List.nodup_cons.mpr ⟨fresh, numbered.distinct⟩, fun id member => ?_⟩
    rcases List.mem_cons.mp member with rfl | old
    · exact Nat.lt_succ_self _
    · exact grown id old
  | bottom =>
    refine ⟨?_, fun id member => ?_⟩
    · rw [ids_spawn_bottom]
      refine List.nodup_append.mpr ⟨numbered.distinct, by simp, ?_⟩
      intro id old other member same
      rw [List.mem_singleton] at member
      exact fresh (member ▸ same ▸ old)
    · rw [ids_spawn_bottom, List.mem_append, List.mem_singleton] at member
      rcases member with old | rfl
      · exact grown id old
      · exact Nat.lt_succ_self _

theorem get?_spawn_same (numbered : board.Numbered) :
    (board.spawn template now position summoner).1.get? ⟨board.next⟩ =
      some (Instance.spawn ⟨board.next⟩ template now summoner) := by
  have absent : board.get? ⟨board.next⟩ = none := numbered.get?_of_le (Nat.le_refl _)
  cases position with
  | top => simp [Board.spawn, get?, Instance.spawn]
  | bottom =>
    simp only [get?] at absent
    simp [Board.spawn, get?, Instance.spawn, absent]

theorem get?_spawn_other {id : InstanceId} (apart : id ≠ ⟨board.next⟩) :
    (board.spawn template now position summoner).1.get? id = board.get? id := by
  cases position <;> simp [Board.spawn, get?, Instance.spawn, Ne.symm apart]

end Spawn

end Numbered

end Board

end Gremlin
