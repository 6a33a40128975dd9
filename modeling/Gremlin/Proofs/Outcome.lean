import Mathlib.Data.List.Forall2

set_option autoImplicit false

/-!
Chains of steps that can fail: what a success says about each step.
-/

namespace Gremlin

section Outcome

variable {α β ε : Type}

theorem bind_eq_ok {first : Except ε α} {next : α → Except ε β} {result : β} :
    first >>= next = .ok result ↔ ∃ value, first = .ok value ∧ next value = .ok result := by
  cases first with
  | error reason =>
    constructor
    · intro failed
      cases failed
    · rintro ⟨_, failed, _⟩
      cases failed
  | ok value =>
    constructor
    · intro success
      exact ⟨value, rfl, success⟩
    · rintro ⟨_, same, success⟩
      cases same
      exact success

theorem bind_eq_error {first : Except ε α} {next : α → Except ε β} {reason : ε} :
    first >>= next = .error reason ↔
      first = .error reason ∨ ∃ value, first = .ok value ∧ next value = .error reason := by
  cases first with
  | error early =>
    constructor
    · intro failed
      cases failed
      exact .inl rfl
    · rintro (same | ⟨_, failed, _⟩)
      · cases same
        rfl
      · cases failed
  | ok value =>
    constructor
    · intro failed
      exact .inr ⟨value, rfl, failed⟩
    · rintro (failed | ⟨_, same, failed⟩)
      · cases failed
      · cases same
        exact failed

/-- A check that refuses is passed only by what it does not hold of. -/
theorem refuse_eq_ok {refused : Prop} [Decidable refused] {reason : ε} {next : α → Except ε β}
    {rest : Except ε β} {result : β} :
    (if refused then throw reason >>= next else rest) = .ok result ↔
      ¬ refused ∧ rest = .ok result := by
  by_cases given : refused
  · simp only [given, ↓reduceIte, not_true_eq_false, false_and, iff_false]
    intro failed
    cases failed
  · simp only [given, ↓reduceIte, not_false_eq_true, true_and]

theorem mapError_eq_ok {ε' : Type} {first : Except ε α} {explain : ε → ε'} {value : α} :
    first.mapError explain = .ok value ↔ first = .ok value := by
  cases first with
  | error reason => exact iff_of_false (fun failed => by cases failed) fun failed => by cases failed
  | ok result =>
    exact ⟨fun same => congrArg Except.ok (Except.ok.inj same),
      fun same => congrArg Except.ok (Except.ok.inj same)⟩

theorem map_eq_ok {first : Except ε α} {f : α → β} {result : β} :
    first.map f = .ok result ↔ ∃ value, first = .ok value ∧ f value = result := by
  cases first <;> simp [Except.map]

theorem map_fst_eq_ok {first : Except ε (α × β)} {result : α} :
    first.map (·.1) = .ok result ↔ ∃ other, first = .ok (result, other) := by
  rw [map_eq_ok]
  constructor
  · rintro ⟨⟨_, other⟩, same, rfl⟩
    exact ⟨other, same⟩
  · rintro ⟨other, same⟩
    exact ⟨(result, other), same, rfl⟩

theorem toOption_map_eq_some {first : Except ε α} {f : α → β} {result : β} :
    first.toOption.map f = some result ↔ ∃ value, first = .ok value ∧ f value = result := by
  cases first <;> simp [Except.toOption]

theorem toOption_bind_eq_some {first : Except ε α} {next : α → Option β} {result : β} :
    first.toOption.bind next = some result ↔ ∃ value, first = .ok value ∧ next value = some result := by
  cases first <;> simp [Except.toOption]

/-- A property of the state that every successful step keeps is kept by a whole chain. -/
theorem foldlM_preserves {step : β → α → Except ε β} {motive : β → Prop} (steps : List α)
    (kept : ∀ state argument next, argument ∈ steps → motive state →
      step state argument = .ok next → motive next)
    {start result : β} (initial : motive start) (success : steps.foldlM step start = .ok result) :
    motive result := by
  induction steps generalizing start with
  | nil =>
    cases success
    exact initial
  | cons argument rest ih =>
    rw [List.foldlM_cons, bind_eq_ok] at success
    obtain ⟨next, stepped, success⟩ := success
    exact ih (fun state other after member => kept state other after (List.mem_cons_of_mem _ member))
      (kept start argument next List.mem_cons_self initial stepped) success

/-- A chain that succeeds gets to each of its steps and past it. -/
theorem exists_of_foldlM_eq_ok {step : β → α → Except ε β} {steps : List α} {argument : α}
    (member : argument ∈ steps) {start result : β} (success : steps.foldlM step start = .ok result) :
    ∃ before after here next, steps = before ++ argument :: after ∧
      before.foldlM step start = .ok here ∧ step here argument = .ok next ∧
      after.foldlM step next = .ok result := by
  obtain ⟨before, after, rfl⟩ := List.append_of_mem member
  rw [List.foldlM_append, bind_eq_ok] at success
  obtain ⟨here, early, success⟩ := success
  rw [List.foldlM_cons, bind_eq_ok] at success
  obtain ⟨next, stepped, late⟩ := success
  exact ⟨before, after, here, next, rfl, early, stepped, late⟩

/-- A chain that fails has failed at one of its steps. -/
theorem exists_of_foldlM_eq_error {step : β → α → Except ε β} {steps : List α} {start : β}
    {reason : ε} (failure : steps.foldlM step start = .error reason) :
    ∃ state, ∃ argument ∈ steps, step state argument = .error reason := by
  induction steps generalizing start with
  | nil => cases failure
  | cons argument rest ih =>
    rw [List.foldlM_cons] at failure
    cases stepped : step start argument with
    | error early =>
      rw [stepped] at failure
      cases failure
      exact ⟨start, argument, List.mem_cons_self, stepped⟩
    | ok next =>
      rw [stepped] at failure
      obtain ⟨state, other, member, failed⟩ := ih failure
      exact ⟨state, other, List.mem_cons_of_mem _ member, failed⟩

theorem mapM_eq_ok_iff {f : α → Except ε β} {items : List α} {results : List β} :
    items.mapM f = .ok results ↔
      List.Forall₂ (fun item result => f item = .ok result) items results := by
  induction items generalizing results with
  | nil =>
    rw [List.mapM_nil, List.forall₂_nil_left_iff]
    exact ⟨fun same => (Except.ok.inj same).symm, fun none => none ▸ rfl⟩
  | cons item rest ih =>
    rw [List.mapM_cons, bind_eq_ok, List.forall₂_cons_left_iff]
    constructor
    · rintro ⟨result, first, others⟩
      obtain ⟨later, success, same⟩ := bind_eq_ok.mp others
      exact ⟨result, later, first, ih.mp success, (Except.ok.inj same).symm⟩
    · rintro ⟨result, later, first, success, rfl⟩
      exact ⟨result, first, bind_eq_ok.mpr ⟨later, ih.mpr success, rfl⟩⟩

/-- A walk over items fails with what the first one that fails says. -/
theorem mapM_eq_error_iff {f : α → Except ε β} {items : List α} {reason : ε} :
    items.mapM f = .error reason ↔
      ∃ before item after, items = before ++ item :: after ∧
        (∀ other ∈ before, ∃ result, f other = .ok result) ∧ f item = .error reason := by
  constructor
  · intro failure
    induction items with
    | nil => cases failure
    | cons first rest ih =>
      rw [List.mapM_cons, bind_eq_error] at failure
      obtain here | ⟨result, passed, failure⟩ := failure
      · exact ⟨[], first, rest, rfl, List.forall_mem_nil _, here⟩
      obtain behind | ⟨_, _, failure⟩ := bind_eq_error.mp failure
      · obtain ⟨before, item, after, rfl, others, failed⟩ := ih behind
        exact ⟨first :: before, item, after, rfl,
          List.forall_mem_cons.mpr ⟨⟨result, passed⟩, others⟩, failed⟩
      · cases failure
  · rintro ⟨before, item, after, rfl, passed, failed⟩
    induction before with
    | nil => exact bind_eq_error.mpr (.inl failed)
    | cons first before ih =>
      obtain ⟨⟨result, here⟩, others⟩ := List.forall_mem_cons.mp passed
      rw [List.cons_append, List.mapM_cons]
      exact bind_eq_error.mpr (.inr ⟨result, here, bind_eq_error.mpr (.inl (ih others))⟩)

/-- A walk over items succeeds if each item does on its own. -/
theorem exists_mapM_eq_ok_iff {f : α → Except ε β} {items : List α} :
    (∃ results, items.mapM f = .ok results) ↔ ∀ item ∈ items, ∃ result, f item = .ok result := by
  constructor
  · rintro ⟨results, success⟩
    induction mapM_eq_ok_iff.mp success with
    | nil => exact List.forall_mem_nil _
    | cons here behind ih =>
      exact List.forall_mem_cons.mpr ⟨⟨_, here⟩, ih (mapM_eq_ok_iff.mpr behind)⟩
  · intro each
    cases ran : items.mapM f with
    | ok results => exact ⟨results, rfl⟩
    | error reason =>
      obtain ⟨before, item, after, rfl, -, failed⟩ := mapM_eq_error_iff.mp ran
      obtain ⟨result, success⟩ := each item (List.mem_append_right _ List.mem_cons_self)
      rw [failed] at success
      cases success

/-! ### Walks that number their items -/

section Numbered

variable {f : α × Nat → Except ε β}

/-- A recursion that hands on the next place is a walk over numbered items. -/
theorem eq_mapM_zipIdx {walk : Nat → List α → Except ε (List β)}
    (stop : ∀ place, walk place [] = .ok [])
    (step : ∀ place item rest, walk place (item :: rest) = f (item, place) >>= fun result =>
      walk (place + 1) rest >>= fun results => .ok (result :: results))
    (place : Nat) (items : List α) : walk place items = (items.zipIdx place).mapM f := by
  induction items generalizing place with
  | nil => exact stop place
  | cons item rest ih =>
    rw [step, ih, List.zipIdx_cons, List.mapM_cons]
    rfl

/-- Of the items before the first that fails there are as many as its place says. -/
theorem mapM_zipIdx_eq_error_iff {items : List α} {place : Nat} {reason : ε} :
    (items.zipIdx place).mapM f = .error reason ↔
      ∃ before item after, items = before ++ item :: after ∧
        (∃ results, (before.zipIdx place).mapM f = .ok results) ∧
        f (item, place + before.length) = .error reason := by
  simp only [mapM_eq_error_iff, exists_mapM_eq_ok_iff]
  constructor
  · rintro ⟨early, ⟨item, number⟩, late, parts, passed, failed⟩
    obtain ⟨before, others, cut, rfl, behind⟩ := List.zipIdx_eq_append_iff.mp parts
    obtain ⟨found, after, rfl, same, rfl⟩ := List.zipIdx_eq_cons_iff.mp behind.symm
    cases same
    exact ⟨before, item, after, cut, passed, failed⟩
  · rintro ⟨before, item, after, rfl, passed, failed⟩
    refine ⟨before.zipIdx place, (item, place + before.length),
      after.zipIdx (place + before.length + 1), ?_, passed, failed⟩
    rw [List.zipIdx_append, List.zipIdx_cons]

end Numbered

end Outcome

end Gremlin
