import Gremlin.Proofs.Template
import Mathlib.Data.List.Basic
import Mathlib.Logic.Function.Iterate

set_option autoImplicit false

/-!
Bestiaries as greatest closed sets. Of the first valid template of each id, loading keeps every one
that can be kept without a named summon leading to nobody, and each record is either kept or
reported, once.
-/

namespace Gremlin

/-- A move or the death of the template's gremlins summons the template with an id. -/
def Template.Names (template : Template) (target : String) : Prop :=
  (∃ move ∈ template.moves, .summon (.named target) ∈ move.effects) ∨
    .summon (.named target) ∈ template.onDeath

theorem Template.named_mem_summons_iff {template : Template} {target : String} :
    .named target ∈ template.summons ↔ template.Names target := by
  have only : ∀ effect : Effect,
      effect.summonSpec? = some (.named target) ↔ effect = .summon (.named target) := by
    intro effect
    cases effect <;> simp [Effect.summonSpec?]
  simp only [summons, Names, List.mem_filterMap, List.mem_append, List.mem_flatMap, only,
    exists_eq_right]

namespace Bestiary

/-- Every named summon of a template leads to one of the templates. -/
def Closed (templates : List Template) : Prop :=
  ∀ template ∈ templates, ∀ target, template.Names target → ∃ other ∈ templates, other.id = target

/-- The templates of the records that are valid on their own, in record order. -/
def valid (records : List Record) : List Template :=
  records.filterMap fun record => (Template.ofRecord record).toOption

/-- The first template of each id. -/
def firsts : List Template → List Template
  | [] => []
  | template :: rest => template :: (firsts rest).filter (·.id ≠ template.id)

/-- The templates of the first valid record of each id. -/
def candidates (records : List Record) : List Template := firsts (valid records)

/-! ### Rounds of dropping -/

section Rounds

variable {templates : List Template} {template : Template}

theorem missingSummon?_eq_none_iff :
    missingSummon? templates template = none ↔
      ∀ target, template.Names target → ∃ other ∈ templates, other.id = target := by
  simp only [missingSummon?, List.findSome?_eq_none_iff, ← Template.named_mem_summons_iff]
  constructor
  · intro settled target named
    simpa using settled _ named
  · intro leads spec member
    cases spec with
    | named target => simpa using leads target member
    | ofSize size => rfl

theorem missingSummon?_eq_some {target : String}
    (missing : missingSummon? templates template = some target) :
    template.Names target ∧ ∀ other ∈ templates, other.id ≠ target := by
  obtain ⟨spec, member, misses⟩ := List.exists_of_findSome?_eq_some missing
  cases spec with
  | named name =>
    simp only [Option.ite_none_left_eq_some, List.any_eq_true, decide_eq_true_eq, not_exists,
      not_and, Option.some.injEq] at misses
    obtain ⟨absent, rfl⟩ := misses
    exact ⟨Template.named_mem_summons_iff.mp member, absent⟩
  | ofSize size => cases misses

theorem settled_sublist (templates : List Template) : (settled templates).Sublist templates :=
  List.filter_sublist

/-- A round that drops nobody finds no orphan. -/
theorem missingSummon?_of_stable (stable : ¬ (settled templates).length < templates.length)
    (member : template ∈ templates) : missingSummon? templates template = none := by
  have all := List.length_filter_eq_length_iff.mp
    (Nat.le_antisymm (settled_sublist templates).length_le (Nat.le_of_not_lt stable))
  exact Option.isNone_iff_eq_none.mp (all template member)

/-- Templates that lead only to one another survive a round together. -/
theorem subset_settled {others : List Template} (closed : Closed others)
    (among : others ⊆ templates) : others ⊆ settled templates := by
  intro template member
  refine List.mem_filter.mpr ⟨among member, Option.isNone_iff_eq_none.mpr ?_⟩
  refine missingSummon?_eq_none_iff.mpr fun target named => ?_
  obtain ⟨other, present, same⟩ := closed template member target named
  exact ⟨other, among present, same⟩

theorem close_closed (templates : List Template) : Closed (close templates).1 := by
  induction templates using close.induct with
  | case1 templates fewer kept errors result ih =>
    rw [close, dif_pos fewer]
    exact ih
  | case2 templates stable =>
    rw [close, dif_neg stable]
    exact fun template member =>
      missingSummon?_eq_none_iff.mp (missingSummon?_of_stable stable member)

theorem subset_close {others : List Template} (closed : Closed others)
    (among : others ⊆ templates) : others ⊆ (close templates).1 := by
  induction templates using close.induct with
  | case1 templates fewer kept errors result ih =>
    rw [close, dif_pos fewer]
    exact ih (subset_settled closed among)
  | case2 templates stable =>
    rw [close, dif_neg stable]
    exact among

/-- Each round but the last drops somebody. -/
theorem close_rounds (templates : List Template) :
    ∃ rounds, rounds + (close templates).1.length ≤ templates.length ∧
      (close templates).1 = settled^[rounds] templates ∧ orphans (close templates).1 = [] := by
  induction templates using close.induct with
  | case1 templates fewer kept errors result ih =>
    obtain ⟨rounds, bounded, reached, nobody⟩ := ih
    rw [close, dif_pos fewer]
    refine ⟨rounds + 1, ?_, reached, nobody⟩
    dsimp only at bounded ⊢
    omega
  | case2 templates stable =>
    rw [close, dif_neg stable]
    refine ⟨0, Nat.le_of_eq (Nat.zero_add _), rfl, List.filterMap_eq_nil_iff.mpr ?_⟩
    intro template member
    rw [missingSummon?_of_stable stable member, Option.map_none]

/-- The fault of a template that was dropped for a summon that leads to nobody. -/
def complaint (reason : Template → Option String) (template : Template) : Option ValidationError :=
  (reason template).map (⟨template.id, .unknownSummon ·⟩)

/-- For each template what it was dropped for, if it was: a summon that leads to nobody kept. -/
theorem close_reasons (templates : List Template) :
    ∃ reason : Template → Option String,
      (close templates).1 = templates.filter (fun template => (reason template).isNone) ∧
      (close templates).2.Perm (templates.filterMap (complaint reason)) ∧
      ∀ template ∈ templates, ∀ target, reason template = some target →
        template.Names target ∧ ∀ other ∈ (close templates).1, other.id ≠ target := by
  induction templates using close.induct with
  | case1 templates fewer kept errors result ih =>
    obtain ⟨later, keeps, reports, founded⟩ := ih
    rw [close, dif_pos fewer]
    have among : ∀ other ∈ (close (settled templates)).1, other ∈ templates := by
      intro other member
      rw [keeps] at member
      exact (settled_sublist templates).subset (List.mem_filter.mp member).1
    refine ⟨fun template => (missingSummon? templates template).or (later template), ?_, ?_, ?_⟩
    · rw [show (close (settled templates)).1 = _ from keeps, settled, List.filter_filter]
      refine List.filter_congr fun template _ => ?_
      rw [Option.isNone_or, Bool.and_comm]
    · -- the orphans of this round, and those of later rounds among the settled
      refine ((List.Perm.refl _).append reports).trans ?_
      rw [settled, orphans]
      have apart := (List.filter_append_perm
        (fun template => (missingSummon? templates template).isSome) templates).filterMap
          (complaint fun template => (missingSummon? templates template).or (later template))
      refine .trans (.of_eq ?_) apart
      rw [List.filterMap_append, List.filterMap_filter, List.filterMap_filter,
        List.filterMap_filter]
      congr 1
      · refine List.filterMap_congr fun template _ => ?_
        rw [complaint]
        cases missingSummon? templates template <;> simp
      · refine List.filterMap_congr fun template _ => ?_
        rw [complaint, complaint]
        cases missingSummon? templates template <;> simp
    · intro template member target given
      dsimp only at given
      cases missing : missingSummon? templates template with
      | some first =>
        rw [missing] at given
        cases given
        obtain ⟨named, absent⟩ := missingSummon?_eq_some missing
        exact ⟨named, fun other kept => absent other (among other kept)⟩
      | none =>
        rw [missing] at given
        refine founded template ?_ target given
        exact List.mem_filter.mpr ⟨member, Option.isNone_iff_eq_none.mpr missing⟩
  | case2 templates stable =>
    rw [close, dif_neg stable]
    have silent : templates.filterMap (complaint fun _ => none) = [] :=
      List.filterMap_eq_nil_iff.mpr fun _ _ => rfl
    refine ⟨fun _ => none, ?_, .of_eq silent.symm, ?_⟩
    · simp
    · intro template _ target given
      cases given

end Rounds

/-! ### The account of the records -/

/-- What becomes of each record: its template is among the kept, or one fault is reported of it.
`earlier` are the templates of the first valid records so far. -/
inductive Ledger (kept : List Template) :
    List Template → List Record → List (Template ⊕ ValidationError) → Prop
  | nil (earlier : List Template) : Ledger kept earlier [] []
  | invalid {earlier : List Template} {record : Record} {rest : List Record}
      {fates : List (Template ⊕ ValidationError)} (error : ValidationError)
      (read : Template.ofRecord record = .error error) (others : Ledger kept earlier rest fates) :
      Ledger kept earlier (record :: rest) (.inr error :: fates)
  | duplicate {earlier : List Template} {record : Record} {rest : List Record}
      {fates : List (Template ⊕ ValidationError)} (template : Template)
      (read : Template.ofRecord record = .ok template)
      (taken : ∃ other ∈ earlier, other.id = template.id)
      (others : Ledger kept earlier rest fates) :
      Ledger kept earlier (record :: rest) (.inr ⟨template.id, .duplicate⟩ :: fates)
  | orphaned {earlier : List Template} {record : Record} {rest : List Record}
      {fates : List (Template ⊕ ValidationError)} (template : Template) (target : String)
      (read : Template.ofRecord record = .ok template)
      (free : ∀ other ∈ earlier, other.id ≠ template.id) (named : template.Names target)
      (missing : ∀ other ∈ kept, other.id ≠ target)
      (others : Ledger kept (earlier ++ [template]) rest fates) :
      Ledger kept earlier (record :: rest) (.inr ⟨template.id, .unknownSummon target⟩ :: fates)
  | kept {earlier : List Template} {record : Record} {rest : List Record}
      {fates : List (Template ⊕ ValidationError)} (template : Template)
      (read : Template.ofRecord record = .ok template)
      (free : ∀ other ∈ earlier, other.id ≠ template.id) (member : template ∈ kept)
      (others : Ledger kept (earlier ++ [template]) rest fates) :
      Ledger kept earlier (record :: rest) (.inl template :: fates)

theorem Ledger.length_eq {kept earlier : List Template} {records : List Record}
    {fates : List (Template ⊕ ValidationError)} (ledger : Ledger kept earlier records fates) :
    (fates.filterMap Sum.getLeft?).length + (fates.filterMap Sum.getRight?).length =
      records.length := by
  induction ledger with
  | nil earlier => rfl
  | invalid | duplicate | orphaned | kept =>
    simp only [List.filterMap_cons, Sum.getLeft?_inl, Sum.getLeft?_inr, Sum.getRight?_inl,
      Sum.getRight?_inr, List.length_cons]
    omega

theorem accept_fst (earlier : List Template) (records : List Record) :
    (accept earlier records).1 =
      earlier ++ (firsts (valid records)).filter fun template =>
        !earlier.any (·.id = template.id) := by
  induction records generalizing earlier with
  | nil => simp [accept, valid, firsts]
  | cons record rest ih =>
    rw [accept]
    cases read : Template.ofRecord record with
    | error error =>
      have skipped : valid (record :: rest) = valid rest := by
        rw [valid, List.filterMap_cons, read]
        rfl
      rw [skipped]
      exact ih earlier
    | ok template =>
      have next : valid (record :: rest) = template :: valid rest := by
        rw [valid, List.filterMap_cons, read]
        rfl
      dsimp only
      rw [next, firsts]
      by_cases taken : earlier.any (·.id = template.id) = true
      · rw [if_pos taken, List.filter_cons_of_neg (by simp [taken]), List.filter_filter]
        refine (ih earlier).trans (congrArg _ (List.filter_congr fun other _ => ?_))
        by_cases same : other.id = template.id
        · simp [same, taken]
        · simp [same]
      · rw [if_neg taken, ih, List.filter_cons_of_pos (by simp [taken]), List.filter_filter,
          List.append_assoc, List.singleton_append]
        congr 2
        refine List.filter_congr fun other _ => ?_
        simp only [List.any_append, List.any_cons, List.any_nil, Bool.or_false, Bool.not_or,
          decide_not, eq_comm]

/-- If the kept are the candidates without a reason against them, every record is accounted for. -/
theorem accept_ledger {kept : List Template} {reason : Template → Option String}
    {earlier : List Template} {records : List Record}
    (keeps : ∀ template ∈ (accept earlier records).1, reason template = none → template ∈ kept)
    (founded : ∀ template ∈ (accept earlier records).1, ∀ target, reason template = some target →
      template.Names target ∧ ∀ other ∈ kept, other.id ≠ target) :
    ∃ fates new, Ledger kept earlier records fates ∧
      (accept earlier records).1 = earlier ++ new ∧
      fates.filterMap Sum.getLeft? = new.filter (fun template => (reason template).isNone) ∧
      (fates.filterMap Sum.getRight?).Perm
        ((accept earlier records).2 ++ new.filterMap (complaint reason)) := by
  induction records generalizing earlier with
  | nil => exact ⟨[], [], .nil earlier, (List.append_nil _).symm, rfl, .refl _⟩
  | cons record rest ih =>
    rw [accept] at keeps founded ⊢
    cases read : Template.ofRecord record with
    | error error =>
      rw [read] at keeps founded
      obtain ⟨fates, new, ledger, joined, stay, told⟩ := ih keeps founded
      exact ⟨.inr error :: fates, new, .invalid error read ledger, joined, stay, told.cons error⟩
    | ok template =>
      rw [read] at keeps founded
      dsimp only at keeps founded ⊢
      by_cases taken : earlier.any (·.id = template.id) = true
      · rw [if_pos taken] at keeps founded ⊢
        obtain ⟨fates, new, ledger, joined, stay, told⟩ := ih keeps founded
        refine ⟨.inr ⟨template.id, .duplicate⟩ :: fates, new, .duplicate template read ?_ ledger,
          joined, stay, told.cons _⟩
        simpa using taken
      · rw [if_neg taken] at keeps founded ⊢
        have free : ∀ other ∈ earlier, other.id ≠ template.id := by simpa using taken
        obtain ⟨fates, new, ledger, joined, stay, told⟩ := ih keeps founded
        have member : template ∈ (accept (earlier ++ [template]) rest).1 := by
          rw [joined]
          simp
        rw [List.append_assoc, List.singleton_append] at joined
        cases given : reason template with
        | none =>
          refine ⟨.inl template :: fates, template :: new,
            .kept template read free (keeps template member given) ledger, joined, ?_, ?_⟩
          · rw [List.filter_cons_of_pos (by simp [given]), ← stay]
            rfl
          · have content : complaint reason template = none := by
              rw [complaint, given]
              rfl
            rw [List.filterMap_cons_none rfl, List.filterMap_cons_none content]
            exact told
        | some target =>
          obtain ⟨named, missing⟩ := founded template member target given
          refine ⟨.inr ⟨template.id, .unknownSummon target⟩ :: fates, template :: new,
            .orphaned template target read free named missing ledger, joined, ?_, ?_⟩
          · rw [List.filter_cons_of_neg (by simp [given]), ← stay]
            rfl
          · have complains : complaint reason template =
                some ⟨template.id, .unknownSummon target⟩ := by
              rw [complaint, given]
              rfl
            rw [List.filterMap_cons_some complains]
            exact (told.cons _).trans List.perm_middle.symm

theorem accept_nil_fst (records : List Record) : (accept [] records).1 = candidates records := by
  rw [accept_fst, candidates, List.nil_append, List.filter_eq_self]
  exact fun _ _ => rfl

/-- A bestiary is closed under the summons its templates name. -/
theorem load_closed (records : List Record) : Closed (load records).1.templates :=
  close_closed _

/-- Loading keeps the greatest closed set of the candidates, in their order and after at most as
many rounds as it drops candidates, and accounts for each record once. -/
theorem load_greatest_closed (records : List Record) :
    (load records).1.templates.Sublist (candidates records) ∧
      Closed (load records).1.templates ∧
      (∀ others ⊆ candidates records, Closed others → others ⊆ (load records).1.templates) ∧
      (∃ rounds, rounds + (load records).1.templates.length ≤ (candidates records).length ∧
        (load records).1.templates = settled^[rounds] (candidates records) ∧
        orphans (load records).1.templates = []) ∧
      (∃ fates, Ledger (load records).1.templates [] records fates ∧
        fates.filterMap Sum.getLeft? = (load records).1.templates ∧
        (fates.filterMap Sum.getRight?).Perm (load records).2) ∧
      (load records).1.templates.length + (load records).2.length = records.length := by
  have kept : (load records).1.templates = (close (candidates records)).1 := by
    rw [← accept_nil_fst]
    rfl
  have told : (load records).2 = (accept [] records).2 ++ (close (candidates records)).2 := by
    rw [← accept_nil_fst]
    rfl
  obtain ⟨reason, keeps, reports, founded⟩ := close_reasons (candidates records)
  have accounts : ∃ fates, Ledger (load records).1.templates [] records fates ∧
      fates.filterMap Sum.getLeft? = (load records).1.templates ∧
      (fates.filterMap Sum.getRight?).Perm (load records).2 := by
    rw [← kept] at founded
    rw [← accept_nil_fst] at keeps founded reports
    obtain ⟨fates, new, ledger, joined, stay, faults⟩ := accept_ledger (fun template member given =>
      kept ▸ accept_nil_fst records ▸ keeps ▸ List.mem_filter.mpr ⟨member, by rw [given]; rfl⟩)
        founded
    rw [List.nil_append] at joined
    rw [← joined] at stay faults
    refine ⟨fates, ledger, ?_, ?_⟩
    · rw [kept, ← accept_nil_fst, keeps, stay]
    · rw [told, ← accept_nil_fst]
      exact faults.trans (reports.symm.append_left _)
  refine ⟨?_, load_closed records, ?_, ?_, accounts, ?_⟩
  · rw [kept, keeps]
    exact List.filter_sublist
  · intro others among closed
    rw [kept]
    exact subset_close closed among
  · rw [kept]
    exact close_rounds _
  · obtain ⟨fates, ledger, stay, faults⟩ := accounts
    rw [← ledger.length_eq, stay, faults.length_eq]

end Bestiary

end Gremlin
