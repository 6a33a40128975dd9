import Gremlin.Encounter.Effects
import Gremlin.Proofs.Template
import Mathlib.Data.List.Basic

set_option autoImplicit false

/-!
Which templates summon one another on joining the board. A gremlin that is born into a passive move
does the effects of that move at once, and whoever it summons by them does the same in turn. How
deep this goes depends on the templates alone, up to what random summons draw; and a depth that the
number of templates does not bound is not bounded at all.
-/

namespace Gremlin

namespace Template

/-- The move a gremlin is born into, if that is passive. -/
def opening? (template : Template) : Option Move := template.moves[0]?.filter Move.isPassive

/-- What a gremlin summons on joining, in order. -/
def openingSummons (template : Template) : List SummonSpec :=
  template.opening?.toList.flatMap fun move =>
    (Encounter.entryEffects move).filterMap Effect.summonSpec?

end Template

namespace Bestiary

/-- The templates that a summon of a gremlin of a template may create. -/
def answers (bestiary : Bestiary) (own : Template) : SummonSpec → List Template
  | .named target => (bestiary.get? target).toList
  | .ofSize size => (bestiary.ofSize size).filter fun candidate => own.id ≠ candidate.id

/-- What summons in order may create for a gremlin with so many live summons: those that create
anything do so until its cap is reached. -/
def created (bestiary : Bestiary) (own : Template) (live : Nat) (specs : List SummonSpec) :
    List (List Template) :=
  let answered := (specs.map (bestiary.answers own)).filter (!·.isEmpty)
  match own.targeting.summonCap with
  | some cap => answered.take (cap - live)
  | none => answered

/-- Whether the opening of a template comes to an end within some depth: each gremlin it summons
opens within one less. Of what a summon may create, `quantifier` tells which are looked at. -/
def ends (bestiary : Bestiary) (quantifier : List Template → (Template → Bool) → Bool) :
    Nat → Template → Bool
  | 0, _ => false
  | depth + 1, own => (bestiary.created own 0 own.openingSummons).all fun answers =>
      quantifier answers (bestiary.ends quantifier depth)

section Created

variable {bestiary : Bestiary} {own : Template} {live : Nat}

theorem mem_of_mem_answers {spec : SummonSpec} {template : Template}
    (member : template ∈ bestiary.answers own spec) : template ∈ bestiary.templates := by
  cases spec with
  | named target => exact mem_of_get? (Option.mem_toList.mp member)
  | ofSize size => exact (List.mem_filter.mp (List.mem_filter.mp member).1).1

theorem created_nil : bestiary.created own live [] = [] := by
  unfold created
  dsimp only
  split <;> simp

theorem created_of_full (full : ¬ own.HasRoom live) (specs : List SummonSpec) :
    bestiary.created own live specs = [] := by
  obtain ⟨cap, capped, reached⟩ := Template.exists_cap_of_not_hasRoom full
  rw [created, capped]
  dsimp only
  rw [Nat.sub_eq_zero_of_le reached, List.take_zero]

/-- A summon that nothing answers, or that there is no room for, creates nothing. -/
theorem created_cons_of_idle {spec : SummonSpec}
    (idle : bestiary.answers own spec = [] ∨ ¬ own.HasRoom live) (specs : List SummonSpec) :
    bestiary.created own live (spec :: specs) = bestiary.created own live specs := by
  rcases idle with nothing | full
  · unfold created
    rw [List.map_cons, nothing, List.filter_cons_of_neg (by simp)]
  · rw [created_of_full full, created_of_full full]

theorem created_cons_of_room (room : own.HasRoom live) {spec : SummonSpec}
    (some : bestiary.answers own spec ≠ []) (specs : List SummonSpec) :
    bestiary.created own live (spec :: specs) =
      bestiary.answers own spec :: bestiary.created own (live + 1) specs := by
  unfold created
  rw [List.map_cons, List.filter_cons_of_pos (by simpa using some)]
  dsimp only
  split
  · rename_i cap capped
    have below := room cap capped
    rw [show cap - live = cap - (live + 1) + 1 by omega, List.take_succ_cons]
  · rfl

theorem exists_of_mem_created {specs : List SummonSpec} {answers : List Template}
    (member : answers ∈ bestiary.created own live specs) :
    answers ≠ [] ∧ ∃ spec ∈ specs, answers = bestiary.answers own spec := by
  have offered : answers ∈ (specs.map (bestiary.answers own)).filter (!·.isEmpty) := by
    unfold created at member
    dsimp only at member
    split at member
    · exact List.mem_of_mem_take member
    · exact member
  obtain ⟨mapped, some⟩ := List.mem_filter.mp offered
  obtain ⟨spec, given, same⟩ := List.mem_map.mp mapped
  exact ⟨by simpa using some, spec, given, same.symm⟩

end Created

/-! ### How deep openings go -/

section Depth

variable {bestiary : Bestiary} {quantifier : List Template → (Template → Bool) → Bool}
  (monotone : ∀ {answers : List Template} {few more : Template → Bool},
    (∀ template ∈ answers, few template = true → more template = true) →
      quantifier answers few = true → quantifier answers more = true)

theorem ends_succ_eq_true_iff {depth : Nat} {own : Template} :
    bestiary.ends quantifier (depth + 1) own = true ↔
      ∀ answers ∈ bestiary.created own 0 own.openingSummons,
        quantifier answers (bestiary.ends quantifier depth) = true := by
  rw [ends, List.all_eq_true]

include monotone

theorem ends_succ {depth : Nat} {own : Template}
    (within : bestiary.ends quantifier depth own = true) :
    bestiary.ends quantifier (depth + 1) own = true := by
  induction depth generalizing own with
  | zero => cases within
  | succ depth ih =>
    rw [ends_succ_eq_true_iff] at within ⊢
    exact fun answers member => monotone (fun _ _ => ih) (within answers member)

theorem ends_mono {depth deeper : Nat} (le : depth ≤ deeper) {own : Template}
    (within : bestiary.ends quantifier depth own = true) :
    bestiary.ends quantifier deeper own = true := by
  induction le with
  | refl => exact within
  | step _ ih => exact ends_succ monotone ih

/-- The templates whose openings end within a depth. -/
def shallow (bestiary : Bestiary) (quantifier : List Template → (Template → Bool) → Bool)
    (depth : Nat) : List Template :=
  bestiary.templates.filter (bestiary.ends quantifier depth)

omit monotone in
theorem mem_shallow_iff {depth : Nat} {template : Template}
    (member : template ∈ bestiary.templates) :
    template ∈ bestiary.shallow quantifier depth ↔
      bestiary.ends quantifier depth template = true := by
  rw [shallow, List.mem_filter, and_iff_right member]

theorem shallow_sublist_succ (depth : Nat) :
    (bestiary.shallow quantifier depth).Sublist (bestiary.shallow quantifier (depth + 1)) :=
  List.monotone_filter_right _ fun _ => ends_succ monotone

/-- If one more level lets no further opening end, no number of levels does. -/
theorem ends_of_stable {depth : Nat}
    (stable : bestiary.shallow quantifier depth = bestiary.shallow quantifier (depth + 1))
    {deeper : Nat} (le : depth ≤ deeper) {template : Template}
    (member : template ∈ bestiary.templates)
    (within : bestiary.ends quantifier deeper template = true) :
    bestiary.ends quantifier depth template = true := by
  induction le generalizing template with
  | refl => exact within
  | step _ ih =>
    have next : bestiary.ends quantifier (depth + 1) template = true := by
      rw [ends_succ_eq_true_iff] at within ⊢
      refine fun answers created => monotone (fun answer given => ih ?_) (within answers created)
      obtain ⟨_, spec, _, rfl⟩ := exists_of_mem_created created
      exact mem_of_mem_answers given
    rwa [← mem_shallow_iff member, stable, mem_shallow_iff member]

/-- Each level lets another opening end, until one lets none. -/
theorem stable_or_le_length_shallow (depth : Nat) :
    (∃ level ≤ depth,
      bestiary.shallow quantifier level = bestiary.shallow quantifier (level + 1)) ∨
      depth ≤ (bestiary.shallow quantifier depth).length := by
  induction depth with
  | zero => exact .inr (Nat.zero_le _)
  | succ depth ih =>
    rcases ih with ⟨level, le, stable⟩ | many
    · exact .inl ⟨level, Nat.le_succ_of_le le, stable⟩
    · by_cases stable : bestiary.shallow quantifier depth = bestiary.shallow quantifier (depth + 1)
      · exact .inl ⟨depth, Nat.le_succ depth, stable⟩
      · have sublist : (bestiary.shallow quantifier depth).Sublist
            (bestiary.shallow quantifier (depth + 1)) := shallow_sublist_succ monotone depth
        have grows := Nat.lt_of_le_of_ne sublist.length_le fun same =>
          stable (sublist.eq_of_length same)
        exact .inr (Nat.lt_of_le_of_lt many grows)

/-- An opening that ends at all ends within as many levels as there are templates. -/
theorem ends_length {depth : Nat} {template : Template} (member : template ∈ bestiary.templates)
    (within : bestiary.ends quantifier depth template = true) :
    bestiary.ends quantifier bestiary.templates.length template = true := by
  rcases stable_or_le_length_shallow monotone bestiary.templates.length with
    ⟨level, le, stable⟩ | every
  · have deep := ends_mono monotone (Nat.le_max_left depth level) within
    exact ends_mono monotone le (ends_of_stable monotone stable (Nat.le_max_right _ _) member deep)
  · have all : bestiary.shallow quantifier bestiary.templates.length = bestiary.templates :=
      List.filter_sublist.eq_of_length (Nat.le_antisymm List.filter_sublist.length_le every)
    rw [← mem_shallow_iff member, all]
    exact member

end Depth

theorem all_monotone {answers : List Template} {few more : Template → Bool}
    (grows : ∀ template ∈ answers, few template = true → more template = true)
    (every : answers.all few = true) : answers.all more = true := by
  rw [List.all_eq_true] at every ⊢
  exact fun template member => grows template member (every template member)

theorem any_monotone {answers : List Template} {few more : Template → Bool}
    (grows : ∀ template ∈ answers, few template = true → more template = true)
    (one : answers.any few = true) : answers.any more = true := by
  rw [List.any_eq_true] at one ⊢
  obtain ⟨template, member, held⟩ := one
  exact ⟨template, member, grows template member held⟩

/-- The opening of a template ends, whichever answer each summon draws. -/
def mustEnd (bestiary : Bestiary) (own : Template) : Bool :=
  bestiary.ends List.all bestiary.templates.length own

/-- The opening of a template ends if each summon draws the right answer. -/
def mayEnd (bestiary : Bestiary) (own : Template) : Bool :=
  bestiary.ends List.any bestiary.templates.length own

/-- Every opening of the bestiary summons by name. -/
def OpensByName (bestiary : Bestiary) : Prop :=
  ∀ own ∈ bestiary.templates, ∀ spec ∈ own.openingSummons, ∃ target, spec = .named target

/-- Where nothing is drawn, what may end does end. -/
theorem OpensByName.ends_eq {bestiary : Bestiary} (named : bestiary.OpensByName) (depth : Nat)
    {own : Template} (member : own ∈ bestiary.templates) :
    bestiary.ends List.all depth own = bestiary.ends List.any depth own := by
  induction depth generalizing own with
  | zero => rfl
  | succ depth ih =>
    rw [ends, ends, Bool.eq_iff_iff, List.all_eq_true, List.all_eq_true]
    refine forall₂_congr fun answers created => ?_
    obtain ⟨some, spec, given, rfl⟩ := exists_of_mem_created created
    obtain ⟨target, rfl⟩ := named own member spec given
    obtain ⟨template, found⟩ : ∃ template, bestiary.get? target = .some template := by
      rw [← Option.ne_none_iff_exists']
      exact fun absent => some (by rw [answers, absent]; rfl)
    rw [answers, found, Option.toList_some, List.all_cons, List.all_nil, Bool.and_true,
      List.any_cons, List.any_nil, Bool.or_false, ih (mem_of_get? found)]

end Bestiary

end Gremlin
