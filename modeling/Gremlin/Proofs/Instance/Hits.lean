import Gremlin.Instance.Hit
import Mathlib.Algebra.Order.Ring.Nat
import Mathlib.Data.Nat.PSub

set_option autoImplicit false

/-!
Hits one after another. The barrier absorbs the first hits that apply anything, the others wear down
shields, armor and health in this order, and what they are told to have done is what is gone in the
end.
-/

namespace Gremlin.Instance

/-- The damage that a hit applies. -/
def applied (gremlin : Instance) (hit : Hit) : Nat := (gremlin.incomingDamage hit.damage).1

/-- Whether a hit applies any damage. -/
def bites (gremlin : Instance) (hit : Hit) : Bool := decide (0 < gremlin.applied hit)

/-- The outcome of a hit that does nothing. -/
def missed (gremlin : Instance) (hit : Hit) : HitOutcome where
  raw := hit.damage
  applied := gremlin.applied hit
  reflected := (gremlin.incomingDamage hit.damage).2

/-- Takes hits one after another, and tells what became of each. -/
def takeHits (gremlin : Instance) : List Hit → Instance × List HitOutcome
  | [] => (gremlin, [])
  | hit :: rest =>
    let struck := gremlin.applyHit hit
    let others := takeHits struck.1 rest
    (others.1, struck.2 :: others.2)

/-! ### One hit -/

/-- The ways a hit can go. -/
inductive Met (gremlin : Instance) (hit : Hit) : Instance × HitOutcome → Prop
  | idle (why : gremlin.bites hit = false ∨ gremlin.isAlive = false) :
      Met gremlin hit (gremlin, gremlin.missed hit)
  | absorbed (bites : gremlin.bites hit = true) (alive : gremlin.isAlive = true)
      (guarded : 0 < gremlin.barrier) :
      Met gremlin hit ({ gremlin with barrier := gremlin.barrier - 1 },
        { gremlin.missed hit with barrierAbsorbed := true })
  | hurt (bites : gremlin.bites hit = true) (alive : gremlin.isAlive = true)
      (unguarded : gremlin.barrier = 0) :
      Met gremlin hit (gremlin.takeDamage hit.pierce (gremlin.missed hit))

theorem applyHit_met (gremlin : Instance) (hit : Hit) : Met gremlin hit (gremlin.applyHit hit) := by
  unfold applyHit
  dsimp only
  split
  · rename_i nothing
    refine .idle (nothing.imp_left fun none => ?_)
    exact decide_eq_false (Nat.not_lt.mpr (Nat.le_of_eq none))
  · rename_i something
    have bites : gremlin.bites hit = true :=
      decide_eq_true (Nat.pos_of_ne_zero fun none => something (.inl none))
    have alive : gremlin.isAlive = true := Bool.of_not_eq_false fun dead => something (.inr dead)
    split
    · rename_i guarded
      exact .absorbed bites alive guarded
    · rename_i unguarded
      exact .hurt bites alive (Nat.eq_zero_of_not_pos unguarded)

/-- What a hit does to a gremlin, and what is told of it. -/
structure HitLaw (before after : Instance) (hit : Hit) (outcome : HitOutcome) : Prop where
  /-- One that applies nothing or finds no life changes nothing. -/
  idle : before.bites hit = false ∨ before.isAlive = false →
    after = before ∧ outcome = before.missed hit
  /-- One that is absorbed takes a layer of the barrier and nothing else. -/
  absorbed : outcome.barrierAbsorbed = true → 0 < before.barrier ∧
    after = { before with barrier := before.barrier - 1 } ∧
    outcome = { before.missed hit with barrierAbsorbed := true }
  /-- Any other wears down shields, armor and health in this order. -/
  hurt : before.bites hit = true → before.isAlive = true → outcome.barrierAbsorbed = false →
    outcome.shieldDamage = min (before.applied hit) before.shields ∧
    outcome.armorDamage = (if hit.pierce then 0
      else min (before.applied hit - outcome.shieldDamage) before.armor) ∧
    outcome.healthDamage = min (before.applied hit - outcome.shieldDamage - outcome.armorDamage)
      before.health.current ∧
    after = { before with
      shields := before.shields - outcome.shieldDamage
      armor := before.armor - outcome.armorDamage
      health := ⟨before.health.current - outcome.healthDamage, before.health.max⟩ }
  shieldsFirst : 0 < outcome.armorDamage → after.shields = 0
  armorNext : 0 < outcome.healthDamage → after.shields = 0 ∧ (hit.pierce = true ∨ after.armor = 0)
  shields : after.shields + outcome.shieldDamage = before.shields
  armor : after.armor + outcome.armorDamage = before.armor
  health : after.health.current + outcome.healthDamage = before.health.current
  killed : outcome.killed = true ↔ 0 < before.health.current ∧ after.health.current = 0

theorem not_idle {gremlin : Instance} {hit : Hit} {goal : Prop} (bites : gremlin.bites hit = true)
    (alive : gremlin.isAlive = true) (why : gremlin.bites hit = false ∨ gremlin.isAlive = false) :
    goal := by
  rcases why with spared | dead
  · rw [bites] at spared
    cases spared
  · rw [alive] at dead
    cases dead

theorem applyHit_law (gremlin : Instance) (hit : Hit) :
    HitLaw gremlin (gremlin.applyHit hit).1 hit (gremlin.applyHit hit).2 := by
  have met := applyHit_met gremlin hit
  generalize gremlin.applyHit hit = result at met
  cases met with
  | idle why =>
    exact {
      idle := fun _ => ⟨rfl, rfl⟩
      absorbed := fun absorbs => by cases absorbs
      hurt := fun bites alive _ => not_idle bites alive why
      shieldsFirst := fun some => absurd some (Nat.lt_irrefl 0)
      armorNext := fun some => absurd some (Nat.lt_irrefl 0)
      shields := rfl
      armor := rfl
      health := rfl
      killed := iff_of_false Bool.false_ne_true fun both => Nat.ne_of_gt both.1 both.2 }
  | absorbed bites alive guarded =>
    exact {
      idle := not_idle bites alive
      absorbed := fun _ => ⟨guarded, rfl, rfl⟩
      hurt := fun _ _ absorbs => by cases absorbs
      shieldsFirst := fun some => absurd some (Nat.lt_irrefl 0)
      armorNext := fun some => absurd some (Nat.lt_irrefl 0)
      shields := rfl
      armor := rfl
      health := rfl
      killed := iff_of_false Bool.false_ne_true fun both => Nat.ne_of_gt both.1 both.2 }
  | hurt bites alive unguarded =>
    have living := isAlive_iff.mp alive
    refine {
      idle := not_idle bites alive
      absorbed := fun absorbs => by cases absorbs
      hurt := fun _ _ _ => ⟨rfl, rfl, ?wound, ?left⟩
      shieldsFirst := ?shieldsFirst
      armorNext := ?armorNext
      shields := ?shields
      armor := ?armor
      health := ?health
      killed := ?killed }
    all_goals dsimp only [takeDamage, missed, Health.sub]
    case wound => omega
    case left =>
      congr 2
      omega
    case shieldsFirst => split <;> omega
    case armorNext =>
      split
      · rename_i pierces
        exact fun some => ⟨by omega, .inl pierces⟩
      · exact fun some => ⟨by omega, .inr (by omega)⟩
    case shields => omega
    case armor => split <;> omega
    case health => omega
    case killed =>
      simp only [Health.isDepleted, beq_iff_eq]
      exact ⟨fun none => ⟨living, none⟩, fun both => both.2⟩

theorem applyHit_template (gremlin : Instance) (hit : Hit) :
    (gremlin.applyHit hit).1.template = gremlin.template := by
  have met := applyHit_met gremlin hit
  generalize gremlin.applyHit hit = result at met
  cases met <;> rfl

/-! ### One hit after another -/

theorem bites_congr {gremlin other : Instance} (same : other.template = gremlin.template) :
    other.bites = gremlin.bites := by
  funext hit
  unfold bites applied incomingDamage
  rw [same]

theorem takeHits_append (gremlin : Instance) (first second : List Hit) :
    gremlin.takeHits (first ++ second) =
      (((gremlin.takeHits first).1.takeHits second).1,
        (gremlin.takeHits first).2 ++ ((gremlin.takeHits first).1.takeHits second).2) := by
  induction first generalizing gremlin with
  | nil => rfl
  | cons hit rest ih =>
    rw [List.cons_append, takeHits, ih]
    rfl

theorem takeHits_template (gremlin : Instance) (hits : List Hit) :
    (gremlin.takeHits hits).1.template = gremlin.template := by
  induction hits generalizing gremlin with
  | nil => rfl
  | cons hit rest ih => exact (ih _).trans (applyHit_template gremlin hit)

theorem length_takeHits (gremlin : Instance) (hits : List Hit) :
    (gremlin.takeHits hits).2.length = hits.length := by
  induction hits generalizing gremlin with
  | nil => rfl
  | cons hit rest ih => exact congrArg (· + 1) (ih _)

/-- Nothing becomes of a gremlin without life. -/
theorem takeHits_of_dead {gremlin : Instance} (dead : gremlin.isAlive = false) (hits : List Hit) :
    gremlin.takeHits hits = (gremlin, hits.map gremlin.missed) := by
  induction hits with
  | nil => rfl
  | cons hit rest ih =>
    obtain ⟨same, told⟩ := (applyHit_law gremlin hit).idle (.inr dead)
    rw [takeHits, same, told, ih]
    rfl

/-- As long as the barrier holds, it is all that changes. -/
theorem takeHits_guarded {gremlin : Instance} (alive : gremlin.isAlive = true) {hits : List Hit}
    (guarded : hits.countP gremlin.bites ≤ gremlin.barrier) : (gremlin.takeHits hits).1 =
      { gremlin with barrier := gremlin.barrier - hits.countP gremlin.bites } := by
  induction hits generalizing gremlin with
  | nil => rfl
  | cons hit rest ih =>
    rw [List.countP_cons] at guarded ⊢
    have met := applyHit_met gremlin hit
    rw [takeHits]
    generalize gremlin.applyHit hit = result at met
    cases met with
    | idle why =>
      have none : gremlin.bites hit = false := why.resolve_right fun dead => by
        rw [alive] at dead
        cases dead
      rw [none, if_neg Bool.false_ne_true, Nat.add_zero] at guarded ⊢
      exact ih alive guarded
    | absorbed bites _ some =>
      rw [if_pos bites] at guarded ⊢
      have same : { gremlin with barrier := gremlin.barrier - 1 }.bites = gremlin.bites :=
        bites_congr rfl
      have rest := @ih { gremlin with barrier := gremlin.barrier - 1 } alive (by
        rw [same]
        exact Nat.le_sub_one_of_lt guarded)
      rw [same] at rest
      refine rest.trans (congrArg (fun left => { gremlin with barrier := left }) ?_)
      dsimp only
      omega
    | hurt bites _ none =>
      rw [if_pos bites] at guarded
      omega

/-- Of a living gremlin's barrier every hit that bites takes a layer, until none is left. -/
theorem takeHits_barrier {gremlin : Instance} (alive : gremlin.isAlive = true) (hits : List Hit) :
    (gremlin.takeHits hits).1.barrier = gremlin.barrier - hits.countP gremlin.bites := by
  -- what is left once the barrier is down has no barrier whether it lives or not
  have unguarded : ∀ (hits : List Hit) (gremlin : Instance), gremlin.barrier = 0 →
      (gremlin.takeHits hits).1.barrier = 0 := by
    intro hits
    induction hits with
    | nil => exact fun _ none => none
    | cons hit rest ih =>
      intro gremlin none
      refine ih _ ?_
      have met := applyHit_met gremlin hit
      generalize gremlin.applyHit hit = result at met
      cases met with
      | idle => exact none
      | absorbed _ _ some => exact absurd none (Nat.ne_of_gt some)
      | hurt => exact none
  induction hits generalizing gremlin with
  | nil => rfl
  | cons hit rest ih =>
    rw [List.countP_cons]
    have met := applyHit_met gremlin hit
    rw [takeHits]
    generalize gremlin.applyHit hit = result at met
    cases met with
    | idle why =>
      rw [why.resolve_right fun dead => absurd (alive.symm.trans dead) nofun,
        if_neg Bool.false_ne_true, Nat.add_zero]
      exact ih alive
    | absorbed bites _ some =>
      have same : { gremlin with barrier := gremlin.barrier - 1 }.bites = gremlin.bites :=
        bites_congr rfl
      refine (@ih { gremlin with barrier := gremlin.barrier - 1 } alive).trans ?_
      rw [same, if_pos bites]
      dsimp only
      omega
    | hurt bites _ none =>
      rw [none, Nat.zero_sub]
      exact unguarded rest _ none

/-- A hit is absorbed if the gremlin is alive, the hit bites, and fewer hits than there are layers of
barrier have done so before. -/
theorem absorbed_iff (gremlin : Instance) (before : List Hit) (hit : Hit) :
    ((gremlin.takeHits before).1.applyHit hit).2.barrierAbsorbed = true ↔
      gremlin.isAlive = true ∧ gremlin.bites hit = true ∧
        before.countP gremlin.bites < gremlin.barrier := by
  have same := bites_congr (takeHits_template gremlin before)
  cases alive : gremlin.isAlive with
  | false =>
    rw [takeHits_of_dead alive, ((applyHit_law gremlin hit).idle (.inr alive)).2]
    exact iff_of_false (fun absorbs => by cases absorbs) fun all => by cases all.1
  | true =>
    have layers := takeHits_barrier alive before
    have met := applyHit_met (gremlin.takeHits before).1 hit
    generalize (gremlin.takeHits before).1.applyHit hit = result at met
    cases met with
    | idle why =>
      refine iff_of_false (fun absorbs => by cases absorbs) fun all => ?_
      rcases why with none | dead
      · rw [same, all.2.1] at none
        cases none
      · rw [takeHits_guarded alive (Nat.le_of_lt all.2.2)] at dead
        exact Bool.false_ne_true (dead.symm.trans alive)
    | absorbed bites _ guarded =>
      refine iff_of_true rfl ⟨rfl, same ▸ bites, ?_⟩
      omega
    | hurt bites _ unguarded =>
      refine iff_of_false (fun absorbs => by cases absorbs) fun all => ?_
      omega

/-- The outcome of each hit is that of the gremlin as the hits before have left it. -/
theorem outcome_of_split (gremlin : Instance) (before : List Hit) (hit : Hit) (after : List Hit) :
    (gremlin.takeHits (before ++ hit :: after)).2[before.length]? =
      some ((gremlin.takeHits before).1.applyHit hit).2 := by
  rw [takeHits_append, List.getElem?_append_right (Nat.le_of_eq (length_takeHits gremlin before)),
    length_takeHits, Nat.sub_self]
  rfl

theorem takeHits_concat (gremlin : Instance) (before : List Hit) (hit : Hit) :
    (gremlin.takeHits (before ++ [hit])).1 = ((gremlin.takeHits before).1.applyHit hit).1 := by
  rw [takeHits_append]
  rfl

section Totals

variable (gremlin : Instance) (hits : List Hit)

theorem countP_absorbed : (gremlin.takeHits hits).2.countP (·.barrierAbsorbed) =
    if gremlin.isAlive then min gremlin.barrier (hits.countP gremlin.bites) else 0 := by
  -- from the front, each hit adds to the count just what it adds to the bound
  have counted : ∀ after before : List Hit, hits = before ++ after →
      (gremlin.takeHits before).2.countP (·.barrierAbsorbed) =
        (if gremlin.isAlive then min gremlin.barrier (before.countP gremlin.bites) else 0) →
      (gremlin.takeHits hits).2.countP (·.barrierAbsorbed) =
        if gremlin.isAlive then min gremlin.barrier (hits.countP gremlin.bites) else 0 := by
    intro after
    induction after with
    | nil =>
      rintro before rfl so_far
      rwa [List.append_nil]
    | cons hit rest ih =>
      intro before all so_far
      refine ih (before ++ [hit]) (by rw [all, List.append_cons]) ?_
      have absorbs := absorbed_iff gremlin before hit
      rw [takeHits_append, List.countP_append, so_far, List.countP_append]
      change _ + List.countP (·.barrierAbsorbed) [((gremlin.takeHits before).1.applyHit hit).2] = _
      rw [List.countP_singleton, List.countP_singleton]
      by_cases absorbed : ((gremlin.takeHits before).1.applyHit hit).2.barrierAbsorbed = true
      · obtain ⟨alive, bites, within⟩ := absorbs.mp absorbed
        rw [if_pos absorbed, if_pos alive, if_pos alive, if_pos bites]
        omega
      · rw [if_neg absorbed]
        by_cases alive : gremlin.isAlive = true
        · rw [if_pos alive, if_pos alive]
          by_cases bites : gremlin.bites hit = true
          · have beyond : ¬ before.countP gremlin.bites < gremlin.barrier :=
              fun within => absorbed (absorbs.mpr ⟨alive, bites, within⟩)
            rw [if_pos bites]
            omega
          · rw [if_neg bites]
            omega
        · rw [if_neg alive, if_neg alive]
  exact counted hits [] rfl (by simp [takeHits])

/-- What is told to be gone is what is gone. -/
theorem takeHits_conserves :
    (gremlin.takeHits hits).1.shields + ((gremlin.takeHits hits).2.map (·.shieldDamage)).sum =
        gremlin.shields ∧
      (gremlin.takeHits hits).1.armor + ((gremlin.takeHits hits).2.map (·.armorDamage)).sum =
        gremlin.armor ∧
      (gremlin.takeHits hits).1.health.current +
        ((gremlin.takeHits hits).2.map (·.healthDamage)).sum = gremlin.health.current := by
  induction hits generalizing gremlin with
  | nil => exact ⟨rfl, rfl, rfl⟩
  | cons hit rest ih =>
    have first := applyHit_law gremlin hit
    obtain ⟨shields, armor, health⟩ := ih (gremlin.applyHit hit).1
    have shields' := first.shields
    have armor' := first.armor
    have health' := first.health
    simp only [takeHits, List.map_cons, List.sum_cons]
    omega

/-- A living gremlin is killed once if it is dead in the end, and nobody else is. -/
theorem countP_killed : (gremlin.takeHits hits).2.countP (·.killed) =
    if gremlin.isAlive && !(gremlin.takeHits hits).1.isAlive then 1 else 0 := by
  induction hits generalizing gremlin with
  | nil => exact (if_neg (by simp [takeHits])).symm
  | cons hit rest ih =>
    have first := (applyHit_law gremlin hit).killed
    have spent := (applyHit_law gremlin hit).health
    rw [← isAlive_iff] at first
    rw [takeHits, List.countP_cons, ih]
    cases lives : (gremlin.applyHit hit).1.isAlive with
    | true =>
      have living := isAlive_iff.mp lives
      have alive : gremlin.isAlive = true := isAlive_iff.mpr (by omega)
      have survives : ¬ (gremlin.applyHit hit).2.killed = true := fun kills =>
        absurd (first.mp kills).2 (Nat.ne_of_gt living)
      rw [if_neg survives, alive]
      rfl
    | false =>
      have lifeless : (gremlin.applyHit hit).1.health.current = 0 :=
        Nat.eq_zero_of_not_pos fun some =>
          Bool.false_ne_true (lives.symm.trans (isAlive_iff.mpr some))
      have ends : ((gremlin.applyHit hit).1.takeHits rest).1.isAlive = false := by
        rw [takeHits_of_dead lives, lives]
      rw [ends]
      cases alive : gremlin.isAlive with
      | true =>
        rw [if_pos (first.mpr ⟨alive, lifeless⟩)]
        rfl
      | false =>
        rw [if_neg fun kills => Bool.false_ne_true (alive.symm.trans (first.mp kills).1)]
        rfl

end Totals

/-! ### Every subtraction on the way -/

/-- Takes damage that no barrier stops, if no subtraction goes below zero. Health alone is taken down
to none by as much as there is. -/
def takeDamage? (gremlin : Instance) (pierce : Bool) (outcome : HitOutcome) :
    Option (Instance × HitOutcome) :=
  let shieldDamage := min outcome.applied gremlin.shields
  (gremlin.shields.psub shieldDamage).bind fun shields =>
    (outcome.applied.psub shieldDamage).bind fun afterShields =>
      let armorDamage := if pierce then 0 else min afterShields gremlin.armor
      (gremlin.armor.psub armorDamage).bind fun armor =>
        (afterShields.psub armorDamage).bind fun afterArmor =>
          let health := gremlin.health.sub afterArmor
          (gremlin.health.current.psub health.current).map fun healthDamage =>
            ({ gremlin with shields, armor, health },
              { outcome with
                shieldDamage, armorDamage, healthDamage, killed := health.isDepleted })

/-- Takes a hit, if no subtraction goes below zero. -/
def applyHit? (gremlin : Instance) (hit : Hit) : Option (Instance × HitOutcome) :=
  if gremlin.applied hit = 0 ∨ gremlin.isAlive = false then some (gremlin, gremlin.missed hit)
  else if 0 < gremlin.barrier then
    (gremlin.barrier.psub 1).map fun barrier =>
      ({ gremlin with barrier }, { gremlin.missed hit with barrierAbsorbed := true })
  else gremlin.takeDamage? hit.pierce (gremlin.missed hit)

/-- Takes hits one after another, if no subtraction goes below zero. -/
def takeHits? (gremlin : Instance) : List Hit → Option (Instance × List HitOutcome)
  | [] => some (gremlin, [])
  | hit :: rest => (gremlin.applyHit? hit).bind fun struck =>
    (takeHits? struck.1 rest).map fun others => (others.1, struck.2 :: others.2)

theorem takeDamage?_eq (gremlin : Instance) (pierce : Bool) (outcome : HitOutcome) :
    gremlin.takeDamage? pierce outcome = some (gremlin.takeDamage pierce outcome) := by
  unfold takeDamage?
  dsimp only
  rw [Nat.psub_eq_sub (Nat.min_le_right _ _), Option.bind_some,
    Nat.psub_eq_sub (Nat.min_le_left _ _), Option.bind_some, Nat.psub_eq_sub ?_, Option.bind_some,
    Nat.psub_eq_sub ?_, Option.bind_some, Nat.psub_eq_sub ?_, Option.map_some]
  · rfl
  · exact Nat.sub_le _ _
  · split
    · exact Nat.zero_le _
    · exact Nat.min_le_left _ _
  · split
    · exact Nat.zero_le _
    · exact Nat.min_le_right _ _

theorem applyHit?_eq (gremlin : Instance) (hit : Hit) :
    gremlin.applyHit? hit = some (gremlin.applyHit hit) := by
  unfold applyHit? applyHit
  dsimp only
  change (if gremlin.applied hit = 0 ∨ gremlin.isAlive = false then _ else _) =
    some (if gremlin.applied hit = 0 ∨ gremlin.isAlive = false then _ else _)
  split
  · rfl
  · split
    · rename_i guarded
      rw [Nat.psub_eq_sub guarded, Option.map_some]
      rfl
    · exact gremlin.takeDamage?_eq hit.pierce _

theorem takeHits?_eq (gremlin : Instance) (hits : List Hit) :
    gremlin.takeHits? hits = some (gremlin.takeHits hits) := by
  induction hits generalizing gremlin with
  | nil => rfl
  | cons hit rest ih =>
    rw [takeHits?, applyHit?_eq, Option.bind_some, ih]
    rfl

/-! ### Any hits on anyone -/

/-- Whatever hits a gremlin takes, each does what a hit does to the gremlin that the hits before have
left. On a living gremlin the barrier absorbs the first hits that apply anything, one for each layer,
and no others; a dead one is left as it is. What the outcomes tell of shields, armor and health adds
up to what is gone of each, a kill is told once if the gremlin dies of the hits and never else, and no
subtraction goes below zero. -/
theorem hits_conserve_damage (gremlin : Instance) (hits : List Hit) :
    (∀ before hit after, hits = before ++ hit :: after → ∃ outcome,
      (gremlin.takeHits hits).2[before.length]? = some outcome ∧
        HitLaw (gremlin.takeHits before).1 (gremlin.takeHits (before ++ [hit])).1 hit outcome ∧
        (outcome.barrierAbsorbed = true ↔ gremlin.isAlive = true ∧ gremlin.bites hit = true ∧
          before.countP gremlin.bites < gremlin.barrier)) ∧
      (gremlin.takeHits hits).2.countP (·.barrierAbsorbed) =
        (if gremlin.isAlive then min gremlin.barrier (hits.countP gremlin.bites) else 0) ∧
      ((gremlin.takeHits hits).1.shields +
          ((gremlin.takeHits hits).2.map (·.shieldDamage)).sum = gremlin.shields ∧
        (gremlin.takeHits hits).1.armor +
          ((gremlin.takeHits hits).2.map (·.armorDamage)).sum = gremlin.armor ∧
        (gremlin.takeHits hits).1.health.current +
          ((gremlin.takeHits hits).2.map (·.healthDamage)).sum = gremlin.health.current) ∧
      (gremlin.takeHits hits).2.countP (·.killed) =
        (if gremlin.isAlive && !(gremlin.takeHits hits).1.isAlive then 1 else 0) ∧
      gremlin.takeHits? hits = some (gremlin.takeHits hits) := by
  refine ⟨?_, countP_absorbed gremlin hits, takeHits_conserves gremlin hits,
    countP_killed gremlin hits, takeHits?_eq gremlin hits⟩
  rintro before hit after rfl
  refine ⟨_, outcome_of_split gremlin before hit after, ?_, absorbed_iff gremlin before hit⟩
  rw [takeHits_concat]
  exact applyHit_law _ hit

/-- The kind of a gremlin with a layer of barrier. -/
def warded : Template where
  id := "warded"
  displayName := "Warded"
  description := ""
  archetype := ""
  size := .small
  stats := {
    maxHealth := 3, armor := 0, shields := 0, shieldRegen := 0, shieldRegenMax := 0
    barrierCount := 1, damageCap := none, reflect := .zero, executeThreshold := none }
  targeting := { protection := .targetable, summonPosition := .bottom, summonCap := none }
  moves := []
  pattern := .single
  thresholds := []
  weights := []
  adaptive := none
  onDeath := []

/-- An execute leaves the barrier where it is, and what is dead absorbs no hit. -/
theorem not_every_barrier_absorbs :
    ¬ ∀ (gremlin : Instance) (hits : List Hit),
      (gremlin.takeHits hits).2.countP (·.barrierAbsorbed) =
        min gremlin.barrier (hits.countP gremlin.bites) := by
  intro absorbs
  have husk := absorbs (Instance.spawn ⟨0⟩ warded ⟨0⟩ none).execute.1 [⟨5, false⟩]
  have spared : ((Instance.spawn ⟨0⟩ warded ⟨0⟩ none).execute.1.takeHits
      [⟨5, false⟩]).2.countP (·.barrierAbsorbed) = 0 := by decide
  have one : min (Instance.spawn ⟨0⟩ warded ⟨0⟩ none).execute.1.barrier
      ([⟨5, false⟩].countP (Instance.spawn ⟨0⟩ warded ⟨0⟩ none).execute.1.bites) = 1 := by decide
  rw [spared, one] at husk
  cases husk

end Gremlin.Instance
