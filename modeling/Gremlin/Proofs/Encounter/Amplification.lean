import Gremlin.Proofs.Encounter.PassiveOverlays
import Mathlib.Data.List.Induction

set_option autoImplicit false

/-!
The amplification of drains that passive moves do. All passive amplifiers are lifted before the
first gremlin holds its move, and each is back only once its own gremlin has had its turn; so a
drain misses the passive amplifiers of the gremlins below the one that drains.
-/

namespace Gremlin

namespace Encounter

/-- The bonus to the drains of others that a gremlin keeps up by the passive move it holds. -/
def amplifier? (s : Encounter) (id : InstanceId) : Option Nat :=
  (s.held? id).bind (·.standing? (.pressure .amplifyDrains))

/-- The gremlins above one on the board. -/
def above (s : Encounter) (id : InstanceId) : List InstanceId := s.board.ids.takeWhile (· ≠ id)

/-- The amplifiers left when the passive ones are lifted, with those that the gremlins above one
keep up. -/
def amplifiersAbove (s : Encounter) (id : InstanceId) : OverlaySet :=
  (s.above id).foldl (fun set other => set.renew other (s.amplifier? other))
    s.pressure.amplifiers.releaseAllPassive

/-! ### What a turn does to the amplifiers -/

theorem pressure_takeForce (event : Force → Nat → Event) (amount : Nat) (s : Encounter)
    (force : Force) : (takeForce event amount s force).pressure = s.pressure := by
  rw [takeForce_eq]

/-- Of the effects that a passive move goes on doing only those that amplify drains install an
amplifier. -/
theorem applyPlain_amplifiers {id : InstanceId} {effect : Effect}
    (continuous : effect.isContinuous = true) (s : Encounter) :
    (applyPlain (some id) .passive s effect).pressure.amplifiers =
      s.pressure.amplifiers.renew id (effect.value? (.pressure .amplifyDrains)) := by
  have keeps : (applyPlain (some id) .passive s effect).pressure = s.pressure →
      effect.value? (.pressure .amplifyDrains) = none →
      (applyPlain (some id) .passive s effect).pressure.amplifiers =
        s.pressure.amplifiers.renew id (effect.value? (.pressure .amplifyDrains)) := by
    intro same none
    rw [same, none]
    rfl
  cases effect with
  | drain selector n | decay selector n =>
    refine keeps ((foldl_view (·.pressure) (fun s f => pressure_takeForce ..) _ _).trans ?_) rfl
    cases selector <;> rfl
  | hardCap selector limit | softCap selector limit =>
    refine keeps ((foldl_view (·.pressure) ?_ _ _).trans ?_) rfl
    · exact fun s f => rfl
    · cases selector <;> rfl
  | gainArmor | gainShields | raiseReflect =>
    refine keeps (foldl_view (·.pressure) ?_ _ _) rfl
    exact fun s id => rfl
  | totalCap | raiseCardCost | limitHand | lockDraw | amplifyDrains => rfl
  | _ => cases continuous

theorem applyEffects_amplifiers {id : InstanceId} {effects : List Effect}
    (continuous : ∀ effect ∈ effects, effect.isContinuous = true) {s s' : Encounter}
    (success : s.applyEffects (some id) .passive effects = .ok s') :
    s'.pressure.amplifiers = s.pressure.amplifiers.renew id
      (effects.filterMap (Effect.value? (.pressure .amplifyDrains))).getLast? := by
  induction effects generalizing s with
  | nil =>
    cases success
    rfl
  | cons effect rest ih =>
    rw [applyEffects, List.foldlM_cons, bind_eq_ok] at success
    obtain ⟨after, done, success⟩ := success
    have lasting := continuous effect List.mem_cons_self
    have first : after.pressure.amplifiers =
        s.pressure.amplifiers.renew id (effect.value? (.pressure .amplifyDrains)) := by
      rw [← applyPlain_amplifiers lasting]
      cases effect <;> first | cases done; rfl | cases lasting
    rw [ih (fun other member => continuous other (List.mem_cons_of_mem _ member)) success, first]
    cases lays : effect.value? (.pressure .amplifyDrains) with
    | none => rw [List.filterMap_cons_none lays, OverlaySet.renew]
    | some value =>
      rw [List.filterMap_cons_some lays, List.getLast?_cons]
      cases (rest.filterMap (Effect.value? (.pressure .amplifyDrains))).getLast? with
      | none => rfl
      | some later => exact OverlaySet.renew_renew ..

/-- A gremlin that holds a passive move renews its amplifier, and does nothing to any other. -/
theorem holdMove_amplifiers {id : InstanceId} {gremlin : Instance} {s s' : Encounter}
    (found : s.board.get? id = some gremlin) (alive : gremlin.isAlive = true)
    (success : s.holdMove id = .ok s') :
    s'.pressure.amplifiers = s.pressure.amplifiers.renew id (s.amplifier? id) := by
  rw [holdMove_of_alive found alive] at success
  rw [amplifier?, held?_of_get? found]
  cases passive : gremlin.passiveMove? with
  | none =>
    rw [passive] at success
    cases success
    rfl
  | some move =>
    rw [passive] at success
    rw [applyEffects_amplifiers (fun effect member => (List.mem_filter.mp member).2) success,
      Effect.filterMap_value?_filter fun effect standing => ?_]
    · rfl
    · cases effect <;> first | rfl | cases standing

/-- After the turns of some gremlins in the passive phase all of them have renewed theirs. By
induction from the end of the list, for those yet to come are as they were. -/
theorem foldlM_holdMove_amplifiers {ids : List InstanceId} {s s' : Encounter}
    (orderly : Orderly s) (living : s.Living) (distinct : ids.Nodup) (present : ids ⊆ s.board.ids)
    (success : ids.foldlM holdMove s = .ok s') :
    s'.pressure.amplifiers =
      ids.foldl (fun set id => set.renew id (s.amplifier? id)) s.pressure.amplifiers := by
  induction ids using List.reverseRecOn generalizing s' with
  | nil =>
    cases success
    rfl
  | append_singleton before id ih =>
    rw [List.foldlM_append, bind_eq_ok] at success
    obtain ⟨here, early, turn⟩ := success
    rw [List.foldlM_cons, bind_eq_ok] at turn
    obtain ⟨next, turn, last⟩ := turn
    cases last
    obtain ⟨distinct, _, apart⟩ := List.nodup_append.mp distinct
    have waits : id ∉ before := fun member => apart id member id (List.mem_singleton.mpr rfl) rfl
    have sooner : before ⊆ s.board.ids := fun other member => present (List.mem_append_left _ member)
    obtain ⟨track, gremlin, found, alive⟩ := track?_of_waiting orderly living distinct sooner early
      (present (List.mem_append_right _ (List.mem_singleton.mpr rfl))) waits
    rw [holdMove_amplifiers found alive turn, ih distinct sooner early, amplifier?,
      held?_congr track, List.foldl_append]
    rfl

/-! ### What a drain takes -/

theorem pool_takeForce (event : Force → Nat → Event) (amount : Nat) (s : Encounter)
    (force : Force) : (takeForce event amount s force).pool = (s.pool.drain force amount).1 := by
  rw [takeForce_eq]

theorem amount_foldl_takeForce {event : Force → Nat → Event} {amount : Nat} {forces : List Force}
    (distinct : forces.Nodup) (s : Encounter) (f : Force) :
    (forces.foldl (takeForce event amount) s).pool.amount f =
      if f ∈ forces then s.pool.amount f - min amount (s.pool.amount f) else s.pool.amount f := by
  induction forces generalizing s with
  | nil => rfl
  | cons g rest ih =>
    obtain ⟨fresh, distinct⟩ := List.nodup_cons.mp distinct
    rw [List.foldl_cons, ih distinct, pool_takeForce]
    by_cases same : f = g
    · subst same
      rw [if_neg fresh, if_pos List.mem_cons_self, Pool.amount_drain_same]
    · rw [Pool.amount_drain_other _ _ same]
      simp only [List.mem_cons, same, false_or]

theorem presentForces_nodup (s : Encounter) (selector : Selector) :
    (s.presentForces selector).1.Nodup := by
  have one : ∀ chosen : Option Force, chosen.toList.Nodup := by
    rintro (_ | f)
    · exact List.nodup_nil
    · exact List.nodup_singleton f
  cases selector with
  | only f => exact List.nodup_singleton f
  | every => exact (by decide : Force.all.Nodup)
  | largest | smallest | random => exact one _

theorem presentForces_pool (s : Encounter) (selector : Selector) :
    (s.presentForces selector).2.pool = s.pool := by
  cases selector <;> rfl

/-- A drain takes as much of each selected force as there is, up to its amount and the amplification
by all but its source. -/
theorem drain_amount {source : Option InstanceId} {duration : Duration} {selector : Selector}
    {n : Nat} {s s' : Encounter}
    (success : s.applyEffect source duration (.drain selector n) = .ok s') (f : Force) :
    s'.pool.amount f = if f ∈ (s.presentForces selector).1 then
      s.pool.amount f - min (saturatingAdd n (s.pressure.drainAmplification source)) (s.pool.amount f)
      else s.pool.amount f := by
  have drained : s' = (s.presentForces selector).1.foldl
      (takeForce (.drained source) (saturatingAdd n (s.pressure.drainAmplification source)))
      (s.presentForces selector).2 := (Except.ok.inj success).symm
  rw [drained, amount_foldl_takeForce (s.presentForces_nodup selector), presentForces_pool]

/-! ### Drains in the passive phase -/

/-- In the tick from `s` to `s'` a gremlin does an effect of the passive move it holds, from `u` to
`v`: after the turns of those above it and the earlier effects of its move, before the later effects
and the turns of those below. -/
def DoesInTurn (s : Encounter) (id : InstanceId) (earlier : List Effect) (effect : Effect)
    (later : List Effect) (u v s' : Encounter) : Prop :=
  ∃ below here next held fired changed, s.board.ids = s.above id ++ id :: below ∧
    (s.above id).foldlM holdMove s.begun.lifted = .ok here ∧
    ((here.modify id (·.regenerate)).modify id (·.countTrigger)).applyEffects (some id) .passive
      earlier = .ok u ∧
    u.applyEffect (some id) .passive effect = .ok v ∧
    v.applyEffects (some id) .passive later = .ok next ∧
    below.foldlM holdMove next = .ok held ∧ Stations s held fired changed s'

theorem above_eq {s : Encounter} {id : InstanceId} {before below : List InstanceId}
    (split : s.board.ids = before ++ id :: below) (absent : id ∉ before) : s.above id = before := by
  have others : ∀ other ∈ before, decide (other ≠ id) = true := by
    intro other member
    exact decide_eq_true fun same => absent (same ▸ member)
  rw [above, split, List.takeWhile_append_of_pos others, List.takeWhile_cons_of_neg (by simp),
    List.append_nil]

section Turn

variable {s s' : Encounter} {id : InstanceId} {earlier later : List Effect} {effect : Effect}

theorem above_nodup (orderly : Orderly s) : (s.above id).Nodup :=
  orderly.numbered.distinct.sublist (List.takeWhile_sublist _)

theorem above_subset (s : Encounter) (id : InstanceId) : s.above id ⊆ s.board.ids :=
  (List.takeWhile_sublist _).subset

/-- In every tick a gremlin that holds a passive move does each effect that the move goes on doing. -/
theorem does_in_turn (orderly : Orderly s) (living : s.Living)
    (sound : ∀ template ∈ s.bestiary.templates, template.Sound) (success : s.advance = .ok s')
    {move : Move} (holds : s.held? id = some move)
    (split : continuousEffects move = earlier ++ effect :: later) :
    ∃ u v, s.DoesInTurn id earlier effect later u v s' := by
  obtain ⟨held, fired, changed, stations⟩ := advance_stations orderly sound living success
  obtain ⟨gremlin, present, _⟩ := Option.bind_eq_some_iff.mp holds
  have member : id ∈ s.board.ids := Board.mem_ids_iff.mpr ⟨gremlin, present⟩
  obtain ⟨before, below, here, next, line, early, turn, late⟩ :=
    exists_of_foldlM_eq_ok member stations.holds
  have waits : id ∉ before := fun earlier =>
    (List.nodup_append.mp (line ▸ orderly.numbered.distinct)).2.2 id earlier id List.mem_cons_self rfl
  obtain rfl := above_eq line waits
  obtain ⟨track, gremlin', found, alive⟩ := track?_of_waiting
    (lifted_orderly (begun_orderly orderly)) (lifted_living (begun_living living))
    (above_nodup orderly) (s.above_subset id) early member waits
  -- those above cannot have changed what it holds
  have same : gremlin'.passiveMove? = some move := by
    rw [← held?_of_get? found, held?_congr track]
    exact holds
  rw [holdMove_of_alive found alive, same] at turn
  dsimp only at turn
  rw [split, applyEffects, List.foldlM_append, bind_eq_ok] at turn
  obtain ⟨u, first, turn⟩ := turn
  rw [List.foldlM_cons, bind_eq_ok] at turn
  obtain ⟨v, done, rest⟩ := turn
  exact ⟨u, v, below, here, next, held, fired, changed, line, early, first, done, rest, late, stations⟩

/-- What amplifies the drains of a gremlin in its turn. -/
theorem DoesInTurn.amplification {u v : Encounter} (orderly : Orderly s) (living : s.Living)
    (continuous : ∀ effect ∈ earlier, effect.isContinuous = true)
    (turn : s.DoesInTurn id earlier effect later u v s') :
    u.pressure.drainAmplification (some id) = (s.amplifiersAbove id).sumExcluding (some id) := by
  obtain ⟨_, here, _, _, _, _, _, early, first, _⟩ := turn
  have amplifiers : here.pressure.amplifiers = s.amplifiersAbove id :=
    foldlM_holdMove_amplifiers (lifted_orderly (begun_orderly orderly))
      (lifted_living (begun_living living)) (above_nodup orderly) (s.above_subset id) early
  rw [Pressure.drainAmplification, applyEffects_amplifiers continuous first,
    OverlaySet.sumExcluding_renew]
  exact congrArg (OverlaySet.sumExcluding · (some id)) amplifiers

end Turn

/-- In every tick a gremlin that holds a passive move does each drain of it once, and the drain is
amplified by the amplifiers that are not passive and by those that the gremlins above it keep up. -/
theorem passive_drain_taken {records : List Record} {s s' : Encounter}
    (reachable : Reachable (Bestiary.load records).1 s) (success : s.advance = .ok s')
    {id : InstanceId} {move : Move} (holds : s.held? id = some move) {earlier later : List Effect}
    {selector : Selector} {n : Nat}
    (split : continuousEffects move = earlier ++ .drain selector n :: later) :
    ∃ u v, s.DoesInTurn id earlier (.drain selector n) later u v s' ∧
      ∀ f, v.pool.amount f = if f ∈ (u.presentForces selector).1 then
        u.pool.amount f -
          min (saturatingAdd n ((s.amplifiersAbove id).sumExcluding (some id))) (u.pool.amount f)
        else u.pool.amount f := by
  have standing := reachable.standing fun _ member => Bestiary.sound_of_mem_load member
  have sound : ∀ template ∈ s.bestiary.templates, template.Sound :=
    standing.known ▸ fun _ member => Bestiary.sound_of_mem_load member
  obtain ⟨u, v, turn⟩ := does_in_turn standing.orderly standing.living sound success holds split
  have continuous : ∀ effect ∈ earlier, effect.isContinuous = true := by
    intro effect member
    have own : effect ∈ continuousEffects move := split ▸ List.mem_append_left _ member
    exact (List.mem_filter.mp own).2
  refine ⟨u, v, turn, fun f => ?_⟩
  rw [← turn.amplification standing.orderly standing.living continuous]
  obtain ⟨_, _, _, _, _, _, _, _, _, drained, _⟩ := turn
  exact drain_amount drained f

/-! ### What a drain misses -/

/-- Where effects are done by gremlins in their turns alone, the amplifiers of a gremlin's turn are
those in force when the tick began, but for the passive ones of gremlins that are not above it. -/
theorem amplifiersAbove_perm {s : Encounter} (synced : Synced s) (id : InstanceId) :
    (s.amplifiersAbove id).overlays.Perm (s.pressure.amplifiers.overlays.filter fun o =>
      o.duration ≠ .passive ∨ o.source ∈ (s.above id).map some) := by
  have single : s.pressure.amplifiers.Single :=
    synced.tidy.single (.pressure .amplifyDrains)
  change (s.amplifiersAbove id).overlays.Perm (s.pressure.amplifiers.keep _).overlays
  refine OverlaySet.perm_of_of?_eq (single.releaseAllPassive.foldl_renew _) (single.keep _)
    fun source => ?_
  have idles : (∀ other ∈ s.above id, source = some other → s.amplifier? other = none) →
      (s.amplifiersAbove id).of? source =
        (s.pressure.amplifiers.of? source).filter (·.duration ≠ .passive) := by
    intro idle
    rw [amplifiersAbove, OverlaySet.of?_foldl_renew_idle _ idle,
      OverlaySet.of?_releaseAllPassive single]
  rw [OverlaySet.of?_keep single]
  by_cases higher : source ∈ (s.above id).map some
  · obtain ⟨other, member, rfl⟩ := List.mem_map.mp higher
    cases keeps : s.amplifier? other with
    | some bonus =>
      obtain ⟨move, held, stands⟩ := Option.bind_eq_some_iff.mp keeps
      have present : s.pressure.amplifiers.of? (some other) = some ⟨bonus, .passive, some other⟩ :=
        (synced.inStep other).stands (.pressure .amplifyDrains) move bonus held
          (move.draws_pressure _) stands
      rw [present, Option.filter_some_pos (by simp [higher])]
      exact OverlaySet.of?_foldl_renew_busy _ member keeps
    | none =>
      rw [idles fun _ _ same => Option.some.inj same ▸ keeps]
      cases found : s.pressure.amplifiers.of? (some other) with
      | none => rfl
      | some overlay =>
        -- a passive one would be laid by the move that `other` holds
        have lasting : overlay.duration ≠ .passive := by
          intro passive
          obtain ⟨move, held, reaches⟩ :=
            (synced.inStep other).sourced (.pressure .amplifyDrains) overlay found passive
          obtain ⟨bonus, stands⟩ := Move.standing?_of_reaches reaches
          rw [amplifier?, held, Option.bind_some, stands] at keeps
          cases keeps
        rw [Option.filter_some_pos (by simpa using lasting),
          Option.filter_some_pos (by simp [lasting])]
  · rw [idles fun other member same => absurd (same ▸ List.mem_map_of_mem member) higher]
    cases found : s.pressure.amplifiers.of? source with
    | none => rfl
    | some overlay =>
      simp only [Option.filter_some, OverlaySet.source_of_of? found, higher, or_false]

/-- A drain of a passive move misses the passive amplifiers of all others that are not above. -/
theorem drainAmplification_eq {records : List Record} {s : Encounter}
    (play : ByPlay (Bestiary.load records).1 s) (id : InstanceId) :
    s.pressure.drainAmplification (some id) =
      wrappingAdd ((s.amplifiersAbove id).sumExcluding (some id))
        (wrappingSum ((s.pressure.amplifiers.overlays.filter fun o => o.source ≠ some id ∧
          o.duration = .passive ∧ o.source ∉ (s.above id).map some).map (·.value))) := by
  have synced := play.synced fun _ member => Bestiary.sound_of_mem_load member
  rw [Pressure.drainAmplification, OverlaySet.sumExcluding_some, OverlaySet.sumExcluding_some,
    ← wrappingSum_append, ← List.map_append]
  refine wrappingSum_perm (.map _ ?_)
  have early := (amplifiersAbove_perm synced id).filter fun o => o.source ≠ some id
  refine .trans ?_ (early.symm.append_right _)
  rw [List.filter_filter]
  refine .trans (List.filter_append_perm (fun o : Overlay =>
    o.duration ≠ .passive ∨ o.source ∈ (s.above id).map some) _).symm ?_
  rw [List.filter_filter, List.filter_filter]
  refine .of_eq (congrArg₂ (· ++ ·) (List.filter_congr fun o _ => ?_)
    (List.filter_congr fun o _ => ?_))
  · rw [Bool.and_comm]
  · rw [← decide_not, ← Bool.decide_and, decide_eq_decide, not_or, not_not, and_comm]

/-- A gremlin that goes on draining heat. -/
def leech : Record where
  templateId := "leech"
  sizeCategory := "small"
  maxHealth := 10
  moves := "ticks=0,drain_heat=1"
  movePattern := "single"

/-- A gremlin that goes on amplifying drains. -/
def choir : Record where
  templateId := "choir"
  sizeCategory := "small"
  maxHealth := 10
  moves := "ticks=0,amplify_drains=5"
  movePattern := "single"

/-- Of two choirs only the one above amplifies the drain of a leech between them. -/
theorem passive_drain_taken_between : ∃ s s' u v,
    Operation.runAll (new (Bestiary.load [leech, choir]).1 7)
      [.spawn "choir", .spawn "leech", .spawn "choir", .gain .heat 20] = .ok s ∧
    s.pressure.drainAmplification (some ⟨1⟩) = 10 ∧ s.advance = .ok s' ∧
    s.DoesInTurn ⟨1⟩ [] (.drain (.only .heat) 1) [] u v s' ∧
    v.pool.amount .heat = u.pool.amount .heat - min 6 (u.pool.amount .heat) := by
  have ran : ((Operation.runAll (new (Bestiary.load [leech, choir]).1 7)
      [.spawn "choir", .spawn "leech", .spawn "choir", .gain .heat 20]).toOption.map fun s =>
        s.advance.toOption.map fun _ => (s.held? ⟨1⟩).map fun move => decide (
          s.pressure.drainAmplification (some ⟨1⟩) = 10 ∧
          saturatingAdd 1 ((s.amplifiersAbove ⟨1⟩).sumExcluding (some ⟨1⟩)) = 6 ∧
          continuousEffects move = [.drain (.only .heat) 1])) = some (some (some true)) := by
    decide +kernel
  obtain ⟨s, success, shown⟩ := toOption_map_eq_some.mp ran
  obtain ⟨s', advanced, shown⟩ := toOption_map_eq_some.mp shown
  obtain ⟨move, held, shown⟩ := Option.map_eq_some_iff.mp shown
  obtain ⟨all, heard, drains⟩ := of_decide_eq_true shown
  have reachable := (Reachable.fresh 7).runAll success
  obtain ⟨u, v, turn, taken⟩ := passive_drain_taken reachable advanced held
    (show continuousEffects move = [] ++ .drain (.only .heat) 1 :: [] from drains)
  refine ⟨s, s', u, v, success, all, advanced, turn, ?_⟩
  have selected : Force.heat ∈ (u.presentForces (.only .heat)).1 := List.mem_singleton.mpr rfl
  rw [taken, if_pos selected, heard]

/-- A leech takes more if the choir stands above it, though the choir holds its move and its
amplifier is in force before and after the tick either way. -/
theorem drain_hangs_on_order : ∃ s s' t t',
    Operation.runAll (new (Bestiary.load [leech, choir]).1 7)
      [.spawn "leech", .spawn "choir", .gain .heat 20] = .ok s ∧ s.advance = .ok s' ∧
    Operation.runAll (new (Bestiary.load [leech, choir]).1 7)
      [.spawn "choir", .spawn "leech", .gain .heat 20] = .ok t ∧ t.advance = .ok t' ∧
    (s.pressure.drainAmplification (some ⟨0⟩) = 5 ∧ s'.pressure.drainAmplification (some ⟨0⟩) = 5) ∧
    (t.pressure.drainAmplification (some ⟨1⟩) = 5 ∧ t'.pressure.drainAmplification (some ⟨1⟩) = 5) ∧
    (s.pool.amount .heat = 20 ∧ s'.pool.amount .heat = 19) ∧
    (t.pool.amount .heat = 20 ∧ t'.pool.amount .heat = 14) := by
  have below : ((Operation.runAll (new (Bestiary.load [leech, choir]).1 7)
      [.spawn "leech", .spawn "choir", .gain .heat 20]).toOption.map fun s =>
        s.advance.toOption.map fun s' => decide (
          (s.pressure.drainAmplification (some ⟨0⟩) = 5 ∧
            s'.pressure.drainAmplification (some ⟨0⟩) = 5) ∧
          (s.pool.amount .heat = 20 ∧ s'.pool.amount .heat = 19))) = some (some true) := by
    decide +kernel
  have above : ((Operation.runAll (new (Bestiary.load [leech, choir]).1 7)
      [.spawn "choir", .spawn "leech", .gain .heat 20]).toOption.map fun t =>
        t.advance.toOption.map fun t' => decide (
          (t.pressure.drainAmplification (some ⟨1⟩) = 5 ∧
            t'.pressure.drainAmplification (some ⟨1⟩) = 5) ∧
          (t.pool.amount .heat = 20 ∧ t'.pool.amount .heat = 14))) = some (some true) := by
    decide +kernel
  obtain ⟨s, started, shown⟩ := toOption_map_eq_some.mp below
  obtain ⟨s', advanced, told⟩ := toOption_map_eq_some.mp shown
  obtain ⟨amplified, taken⟩ := of_decide_eq_true told
  obtain ⟨t, started', shown'⟩ := toOption_map_eq_some.mp above
  obtain ⟨t', advanced', told'⟩ := toOption_map_eq_some.mp shown'
  obtain ⟨amplified', taken'⟩ := of_decide_eq_true told'
  exact ⟨s, s', t, t', started, advanced, started', advanced', amplified, amplified', taken, taken'⟩

end Encounter

end Gremlin
