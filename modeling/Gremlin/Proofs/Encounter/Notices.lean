import Gremlin.Proofs.Bestiary
import Gremlin.Proofs.Encounter.Occasions

set_option autoImplicit false

/-!
What listeners are told. Whatever gremlins do in a fight over a closed bestiary, nobody is told that
there is no template which a summon names: everyone on the board is of a template of the bestiary, in
the middle of a tick as well, and whom such a template names is there.
-/

namespace Gremlin

/-- Whether listeners are told that there is no template which a summon names. -/
def Notice.isDangling : Notice → Bool
  | noTemplate (.named _) => true
  | _ => false

namespace Encounter

/-! ### What is told -/

/-- From `s` to `s'` listeners are told things, but of no missing template that a summon names. -/
structure Tells (s s' : Encounter) : Prop where
  told : ∃ told, s'.notices.toList = s.notices.toList ++ told ∧
    ∀ notice ∈ told, notice.isDangling = false

namespace Tells

variable {s s' s'' : Encounter}

theorem of_notices_eq (same : s'.notices = s.notices) : Tells s s' :=
  ⟨[], by rw [same, List.append_nil], List.forall_mem_nil _⟩

theorem refl (s : Encounter) : Tells s s := of_notices_eq rfl

theorem trans (first : Tells s s') (second : Tells s' s'') : Tells s s'' := by
  obtain ⟨early, notices, fine⟩ := first.told
  obtain ⟨late, notices', fine'⟩ := second.told
  exact ⟨early ++ late, by rw [notices', notices, List.append_assoc],
    List.forall_mem_append.mpr ⟨fine, fine'⟩⟩

theorem notify {notice : Notice} (fine : notice.isDangling = false) (s : Encounter) :
    Tells s (s.notify notice) :=
  ⟨[notice], Array.toList_push .., List.forall_mem_singleton.mpr fine⟩

/-- If each call tells of no missing template, neither does going over gremlins. -/
theorem foldlM {bestiary : Bestiary}
    {act : Encounter → InstanceId → Except EncounterError Encounter}
    (keeps : ∀ {s id s'}, Stocked bestiary s → act s id = .ok s' → Stocked bestiary s')
    (each : ∀ {s id s'}, Stocked bestiary s → act s id = .ok s' → Tells s s')
    {ids : List InstanceId} (stocked : Stocked bestiary s) (success : ids.foldlM act s = .ok s') :
    Tells s s' :=
  (foldlM_preserves (motive := fun after => Stocked bestiary after ∧ Tells s after) ids
    (fun _ _ _ _ so_far acted => ⟨keeps so_far.1 acted, so_far.2.trans (each so_far.1 acted)⟩)
    ⟨stocked, .refl s⟩ success).2

end Tells

section Plain

theorem takeForce_notices (event : Force → Nat → Event) (amount : Nat) (s : Encounter)
    (force : Force) : (takeForce event amount s force).notices = s.notices := by
  rw [takeForce_eq]

theorem presentForces_notices (s : Encounter) (selector : Selector) :
    (s.presentForces selector).2.notices = s.notices := by
  cases selector <;> rfl

theorem cappedForces_notices (s : Encounter) (selector : Selector) :
    (s.cappedForces selector).2.notices = s.notices := by
  cases selector <;> rfl

theorem rememberCap_notices (s : Encounter) (source : Option InstanceId) (effect : Effect) :
    (s.rememberCap source effect).notices = s.notices := by
  cases source <;> rfl

/-- Effects that lead to no others tell listeners nothing. -/
theorem applyPlain_notices (source : Option InstanceId) (duration : Duration) (s : Encounter)
    (effect : Effect) : (applyPlain source duration s effect).notices = s.notices := by
  cases effect with
  | drain selector n | decay selector n =>
    exact (foldl_view (·.notices) (takeForce_notices _ _) _ _).trans
      (s.presentForces_notices selector)
  | hardCap selector limit | softCap selector limit =>
    refine (foldl_view (·.notices) ?_ _ _).trans
      ((cappedForces_notices _ selector).trans (s.rememberCap_notices source _))
    exact fun _ _ => rfl
  | totalCap limit => exact s.rememberCap_notices source _
  | gainArmor scope n | gainShields scope n | raiseReflect magnitude =>
    refine foldl_view (·.notices) ?_ _ s
    exact fun _ _ => rfl
  | amplifyDrains n | raiseCardCost n | limitHand n | lockDraw | forceDiscard n | shuffleHand
  | copyLastCard | summon _ | reinstateConstraints => rfl
  | removeConstraints => cases source <;> rfl

theorem reinstate_notices (source : Option InstanceId) (duration : Duration) (s : Encounter) :
    (s.reinstate source duration).notices = s.notices := by
  cases source with
  | none => rfl
  | some id => exact foldl_view (·.notices) (applyPlain_notices (some id) duration) _ s

theorem turnAway_tells (s : Encounter) (id : InstanceId) (spec : SummonSpec) :
    Tells s (s.turnAway id spec) := by
  have recorded : Tells s (s.record (.summonBlocked id spec)) := .of_notices_eq rfl
  unfold turnAway
  split
  · exact recorded.trans (.notify rfl _)
  · exact recorded

theorem drawn_notices {s after : Encounter} {own template? : Option Template} {spec : SummonSpec}
    (drawn : s.summonTemplate own spec = (template?, after)) : after.notices = s.notices := by
  have same : after = (s.summonTemplate own spec).2 := (congrArg Prod.snd drawn).symm
  subst same
  cases spec <;> rfl

end Plain

section Closed

variable {bestiary : Bestiary} (closed : Bestiary.Closed bestiary.templates) {s s' : Encounter}
  {id : InstanceId}

include closed

/-- Whom somebody on the board may summon by name is known to the bestiary. -/
theorem Stocked.heir (stocked : Stocked bestiary s) {target : String}
    (offers : s.Offers id (.named target)) : ∃ heir ∈ bestiary.templates, heir.id = target := by
  obtain ⟨gremlin, found, named⟩ := offers
  exact closed _ (stocked.listed id gremlin found) target
    (Template.named_mem_summons_iff.mp named)

/-- By the rules of what effects come to: only a summon that draws nothing could tell of a missing
template, and one that names its template does not draw. -/
theorem Unfolds.tells {offered : SummonSpec → Prop} {source : Option InstanceId}
    (unfolds : Unfolds offered source s s') (stocked : Stocked bestiary s)
    (answered : ∀ target, offered (.named target) →
      ∃ heir ∈ bestiary.templates, heir.id = target) : Tells s s' := by
  induction unfolds with
  | refl _ _ s => exact .refl s
  | plain _ duration effect ih =>
    exact (ih stocked answered).trans (.of_notices_eq (applyPlain_notices _ duration _ effect))
  | reinstated _ duration ih =>
    exact (ih stocked answered).trans (.of_notices_eq (reinstate_notices _ duration _))
  | blocked _ spec refused ih => exact (ih stocked answered).trans (turnAway_tells _ _ spec)
  | @missing _ _ s s' after so_far spec among drawn ih =>
    refine (ih stocked answered).trans ?_
    cases spec with
    | named target =>
      have none : (s'.bestiary.get? target, s') = (none, after) := drawn
      rw [(stocked.effected so_far.effected).known] at none
      obtain ⟨heir, member, named⟩ := answered target among
      have unknown := List.find?_eq_none.mp (congrArg Prod.fst none) heir member
      exact absurd (decide_eq_true named) unknown
    | ofSize size =>
      exact (Tells.of_notices_eq (drawn_notices drawn)).trans (.notify rfl after)
  | @joined _ source s s' after _ so_far spec template position allowed drawn _ ih later =>
    have welcomed := (stocked.effected so_far.effected).effected
      (welcome_effected position allowed drawn)
    have same : after.notices = s'.notices := drawn_notices drawn
    have joins : Tells s' (after.welcome template position source) := .of_notices_eq same
    exact ((ih stocked answered).trans joins).trans
      (later welcomed fun target offers => welcomed.heir closed offers)

theorem Batch.Grounded.tells {batch : Batch} (grounded : batch.Grounded bestiary)
    (success : batch.run = .ok s') : Tells batch.start s' := by
  have unfolds : Unfolds (batch.start.Offers batch.doer) (some batch.doer) batch.start s' :=
    foldlM_unfolds (fun member done => Batch.does_unfolds
      (fun spec same => grounded.offers spec (same ▸ member)) done) success
  exact unfolds.tells closed grounded.stocked fun _ offers =>
    grounded.stocked.heir closed offers

theorem Takes.tells {turn : Option Batch} (takes : Takes s s' turn)
    (grounded : ∀ batch, turn = some batch → batch.Grounded bestiary) : Tells s s' := by
  cases takes with
  | acts idle success =>
    exact (Tells.of_notices_eq idle.notices).trans ((grounded _ rfl).tells closed success)
  | rests idle => exact .of_notices_eq idle.notices

/-! ### Operations -/

theorem holdMove_tells (stocked : Stocked bestiary s) (success : s.holdMove id = .ok s') :
    Tells s s' :=
  (holdMove_takes success).tells closed fun _ holds => hold?_grounded stocked holds

theorem fireMove_tells (stocked : Stocked bestiary s) (success : s.fireMove id = .ok s') :
    Tells s s' :=
  (fireMove_takes success).tells closed fun _ fires => fire?_grounded stocked fires

theorem changeMove_tells (stocked : Stocked bestiary s) (success : s.changeMove id = .ok s') :
    Tells s s' :=
  (changeMove_takes success).tells closed fun _ changes => change?_grounded stocked changes

theorem bury_tells (stocked : Stocked bestiary s) (success : s.bury id = .ok s') : Tells s s' := by
  rcases bury_takes success with ⟨_, rfl⟩ | ⟨batch, last, summary, buries, rfl, ran, _, notices⟩
  · exact .refl s'
  · have avenged := (burial?_grounded stocked buries).tells closed ran
    have told : Tells last s' := (Tells.notify rfl last).trans (.of_notices_eq notices)
    exact avenged.trans told

omit closed in
theorem terminate_tells (s : Encounter) : Tells s s.terminate := by
  unfold terminate
  split
  · exact .refl s
  · have stopped : Tells s ({ s with clock := s.clock.terminate }.record .terminated) :=
      .of_notices_eq rfl
    exact stopped.trans (.notify rfl _)

theorem pruneDead_tells (stocked : Stocked bestiary s) (success : s.pruneDead = .ok s') :
    Tells s s' := by
  obtain ⟨after, burials, ended⟩ := bind_eq_ok.mp success
  have buried : Tells s after :=
    .foldlM (fun so_far acted => so_far.bury acted) (bury_tells closed) stocked burials
  cases ended
  split
  · exact buried.trans after.terminate_tells
  · exact buried

theorem advance_tells (stocked : Stocked bestiary s) (success : s.advance = .ok s') :
    Tells s s' := by
  obtain ⟨_, held, fired, changed, holds, fires, changes, prunes⟩ := advance_eq_ok success
  have atDawn : Tells s s.begun.lifted := .of_notices_eq rfl
  have first : Tells s.begun.lifted held :=
    .foldlM (fun so_far acted => so_far.holdMove acted) (holdMove_tells closed)
      stocked.begun.lifted holds
  have afterFirst := stocked.begun.applyPassives holds
  have second : Tells held fired :=
    .foldlM (fun so_far acted => so_far.fireMove acted) (fireMove_tells closed) afterFirst fires
  have afterSecond := afterFirst.fireMoves fires
  have third : Tells fired changed :=
    .foldlM (fun so_far acted => so_far.changeMove acted) (changeMove_tells closed) afterSecond
      changes
  have afterThird := (afterSecond.runTransitions changes).expire
  have last : Tells changed s' :=
    (show Tells changed changed.expire from .of_notices_eq rfl).trans
      (pruneDead_tells closed afterThird prunes)
  exact (((atDawn.trans first).trans second).trans third).trans last

end Closed

/-- Whether an operation from outside may itself tell of a missing template: it hands the notice in,
or does a summon that names nobody known. -/
def Operation.isDangling (bestiary : Bestiary) : Operation → Bool
  | effect _ _ (.summon (.named target)) => (bestiary.get? target).isNone
  | notify notice => notice.isDangling
  | _ => false

/-- No operation tells of a missing template that a summon names, unless from outside. -/
theorem Operation.tells {bestiary : Bestiary} (closed : Bestiary.Closed bestiary.templates)
    {s s' : Encounter} {operation : Operation} (stocked : Stocked bestiary s)
    (known : operation.isDangling bestiary = false) (success : operation.run s = .ok s') :
    Tells s s' := by
  have felled : ∀ {struck : Encounter}, Fells s operation struck → Idle s struck → Tells s s' :=
    fun fells idle => (Tells.of_notices_eq idle.notices).trans
      (pruneDead_tells closed (fells.stocked stocked) (fells.prunes success))
  cases operation with
  | spawn templateId =>
    obtain ⟨template, found, idle, takes⟩ := spawn_takes success
    exact (Tells.of_notices_eq idle.notices).trans (takes.tells closed fun _ opens =>
      opening?_grounded (arriving_stocked stocked found) opens)
  | effect source duration given =>
    have unfolds : Unfolds (fun spec => given = .summon spec) source s s' :=
      applyEffect_unfolds (fun _ same => same) success
    refine unfolds.tells closed stocked fun target same => ?_
    subst same
    obtain ⟨template, found⟩ := Option.isSome_iff_exists.mp (Option.isNone_eq_false_iff.mp known)
    exact ⟨template, Bestiary.mem_of_get? found, by simpa using List.find?_some found⟩
  | hit id given =>
    rcases hit_cases success with ⟨struck, fells, idle⟩ | idle
    · exact felled fells idle
    · exact .of_notices_eq idle.notices
  | execute id =>
    rcases execute_cases success with ⟨struck, fells, idle⟩ | idle
    · exact felled fells idle
    · exact .of_notices_eq idle.notices
  | heal id amount =>
    obtain ⟨_, _, rfl⟩ := heal_eq_ok success
    exact .of_notices_eq rfl
  | notify notice =>
    cases success
    exact .notify known s
  | terminate =>
    cases success
    exact s.terminate_tells
  | advance => exact advance_tells closed stocked success
  | gain _ _ | spend _ _ | observe _ | reseed _ | nest _ =>
    cases success
    exact .of_notices_eq rfl

end Encounter

end Gremlin
