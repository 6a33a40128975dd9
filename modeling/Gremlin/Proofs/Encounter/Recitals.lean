import Gremlin.Proofs.Encounter.Beats
import Gremlin.Proofs.Encounter.Failures
import Gremlin.Proofs.Encounter.Notices
import Gremlin.Proofs.Encounter.Scripts
import Gremlin.Proofs.Encounter.Soundness

set_option autoImplicit false

/-!
What listeners are told of a script. Each scripted action is announced once, when it is done, and
nothing else announces any; and no scripted action fails, as whoever it was meant for is still there
when its turn comes, or is passed over.
-/

namespace Gremlin

/-- The scripted action that a notice announces. -/
def Notice.scripted? : Notice → Option ScriptedAction
  | scripted action => some action
  | _ => none

namespace Encounter

/-- From `s` to `s'` listeners are told of these scripted actions, in order, and of no error. -/
structure Recites (actions : List ScriptedAction) (s s' : Encounter) : Prop where
  told : ∃ told, s'.notices.toList = s.notices.toList ++ told ∧
    told.filterMap Notice.scripted? = actions ∧ ∀ notice ∈ told, notice.severity ≠ .error

namespace Recites

variable {s s' s'' : Encounter} {actions later : List ScriptedAction}

theorem of_notices_eq (same : s'.notices = s.notices) : Recites [] s s' :=
  ⟨[], by rw [same, List.append_nil], rfl, List.forall_mem_nil _⟩

theorem refl (s : Encounter) : Recites [] s s := of_notices_eq rfl

theorem trans (first : Recites actions s s') (second : Recites later s' s'') :
    Recites (actions ++ later) s s'' := by
  obtain ⟨told, notices, rfl, fine⟩ := first.told
  obtain ⟨told', notices', rfl, fine'⟩ := second.told
  refine ⟨told ++ told', ?_, List.filterMap_append, List.forall_mem_append.mpr ⟨fine, fine'⟩⟩
  rw [notices', notices, List.append_assoc]

/-- Before and after what announces nothing. -/
theorem andThen (first : Recites actions s s') (silent : Recites [] s' s'') :
    Recites actions s s'' :=
  List.append_nil actions ▸ first.trans silent

theorem notify {notice : Notice} (fine : notice.severity ≠ .error) (s : Encounter) :
    Recites notice.scripted?.toList s (s.notify notice) := by
  refine ⟨[notice], Array.toList_push .., ?_, List.forall_mem_singleton.mpr fine⟩
  cases told : notice.scripted? <;> simp [told]

theorem foldlM {α : Type} {act : Encounter → α → Except EncounterError Encounter}
    (each : ∀ {s s' : Encounter} {argument : α}, act s argument = .ok s' → Recites [] s s')
    {arguments : List α} (success : arguments.foldlM act s = .ok s') : Recites [] s s' :=
  foldlM_preserves (motive := Recites [] s) arguments
    (fun _ _ _ _ so_far acted => so_far.andThen (each acted)) (.refl s) success

end Recites

section Calls

variable {s s' : Encounter} {id : InstanceId}

theorem turnAway_recites (s : Encounter) (id : InstanceId) (spec : SummonSpec) :
    Recites [] s (s.turnAway id spec) := by
  have recorded : Recites [] s (s.record (.summonBlocked id spec)) := .of_notices_eq rfl
  unfold turnAway
  split
  · rename_i gremlin _
    have blocked : (Notice.summonBlocked gremlin.summary spec).severity ≠ .error := nofun
    exact recorded.andThen (.notify blocked _)
  · exact recorded

/-- Effects announce no scripted action and tell of no error. By the rules of what they come to. -/
theorem Unfolds.recites {offered : SummonSpec → Prop} {source : Option InstanceId}
    (unfolds : Unfolds offered source s s') : Recites [] s s' := by
  induction unfolds with
  | refl _ _ s => exact .refl s
  | plain _ duration effect ih =>
    exact ih.andThen (.of_notices_eq (applyPlain_notices _ duration _ effect))
  | reinstated _ duration ih =>
    exact ih.andThen (.of_notices_eq (reinstate_notices _ duration _))
  | blocked _ spec refused ih => exact ih.andThen (turnAway_recites _ _ spec)
  | @missing _ _ s s' after so_far spec among drawn ih =>
    have missing : (Notice.noTemplate spec).severity ≠ .error := nofun
    exact (ih.andThen (.of_notices_eq (drawn_notices drawn))).andThen (.notify missing after)
  | @joined _ source s s' after _ so_far spec template position allowed drawn _ ih later =>
    have same : after.notices = s'.notices := drawn_notices drawn
    have joins : Recites [] s' (after.welcome template position source) := .of_notices_eq same
    exact (ih.andThen joins).andThen later

theorem Beats.recites (beats : Beats s s') : Recites [] s s' := by
  induction beats with
  | refl => exact .refl s
  | tail _ last so_far =>
    cases last with
    | still same => exact so_far.andThen (.of_notices_eq same.notices)
    | turn present mover => exact so_far.andThen (.of_notices_eq rfl)
    | effects present unfolds => exact so_far.andThen unfolds.recites

theorem terminate_recites (s : Encounter) : Recites [] s s.terminate := by
  unfold terminate
  split
  · exact .refl s
  · have stopped : Recites [] s ({ s with clock := s.clock.terminate }.record .terminated) :=
      .of_notices_eq rfl
    have ended : (Notice.terminated s.now).severity ≠ .error := nofun
    exact stopped.andThen (.notify ended _)

theorem applyEffects_recites {source : Option InstanceId} {duration : Duration}
    {effects : List Effect} (success : s.applyEffects source duration effects = .ok s') :
    Recites [] s s' := by
  have unfolds : Unfolds (fun _ => True) source s s' :=
    applyEffects_unfolds (fun _ _ => trivial) success
  exact unfolds.recites

theorem bury_recites (success : s.bury id = .ok s') : Recites [] s s' := by
  rcases bury_eq_ok success with ⟨_, rfl⟩ | ⟨gremlin, avenged, _, avenges, rfl⟩
  · exact .refl s'
  · have died : (Notice.died gremlin.summary avenged.now).severity ≠ .error := nofun
    have left : Recites [] avenged
        ((({ avenged with board := avenged.board.remove id }.releasePassive id).observe
          .gremlinKilled).record (.died id gremlin.template.id)) := .of_notices_eq rfl
    exact ((applyEffects_recites avenges).andThen left).andThen (.notify died _)

theorem pruneDead_recites (success : s.pruneDead = .ok s') : Recites [] s s' := by
  obtain ⟨after, burials, ended⟩ := bind_eq_ok.mp success
  have buried : Recites [] s after := .foldlM bury_recites burials
  cases ended
  split
  · exact buried.andThen after.terminate_recites
  · exact buried

theorem Ensues.recites {told : Encounter} {killed : Bool} (ensues : Ensues told killed s') :
    Recites [] told s' := by
  cases ensues with
  | burial _ prunes => exact pruneDead_recites prunes
  | nothing _ same => exact .of_notices_eq (same ▸ rfl)

theorem advance_recites (orderly : Orderly s)
    (sound : ∀ template ∈ s.bestiary.templates, template.Sound) (living : s.Living)
    (success : s.advance = .ok s') : Recites [] s s' := by
  obtain ⟨_, last, beats, rfl⟩ := advance_beats orderly sound living success
  have begun : Recites [] s s.begun := .of_notices_eq rfl
  have ticked := begun.andThen beats.recites
  split
  · exact ticked.andThen last.terminate_recites
  · exact ticked

theorem introduce_recites (s : Encounter) : Recites [] s s.introduce := by
  unfold introduce
  generalize s.board.gremlins = gremlins
  induction gremlins generalizing s with
  | nil => exact .refl s
  | cons gremlin rest ih =>
    have registered : (Notice.registered gremlin.template.displayName gremlin.id).severity ≠
      .error := nofun
    exact (Recites.notify registered s).trans (ih _)

/-- Introductions are only told. -/
theorem introduce_eq (s : Encounter) : ∃ notices, s.introduce = { s with notices } := by
  unfold introduce
  generalize s.board.gremlins = gremlins
  induction gremlins generalizing s with
  | nil => exact ⟨s.notices, rfl⟩
  | cons gremlin rest ih => exact ih _

/-! ### Scripted actions -/

/-- A blow against somebody who is there fails in no other way than by summons without end. -/
theorem applyHit_atMostEndless (present : id ∈ s.board.ids) (hit : Hit) :
    AtMostEndless (s.applyHit id hit) := by
  obtain ⟨gremlin, found⟩ := Board.mem_ids_iff.mp present
  rw [applyHit, found]
  dsimp only
  split
  · exact (pruneDead_atMostEndless _).bind fun _ => .ok _
  · exact .ok _

theorem execute_atMostEndless (present : id ∈ s.board.ids) : AtMostEndless (s.execute id) := by
  obtain ⟨gremlin, found⟩ := Board.mem_ids_iff.mp present
  rw [execute, found]
  dsimp only
  split
  · exact (pruneDead_atMostEndless _).bind fun _ => .ok _
  · exact .ok _

theorem heal_atMostEndless (present : id ∈ s.board.ids) (amount : Nat) :
    AtMostEndless (s.heal id amount) := by
  obtain ⟨gremlin, found⟩ := Board.mem_ids_iff.mp present
  rw [heal, found]
  exact .ok _

/-- A failure that ends a run is not told, so an action that goes on has not had one. -/
theorem AtMostEndless.report_ne_ok {α : Type} {result : Except EncounterError α}
    (limited : AtMostEndless result) {reason : EncounterError} (failed : result = .error reason) :
    s.report reason ≠ .ok s' := by
  intro told
  exact (report_eq_ok.mp told).1 (limited.only reason failed)

/-- Whom a target stands for is there, and nobody twice. -/
theorem targets_subset (s : Encounter) (target : String) :
    (s.targets target).Sublist s.board.ids := by
  have targetable := s.board.targetable_sublist
  unfold targets
  split
  · exact (List.take_sublist 1 _).trans targetable
  · split
    · exact List.filter_sublist.map _
    · exact ((List.take_sublist 1 _).trans List.filter_sublist).trans targetable

theorem warnIfNone_recites (s : Encounter) (target : String) :
    Recites [] s (s.warnIfNone target) := by
  have unmatched : (Notice.noTarget target s.now).severity ≠ .error := nofun
  unfold warnIfNone
  split
  · exact .notify unmatched s
  · exact .refl s

theorem warnIfNone_ids (s : Encounter) (target : String) :
    (s.warnIfNone target).board.ids = s.board.ids := by
  unfold warnIfNone
  split <;> rfl

/-- Hits pass over whoever has left in the meantime. -/
theorem hitEach_recites {hit : Hit} {force : Option Force} {ids : List InstanceId}
    (success : hitEach hit force ids s = .ok s') : Recites [] s s' := by
  induction ids generalizing s with
  | nil =>
    cases success
    exact .refl _
  | cons id rest ih =>
    rw [hitEach] at success
    split at success
    · rename_i alive
      have found := Option.isSome_iff_exists.mp (Option.isSome_of_any alive)
      cases struck : s.applyHit id hit with
      | ok result =>
        rw [struck] at success
        obtain ⟨gremlin, _, _, ensues⟩ := applyHit_eq_ok struck
        have told : Recites [] s ((s.modify id fun _ => (gremlin.applyHit hit).1).record
            (.hit id (gremlin.applyHit hit).2)) := .of_notices_eq rfl
        have observed : Recites [] result.1 (result.1.observe (.damage force result.2.applied)) :=
          .of_notices_eq rfl
        exact ((told.andThen ensues.recites).andThen observed).andThen (ih success)
      | error reason =>
        rw [struck] at success
        have present : id ∈ s.board.ids := Board.mem_ids_iff.mpr found
        exact absurd success ((applyHit_atMostEndless present hit).report_ne_ok struck)
    · exact ih success

/-- Healing takes nobody off the board. -/
theorem healEach_recites {amount : Nat} {ids : List InstanceId}
    (present : ∀ id ∈ ids, id ∈ s.board.ids) (success : healEach amount ids s = .ok s') :
    Recites [] s s' := by
  induction ids generalizing s with
  | nil =>
    cases success
    exact .refl _
  | cons id rest ih =>
    rw [List.forall_mem_cons] at present
    rw [healEach] at success
    cases healed : s.heal id amount with
    | ok after =>
      rw [healed] at success
      obtain ⟨_, _, rfl⟩ := heal_eq_ok healed
      have same : (s.modify id (·.heal amount)).board.ids = s.board.ids :=
        Board.ids_modify fun gremlin => (gremlin.heal_id amount).trans
      have mended : Recites [] s (s.modify id (·.heal amount)) := .of_notices_eq rfl
      exact mended.andThen (ih (same ▸ present.2) success)
    | error reason =>
      rw [healed] at success
      exact absurd success ((heal_atMostEndless present.1 amount).report_ne_ok healed)

section Sound

variable {bestiary : Bestiary} (sound : ∀ template ∈ bestiary.templates, template.Sound)

include sound

/-- An execute takes nobody but its target off the board. -/
theorem Reachable.executeEach_recites (reachable : Reachable bestiary s) {ids : List InstanceId}
    (distinct : ids.Nodup) (present : ∀ id ∈ ids, id ∈ s.board.ids)
    (success : executeEach ids s = .ok s') : Recites [] s s' := by
  induction ids generalizing s with
  | nil =>
    cases success
    exact .refl _
  | cons id rest ih =>
    rw [List.nodup_cons] at distinct
    rw [executeEach] at success
    generalize seen : s.observe .executionAttempt = watched at success
    have watches : (Operation.observe .executionAttempt).run s = .ok watched :=
      congrArg Except.ok seen
    have same : watched.board.ids = s.board.ids := seen ▸ Board.ids_map fun _ => rfl
    have reached := reachable.step _ watches
    rw [← same, List.forall_mem_cons] at present
    cases struck : watched.execute id with
    | ok result =>
      rw [struck] at success
      have strikes : (Operation.execute id).run watched = .ok result.1 :=
        map_fst_eq_ok.mpr ⟨result.2, struck⟩
      have stay : ∀ other ∈ rest, other ∈ result.1.board.ids := by
        intro other member
        refine Decidable.byContradiction fun left => ?_
        have victim := (reached.not_mem_iff_victim sound strikes (present.2 other member)).mp left
        rw [Operation.victim] at victim
        split at victim
        · exact distinct.1 (Option.some.inj victim ▸ member)
        · cases victim
      obtain ⟨gremlin, _, _, ensues⟩ := execute_eq_ok struck
      have told : Recites [] watched ((watched.modify id fun _ => gremlin.execute.1).record
          (.executed id gremlin.execute.2)) := .of_notices_eq rfl
      have observed : Recites [] s watched := .of_notices_eq (seen ▸ rfl)
      exact (observed.andThen (told.andThen ensues.recites)).andThen
        (ih (reached.step _ strikes) distinct.2 stay success)
    | error reason =>
      rw [struck] at success
      exact absurd success ((execute_atMostEndless present.1).report_ne_ok struck)

/-- A scripted action is announced once, and does not fail. -/
theorem Reachable.perform_recites (reachable : Reachable bestiary s) {action : ScriptedAction}
    (success : s.perform action = .ok s') : Recites [action] s s' := by
  have announced : Recites [action] s (s.notify (.scripted action)) := by
    have fine : (Notice.scripted action).severity ≠ .error := nofun
    exact .notify fine s
  refine announced.andThen ?_
  have reached := reachable.step (.notify (.scripted action)) rfl
  unfold perform at success
  generalize s.notify (.scripted action) = told at success reached
  have distinct := (reached.boardSound sound).distinct
  have warned := fun target => told.warnIfNone_recites target
  have present : ∀ target, ∀ id ∈ told.targets target, id ∈ (told.warnIfNone target).board.ids :=
    fun target id member => told.warnIfNone_ids target ▸ (told.targets_subset target).subset member
  cases action with
  | gain force amount =>
    cases success
    exact .of_notices_eq rfl
  | spend force amount =>
    cases success
    have spent : Recites [] told (told.spend force amount).1 := .of_notices_eq rfl
    have unable : (Notice.unableToSpend amount force).severity ≠ .error := nofun
    dsimp only
    split
    · exact spent
    · exact spent.andThen (.notify unable _)
  | hit target damage pierce force => exact (warned target).andThen (hitEach_recites success)
  | execute target =>
    have onward : Reachable bestiary (told.warnIfNone target) :=
      reached.runAll (told.warning_runs target)
    exact (warned target).andThen (onward.executeEach_recites sound
      ((told.targets_subset target).nodup distinct) (present target) success)
  | heal target amount =>
    exact (warned target).andThen (healEach_recites (present target) success)
  | playCard =>
    cases success
    exact .of_notices_eq rfl
  | observe seen =>
    cases success
    exact .of_notices_eq rfl

end Sound

end Calls

end Encounter

end Gremlin
