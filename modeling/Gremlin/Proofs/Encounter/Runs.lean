import Gremlin.Catalog
import Gremlin.Proofs.Encounter.Failures
import Gremlin.Proofs.Encounter.Forward
import Gremlin.Proofs.Encounter.Scripts

set_option autoImplicit false

/-!
How whole runs end. A run is a course of ticks and scripted operations. The clock runs on for as long
as anybody is left; what empties the board stops it, and nothing is written after that. So a run
either clears the board or goes on to its last tick.
-/

namespace Gremlin

open Gremlin.Random (Generator)

namespace Encounter

/-! ### Runs as operations -/

/-- What a run under a script does. -/
inductive Operation.OfRun (script : List ScriptEntry) : Operation → Prop
  | introduction (notice : Notice) : OfRun script (.notify notice)
  | tick : OfRun script .advance
  | scripted {entry : ScriptEntry} (member : entry ∈ script) (s : Encounter)
      {operation : Operation} (part : operation ∈ s.operations entry.action) :
      OfRun script operation

theorem Operation.OfRun.advance_or_scripted {script : List ScriptEntry} {operation : Operation}
    (ofRun : operation.OfRun script) : operation = .advance ∨ operation.isScripted = true := by
  cases ofRun with
  | introduction notice => exact .inr rfl
  | tick => exact .inl rfl
  | scripted member s part => exact .inr (s.operations_scripted _ operation part)

/-- Without blows in its script a run does none. -/
theorem Operation.OfRun.harmless {script : List ScriptEntry}
    (gentle : ∀ entry ∈ script, entry.action.isBlow = false) {operation : Operation}
    (ofRun : operation.OfRun script) : operation.isBlow = false := by
  cases ofRun with
  | introduction | tick => rfl
  | scripted member s part => exact s.operations_harmless (gentle _ member) operation part

section Runs

variable {s s' : Encounter}

theorem performAll_runs {actions : List ScriptedAction} (success : performAll actions s = .ok s') :
    ∃ operations, Operation.runAll s operations = .ok s' ∧
      ∀ operation ∈ operations, ∃ action ∈ actions, ∃ here : Encounter,
        operation ∈ here.operations action := by
  induction actions generalizing s with
  | nil => exact ⟨[], success, List.forall_mem_nil _⟩
  | cons action rest ih =>
    rw [performAll] at success
    split at success
    · exact ⟨[], success, List.forall_mem_nil _⟩
    · split at success
      · rename_i after performed
        obtain ⟨operations, ran, others⟩ := ih success
        refine ⟨s.operations action ++ operations,
          Operation.runAll_append.mpr ⟨after, perform_runs performed, ran⟩,
          List.forall_mem_append.mpr ⟨fun operation part =>
            ⟨action, List.mem_cons_self, s, part⟩, fun operation member => ?_⟩⟩
        obtain ⟨other, later, here, part⟩ := others operation member
        exact ⟨other, List.mem_cons_of_mem _ later, here, part⟩
      · cases success

theorem runScript_runs {tick : Nat} (success : s.runScript tick = .ok s') :
    ∃ operations, Operation.runAll s operations = .ok s' ∧
      ∀ operation ∈ operations, operation.OfRun s.script ∧ operation ≠ .advance := by
  obtain ⟨operations, ran, parts⟩ := performAll_runs success
  refine ⟨operations, ran, fun operation member => ?_⟩
  obtain ⟨action, among, here, part⟩ := parts operation member
  obtain ⟨entry, entries, rfl⟩ := List.mem_map.mp among
  exact ⟨.scripted (List.mem_of_mem_filter entries) here part,
    Operation.ne_advance_of_isScripted (here.operations_scripted entry.action operation part)⟩

theorem introduce_runs (s : Encounter) :
    Operation.runAll s (s.board.gremlins.map fun gremlin =>
      .notify (.registered gremlin.template.displayName gremlin.id)) = .ok s.introduce := by
  unfold introduce
  generalize s.board.gremlins = gremlins
  induction gremlins generalizing s with
  | nil => rfl
  | cons gremlin rest ih => exact Operation.runAll_cons.mpr ⟨_, rfl, ih _⟩

/-- Between ticks the time and the layout stay as they are. -/
theorem still_of_runAll {operations : List Operation}
    (between : ∀ operation ∈ operations, operation ≠ .advance)
    (success : Operation.runAll s operations = .ok s') :
    s'.now = s.now ∧ s'.layout = s.layout := by
  refine foldlM_preserves (motive := fun after : Encounter =>
    after.now = s.now ∧ after.layout = s.layout) operations ?_ ⟨rfl, rfl⟩ success
  intro here operation there member ⟨now, layout⟩ ran
  have concludes := operation.concludes (between operation member) ran
  exact ⟨concludes.now_eq.trans now, concludes.layout_eq.trans layout⟩

theorem introduce_still (s : Encounter) :
    s.introduce.now = s.now ∧ s.introduce.layout = s.layout := by
  refine still_of_runAll (fun operation member same => ?_) s.introduce_runs
  obtain ⟨gremlin, _, rfl⟩ := List.mem_map.mp member
  cases same

/-- A run that is under way ends where the clock has stopped, or goes through another tick and what
the script lays down for it. -/
theorem drive_succ_eq_ok {ticks : Nat} (success : drive (ticks + 1) s = .ok s') :
    s.clock.terminated = true ∧ s' = s ∨ ∃ after here, s.advance = .ok after ∧
      after.runScript after.now.count = .ok here ∧ drive ticks here = .ok s' := by
  rw [drive] at success
  split at success
  · rename_i stopped
    cases success
    exact .inl ⟨stopped, rfl⟩
  · split at success
    · rename_i after ticked
      split at success
      · rename_i here performed
        exact .inr ⟨after, here, ticked, performed, success⟩
      · cases success
    · cases success

section Sound

variable {bestiary : Bestiary} (sound : ∀ template ∈ bestiary.templates, template.Sound)

include sound

theorem Reachable.ticks_of_advance (reachable : Reachable bestiary s)
    (success : s.advance = .ok s') :
    s.clock.terminated = false ∧ s'.now.count = s.now.count + 1 ∧ s'.layout = s.layout := by
  have standing := reachable.standing sound
  obtain ⟨running, concludes⟩ := advance_concludes standing.orderly (standing.known ▸ sound)
    standing.living success
  exact ⟨running, congrArg Ticks.count concludes.now_eq, concludes.layout_eq⟩

/-- A run that is under way goes on for as many ticks as it is given, or until the clock stops. -/
theorem Reachable.drive_runs (reachable : Reachable bestiary s) {ticks : Nat}
    (success : drive ticks s = .ok s') :
    ∃ operations, Operation.runAll s operations = .ok s' ∧
      (∀ operation ∈ operations, operation.OfRun s.script) ∧ s'.layout = s.layout ∧
      s'.now.count ≤ s.now.count + ticks ∧
      (s'.clock.terminated = false → s'.now.count = s.now.count + ticks) := by
  induction ticks generalizing s with
  | zero =>
    cases success
    exact ⟨[], rfl, List.forall_mem_nil _, rfl, Nat.le_refl _, fun _ => rfl⟩
  | succ ticks ih =>
    rcases drive_succ_eq_ok success with
      ⟨stopped, rfl⟩ | ⟨after, here, ticked, performed, success⟩
    · refine ⟨[], rfl, List.forall_mem_nil _, rfl, Nat.le_add_right _ _, fun running => ?_⟩
      rw [stopped] at running
      cases running
    · obtain ⟨_, time, layout⟩ := reachable.ticks_of_advance sound ticked
      obtain ⟨acts, acted, parts⟩ := runScript_runs performed
      obtain ⟨now, kept⟩ :=
        still_of_runAll (fun operation member => (parts operation member).2) acted
      have onward := (reachable.step .advance ticked).runAll acted
      obtain ⟨others, ran, rest, same, bound, lasts⟩ := ih onward success
      have script : here.script = s.script :=
        congrArg Layout.script (kept.trans layout)
      have script' : after.script = s.script := congrArg Layout.script layout
      refine ⟨.advance :: (acts ++ others), ?_, ?_, same.trans (kept.trans layout), ?_, ?_⟩
      · exact Operation.runAll_cons.mpr ⟨after, ticked, Operation.runAll_append.mpr
          ⟨here, acted, ran⟩⟩
      · refine List.forall_mem_cons.mpr ⟨.tick, List.forall_mem_append.mpr ⟨?_, ?_⟩⟩
        · exact fun operation member => script' ▸ (parts operation member).1
        · exact fun operation member => script ▸ rest operation member
      · rw [now] at bound
        omega
      · intro running
        have reached := lasts running
        rw [now] at reached
        omega

/-- A run comes to ticks and what its script lays down, and lasts to its last tick unless the clock
stops. -/
theorem Reachable.finish_runs (reachable : Reachable bestiary s)
    (early : s.now.count ≤ s.maxTicks) (success : s.finish = .ok s') :
    ∃ operations, Operation.runAll s operations = .ok s' ∧
      (∀ operation ∈ operations, operation.OfRun s.script) ∧ s'.layout = s.layout ∧
      s'.now.count ≤ s.maxTicks ∧
      (s'.clock.terminated = false → s'.now.count = s.maxTicks) := by
  obtain ⟨after, performed, driven⟩ := bind_eq_ok.mp success
  have introduced := s.introduce_runs
  obtain ⟨now, layout⟩ := s.introduce_still
  obtain ⟨acts, acted, parts⟩ := runScript_runs performed
  obtain ⟨now', layout'⟩ :=
    still_of_runAll (fun operation member => (parts operation member).2) acted
  have onward := (reachable.runAll introduced).runAll acted
  obtain ⟨others, ran, rest, same, bound, lasts⟩ := onward.drive_runs sound driven
  have script : s.introduce.script = s.script := congrArg Layout.script layout
  have script' : after.script = s.script := congrArg Layout.script (layout'.trans layout)
  have last : after.maxTicks = s.maxTicks := congrArg Layout.maxTicks (layout'.trans layout)
  have time : after.now.count = s.now.count := congrArg Ticks.count (now'.trans now)
  refine ⟨_ ++ (acts ++ others), Operation.runAll_append.mpr ⟨_, introduced,
    Operation.runAll_append.mpr ⟨after, acted, ran⟩⟩, ?_, same.trans (layout'.trans layout), ?_, ?_⟩
  · refine List.forall_mem_append.mpr ⟨fun operation member => ?_,
      List.forall_mem_append.mpr ⟨?_, ?_⟩⟩
    · obtain ⟨gremlin, _, rfl⟩ := List.mem_map.mp member
      exact .introduction _
    · exact fun operation member => script ▸ (parts operation member).1
    · exact fun operation member => script' ▸ rest operation member
  · rw [last, time] at bound
    omega
  · intro running
    have reached := lasts running
    rw [last, time] at reached
    omega

end Sound

end Runs

/-! ### The end of a fight -/

/-- The clock runs, and no end has been told. -/
structure Running (s : Encounter) : Prop where
  going : s.clock.terminated = false
  unended : ∀ line ∈ s.journal.toList, line.event ≠ .terminated

/-- Nobody is left and the clock has stopped, which is the last thing that was told. -/
structure Finished (s : Encounter) : Prop where
  stopped : s.clock.terminated = true
  nobody : s.board.ids = []
  last : ∃ before, s.journal.toList = before ++ [⟨s.now, .terminated⟩] ∧
    ∀ line ∈ before, line.event ≠ .terminated

section End

variable {s s' : Encounter}

theorem Running.writes {kind : Event → Prop} (running : s.Running) (writes : Writes kind s s')
    (others : ∀ event, kind event → event.isClock = false) : s'.Running := by
  obtain ⟨lines, journal, told⟩ := writes.lines
  refine ⟨(congrArg Clock.terminated writes.clock).trans running.going, ?_⟩
  rw [journal]
  refine List.forall_mem_append.mpr ⟨running.unended, fun line member same => ?_⟩
  have clock := others _ (told line member).2
  rw [same] at clock
  cases clock

theorem Running.begun (running : s.Running) : s.begun.Running := by
  refine ⟨running.going, ?_⟩
  rw [begun_journal]
  exact List.forall_mem_append.mpr ⟨running.unended, List.forall_mem_singleton.mpr
    fun same => by cases same⟩

theorem Running.terminate (running : s.Running) (nobody : s.board.ids = []) :
    s.terminate.Finished := by
  unfold Encounter.terminate
  rw [if_neg (Bool.eq_false_iff.mp running.going)]
  exact ⟨rfl, nobody, s.journal.toList, Array.toList_push .., running.unended⟩

/-- Unless by will, a fight only ends when nobody is left. -/
theorem Running.concludes {ids : List InstanceId} {byWill : Prop} (running : s.Running)
    (concludes : Concludes (Event.OfTurns ids) byWill s s') (unwilled : ¬ byWill) :
    s'.Running ∨ s'.Finished := by
  obtain ⟨after, writes, ended⟩ := concludes.writes
  have onward := running.writes writes fun event told => told.isClock
  rcases ended with same | ⟨same, willed | empty⟩
  · exact .inl (same ▸ onward)
  · exact absurd willed unwilled
  · exact .inr (same ▸ onward.terminate (isEmpty_iff.mp empty))

/-- A script can do nothing to an empty board. -/
theorem Finished.step (finished : s.Finished) {operation : Operation}
    (scripted : operation.isScripted = true) (success : operation.run s = .ok s') :
    s'.Finished := by
  have nobody : ∀ id, s.board.get? id = none := by
    intro id
    rw [Board.get?_eq_none_iff, finished.nobody]
    exact List.not_mem_nil
  cases operation with
  | hit id given =>
    obtain ⟨_, struck, _⟩ := map_eq_ok.mp success
    rw [applyHit, nobody] at struck
    cases struck
  | execute id =>
    obtain ⟨_, struck, _⟩ := map_eq_ok.mp success
    rw [Encounter.execute, nobody] at struck
    cases struck
  | heal id amount =>
    change s.heal id amount = .ok s' at success
    rw [Encounter.heal, nobody] at success
    cases success
  | gain | spend | notify =>
    cases success
    exact ⟨finished.stopped, finished.nobody, finished.last⟩
  | observe action =>
    cases success
    have kept : (s.board.map (·.observe action)).ids = s.board.ids := Board.ids_map fun _ => rfl
    exact ⟨finished.stopped, kept.trans finished.nobody, finished.last⟩
  | spawn | effect | terminate | advance | reseed | nest => cases scripted

section Sound

variable {bestiary : Bestiary} (sound : ∀ template ∈ bestiary.templates, template.Sound)

include sound

/-- What a run does leaves the clock running, or stops it because nobody is left. -/
theorem Reachable.course_of_step (reachable : Reachable bestiary s) {script : List ScriptEntry}
    {operation : Operation} (ofRun : operation.OfRun script) (success : operation.run s = .ok s')
    (course : s.Running ∨ s.Finished) : s'.Running ∨ s'.Finished := by
  rcases ofRun.advance_or_scripted with rfl | scripted
  · have standing := reachable.standing sound
    obtain ⟨going, concludes⟩ := advance_concludes standing.orderly (standing.known ▸ sound)
      standing.living success
    rcases course with running | finished
    · exact running.begun.concludes concludes not_false
    · rw [finished.stopped] at going
      cases going
  · rcases course with running | finished
    · refine running.concludes (operation.concludes
        (Operation.ne_advance_of_isScripted scripted) success) ?_
      rintro rfl
      cases scripted
    · exact .inr (finished.step scripted success)

theorem Reachable.course_of_runAll (reachable : Reachable bestiary s) {script : List ScriptEntry}
    {operations : List Operation} (parts : ∀ operation ∈ operations, operation.OfRun script)
    (success : Operation.runAll s operations = .ok s') (course : s.Running ∨ s.Finished) :
    s'.Running ∨ s'.Finished := by
  refine (foldlM_preserves (motive := fun after : Encounter =>
    Reachable bestiary after ∧ (after.Running ∨ after.Finished)) operations ?_
    ⟨reachable, course⟩ success).2
  intro here operation there member ⟨so_far, course⟩ ran
  exact ⟨so_far.step operation ran, so_far.course_of_step sound (parts operation member) ran course⟩

/-- Without blows nobody leaves. -/
theorem Reachable.stays_of_runAll (reachable : Reachable bestiary s) {operations : List Operation}
    (harmless : ∀ operation ∈ operations, operation.isBlow = false)
    (success : Operation.runAll s operations = .ok s') {id : InstanceId} {gremlin : Instance}
    (found : s.board.get? id = some gremlin) :
    ∃ gremlin', s'.board.get? id = some gremlin' ∧ gremlin'.template = gremlin.template := by
  refine (foldlM_preserves (motive := fun after : Encounter => Reachable bestiary after ∧
    ∃ gremlin', after.board.get? id = some gremlin' ∧ gremlin'.template = gremlin.template)
    operations ?_ ⟨reachable, gremlin, found, rfl⟩ success).2
  intro here operation there member ⟨so_far, early, present, same⟩ ran
  have on_board : id ∈ here.board.ids := Board.mem_ids_iff.mpr ⟨early, present⟩
  have stays : id ∈ there.board.ids := by
    refine Decidable.byContradiction fun left => ?_
    have victim := (so_far.not_mem_iff_victim sound ran on_board).mp left
    rw [Operation.victim_of_not_blow (harmless operation member)] at victim
    cases victim
  obtain ⟨gremlin', after⟩ := Board.mem_ids_iff.mp stays
  have used := (so_far.standing sound).orderly.numbered.below id on_board
  obtain ⟨old, before, kind⟩ := so_far.template_of_step sound ran after used
  rw [present] at before
  cases before
  exact ⟨so_far.step operation ran, gremlin', after, kind.trans same⟩

end Sound

end End

/-! ### The beginning of a fight -/

theorem Effected.ids_ne_nil {s s' : Encounter} (effected : Effected s s')
    (inhabited : s.board.ids ≠ []) : s'.board.ids ≠ [] := by
  induction effected with
  | refl => exact inhabited
  | tail _ last so_far =>
    rcases last with deed | arrival
    · exact deed.undisturbed.ids ▸ so_far
    · exact arrival.ids_ne_nil

theorem spawn_ids_ne_nil {templateId : String} {s s' : Encounter} {id : InstanceId}
    (success : s.spawn templateId = .ok (s', id)) : s'.board.ids ≠ [] := by
  obtain ⟨template, found, _, entered⟩ := spawn_eq_ok success
  exact (enterPassive_effected entered).ids_ne_nil
    (Arrival.spawned s template (Bestiary.mem_of_get? found)).ids_ne_nil

/-- A scenario puts somebody on the board. -/
theorem ofScenario_ids_ne_nil {scenario : Scenario} {bestiary : Bestiary} {s : Encounter}
    (success : ofScenario scenario bestiary = .ok s) : s.board.ids ≠ [] := by
  obtain ⟨several, _, start, _, _, _, spawns⟩ := ofScenario_laid success
  obtain ⟨first, rest, given⟩ := List.exists_cons_of_ne_nil several
  have each : ∀ {here there : Encounter} {templateId : String},
      (here.spawn templateId).map (·.1) = .ok there → there.board.ids ≠ [] := by
    intro here there templateId success
    obtain ⟨joined, spawned⟩ := map_fst_eq_ok.mp success
    exact spawn_ids_ne_nil spawned
  rw [given, List.foldlM_cons] at spawns
  obtain ⟨after, spawned, spawns⟩ := bind_eq_ok.mp spawns
  exact foldlM_preserves (motive := fun here : Encounter => here.board.ids ≠ []) rest
    (fun _ _ _ _ _ stepped => each stepped) (each spawned) spawns

theorem ofScenario_running {scenario : Scenario} {bestiary : Bestiary} {s : Encounter}
    (success : ofScenario scenario bestiary = .ok s) : s.clock = {} ∧ s.Running := by
  obtain ⟨start, blank, clock, _, writes⟩ := ofScenario_writes success
  have begins : start.Running := by
    refine ⟨by rw [clock], ?_⟩
    rw [blank.journal]
    exact List.forall_mem_nil _
  exact ⟨writes.clock.trans clock, begins.writes writes fun event told => told.isClock⟩

/-! ### How runs end -/

/-- A run ends at its last tick with somebody left and no end told, or, by then, with nobody left,
which is the last thing that is told. -/
inductive Ends (s : Encounter) (result : RunResult) : Prop
  | timeout (verdict : result.verdict = .timeout) (ticks : result.ticks.count = s.maxTicks)
      (survivors : result.survivors ≠ [])
      (unended : ∀ line ∈ result.events.toList, line.event ≠ .terminated) : Ends s result
  | cleared (verdict : result.verdict = .cleared) (ticks : result.ticks.count ≤ s.maxTicks)
      (survivors : result.survivors = [])
      (last : ∃ before, result.events.toList = before ++ [⟨result.ticks, .terminated⟩] ∧
        ∀ line ∈ before, line.event ≠ .terminated) : Ends s result

/-- What a run of an encounter results in. -/
structure Outcome (s : Encounter) (result : RunResult) : Prop where
  ends : Ends s result
  ticks : result.events.toList.filter (·.event.isTick) = tickMarks result.ticks.count
  ordered : (result.events.toList.map (·.now.count)).Pairwise (· ≤ ·)
  peaceful : (∀ entry ∈ s.script, entry.action.isBlow = false) →
    result.verdict = .timeout ∧ ∀ gremlin ∈ s.board.gremlins, ∃ summary ∈ result.survivors,
      summary.id = gremlin.id ∧ summary.templateId = gremlin.template.id

/-- An outcome is one of all encounters with the same layout and the same board. -/
theorem Outcome.congr {s s' : Encounter} {result : RunResult} (layout : s'.layout = s.layout)
    (board : s'.board = s.board) (outcome : Outcome s' result) : Outcome s result := by
  have maxTicks : s'.maxTicks = s.maxTicks := congrArg Layout.maxTicks layout
  have script : s'.script = s.script := congrArg Layout.script layout
  refine ⟨?_, outcome.ticks, outcome.ordered, script ▸ board ▸ outcome.peaceful⟩
  cases outcome.ends with
  | timeout verdict ticks survivors unended =>
    exact .timeout verdict (ticks.trans maxTicks) survivors unended
  | cleared verdict ticks survivors last => exact .cleared verdict (maxTicks ▸ ticks) survivors last

section Sound

variable {bestiary : Bestiary} (sound : ∀ template ∈ bestiary.templates, template.Sound)
  {s s' : Encounter}

include sound

theorem Reachable.ends_of_finish (reachable : Reachable bestiary s) (running : s.Running)
    (inhabited : s.board.ids ≠ []) (early : s.now.count ≤ s.maxTicks)
    (success : s.finish = .ok s') : Ends s s'.result := by
  obtain ⟨operations, ran, parts, _, bound, lasts⟩ := reachable.finish_runs sound early success
  have standing := (reachable.runAll ran).standing sound
  rcases reachable.course_of_runAll sound parts ran (.inl running) with running' | finished
  · have grown := (reachable.not_mem_of_later sound (later_of_runAll ran)).1
    obtain ⟨id, member⟩ := List.exists_mem_of_ne_nil _ inhabited
    have used := (reachable.standing sound).orderly.numbered.below id member
    have some : s'.board.ids ≠ [] := by
      intro nobody
      have stopped := standing.settled (by omega) nobody
      rw [running'.going] at stopped
      cases stopped
    refine .timeout ?_ (lasts running'.going) ?_ running'.unended
    · exact if_neg fun empty => some (isEmpty_iff.mp empty)
    · exact fun none => some (List.map_eq_nil_iff.mpr (List.map_eq_nil_iff.mp none))
  · refine .cleared ?_ bound ?_ finished.last
    · exact if_pos (isEmpty_iff.mpr finished.nobody)
    · exact List.map_eq_nil_iff.mpr (List.map_eq_nil_iff.mp finished.nobody)

theorem Reachable.outcome_of_finish (reachable : Reachable bestiary s) (running : s.Running)
    (inhabited : s.board.ids ≠ []) (early : s.now.count ≤ s.maxTicks)
    (success : s.finish = .ok s') : Outcome s s'.result := by
  obtain ⟨operations, ran, parts, _⟩ := reachable.finish_runs sound early success
  have ends := reachable.ends_of_finish sound running inhabited early success
  have chronicle := (reachable.runAll ran).chronicle sound
  refine ⟨ends, chronicle.ticks, chronicle.ordered, fun gentle => ?_⟩
  have survive : ∀ gremlin ∈ s.board.gremlins, ∃ summary ∈ s'.result.survivors,
      summary.id = gremlin.id ∧ summary.templateId = gremlin.template.id := by
    intro gremlin present
    have found := Board.get?_of_mem (reachable.standing sound).orderly.numbered.distinct present
    obtain ⟨gremlin', after, kind⟩ := reachable.stays_of_runAll sound
      (fun operation member => (parts operation member).harmless gentle) ran found
    exact ⟨gremlin'.summary, List.mem_map_of_mem (Board.mem_of_get? after),
      Board.id_of_get? after, congrArg Template.id kind⟩
  refine ⟨?_, survive⟩
  cases ends with
  | timeout verdict => exact verdict
  | cleared _ _ survivors =>
    obtain ⟨id, member⟩ := List.exists_mem_of_ne_nil _ inhabited
    obtain ⟨gremlin, present, _⟩ := List.mem_map.mp member
    obtain ⟨summary, left, _⟩ := survive gremlin present
    rw [survivors] at left
    cases left

end Sound

/-- A run of a scenario, with whatever generator, fails in no other way than by summons without end,
so that it never asks a stopped clock for a tick. If it comes to an end, it ends with the board
empty, which is the last thing that is told, or at its last tick; every tick is told of once, at its
time and in order; and without hits and executes in its script everyone it starts with survives. -/
theorem run_outcome {records : List Record} {scenario : Scenario} {s : Encounter}
    (arranged : ofScenario scenario (Bestiary.load records).1 = .ok s) (depth : Nat)
    {run : Except EncounterError RunResult}
    (runs : run = ({ s with nesting := depth } : Encounter).runOnce ∨
      ∃ generator, run = ({ s with nesting := depth } : Encounter).runOnceWith generator) :
    AtMostEndless run ∧ ∀ result, run = .ok result → Outcome s result := by
  have sound : ∀ template ∈ (Bestiary.load records).1.templates, template.Sound :=
    fun _ member => Bestiary.sound_of_mem_load member
  obtain ⟨clock, running⟩ := ofScenario_running arranged
  have inhabited := ofScenario_ids_ne_nil arranged
  obtain ⟨generator, rfl⟩ : ∃ generator,
      run = ({ s with nesting := depth } : Encounter).runOnceWith generator := by
    rcases runs with own | given
    · exact ⟨s.generator, own⟩
    · exact given
  generalize started : ({ s with nesting := depth, generator } : Encounter) = start
  have reachable : Reachable (Bestiary.load records).1 start := by
    rw [← started]
    exact ((Reachable.arranged arranged).step (.nest depth) rfl).step (.reseed generator) rfl
  have result_eq : ({ s with nesting := depth } : Encounter).runOnceWith generator =
      start.finish.map Encounter.result := by
    rw [← started]
    rfl
  rw [result_eq]
  refine ⟨start.finish_atMostEndless.map, fun result success => ?_⟩
  obtain ⟨last, finishes, rfl⟩ := map_eq_ok.mp success
  have fresh : start.clock = {} := by
    rw [← started]
    exact clock
  have going : start.Running := by
    rw [← started]
    exact ⟨running.going, running.unended⟩
  have same : start.layout = s.layout ∧ start.board = s.board := by
    rw [← started]
    exact ⟨rfl, rfl⟩
  refine Outcome.congr same.1 same.2 (reachable.outcome_of_finish sound going ?_ ?_ finishes)
  · rw [same.2]
    exact inhabited
  · rw [now, fresh]
    exact Nat.zero_le _

/-- A bestiary of mites. -/
def mites : Bestiary := (Bestiary.load (Catalog.small.filter (·.templateId = "dust_mite"))).1

/-- Three ticks with a mite. -/
def miteFight (script : List ScriptEntry) : Except EncounterError Encounter :=
  ofScenario { gremlins := ["dust_mite"], maxTicks := some 3, script } mites

/-- A mite that is hit to death after the second tick ends a run, and one that is left alone outlives
it. -/
theorem run_outcome_mite :
    (∃ s result, miteFight [⟨2, .hit "all" 50 true none⟩] = .ok s ∧ s.runOnce = .ok result ∧
      result.verdict = .cleared ∧ result.ticks = ⟨2⟩ ∧ Outcome s result) ∧
    ∃ s result, miteFight [] = .ok s ∧ s.runOnce = .ok result ∧ result.verdict = .timeout ∧
      result.ticks = ⟨3⟩ ∧ Outcome s result := by
  have runs : ∀ {script : List ScriptEntry} {verdict : Verdict} {ticks : Ticks},
      ((miteFight script).toOption.bind fun s =>
        s.runOnce.toOption.map fun result => (result.verdict, result.ticks)) =
        some (verdict, ticks) →
      ∃ s result, miteFight script = .ok s ∧ s.runOnce = .ok result ∧ result.verdict = verdict ∧
        result.ticks = ticks ∧ Outcome s result := by
    intro script verdict ticks ran
    obtain ⟨s, arranged, shown⟩ := toOption_bind_eq_some.mp ran
    obtain ⟨result, finished, facts⟩ := toOption_map_eq_some.mp shown
    obtain ⟨verdict, ticks⟩ := Prod.mk.inj facts
    exact ⟨s, result, arranged, finished, verdict, ticks,
      (run_outcome arranged s.nesting (.inl rfl)).2 result finished⟩
  exact ⟨runs (by decide +kernel), runs (by decide +kernel)⟩

end Encounter

end Gremlin
