import Gremlin.Proofs.Encounter.Recitals
import Gremlin.Proofs.Encounter.Runs

set_option autoImplicit false

/-!
How scripts are played. A run plays the entries of its script in the order of their ticks, each with
the clock at its own, for as long as the clock runs. Only an entry can stop the clock, by taking the
last gremlin off the board.
-/

namespace Gremlin

open Gremlin.Random (Generator)

/-! ### The order of a script -/

/-- The entries of a script from the first tick to the last; those of a tick stay in their order. -/
def playOrder (script : List ScriptEntry) : List ScriptEntry :=
  script.mergeSort fun entry other => decide (entry.tick ≤ other.tick)

/-- What a script lays down for so many ticks, tick by tick. -/
def laidDown (script : List ScriptEntry) (first count : Nat) : List ScriptEntry :=
  (List.range' first count).flatMap fun tick => script.filter (·.tick = tick)

theorem laidDown_succ (script : List ScriptEntry) (first count : Nat) :
    laidDown script first (count + 1) =
      script.filter (·.tick = first) ++ laidDown script (first + 1) count := by
  rw [laidDown, List.range'_succ, List.flatMap_cons]
  rfl

theorem tick_le_trans (a b c : ScriptEntry) (early : decide (a.tick ≤ b.tick) = true)
    (late : decide (b.tick ≤ c.tick) = true) : decide (a.tick ≤ c.tick) = true :=
  decide_eq_true (Nat.le_trans (of_decide_eq_true early) (of_decide_eq_true late))

theorem tick_le_total (a b : ScriptEntry) :
    (decide (a.tick ≤ b.tick) || decide (b.tick ≤ a.tick)) = true := by
  simpa using Nat.le_total a.tick b.tick

theorem playOrder_sorted (script : List ScriptEntry) :
    (playOrder script).Pairwise fun entry other => entry.tick ≤ other.tick :=
  (List.pairwise_mergeSort tick_le_trans tick_le_total script).imp of_decide_eq_true

/-- Sorting changes nothing within a tick: what a tick has is sorted already, so it stays a sublist,
and nothing is added. -/
theorem filter_playOrder (script : List ScriptEntry) (tick : Nat) :
    (playOrder script).filter (·.tick = tick) = script.filter (·.tick = tick) := by
  have level : (script.filter (·.tick = tick)).Pairwise fun entry other =>
      decide (entry.tick ≤ other.tick) = true := by
    apply List.pairwise_of_forall_mem_list
    intro entry member other member'
    simp only [List.mem_filter, decide_eq_true_eq] at member member' ⊢
    omega
  have kept : (script.filter (·.tick = tick)).Sublist (playOrder script) :=
    List.sublist_mergeSort tick_le_trans tick_le_total level List.filter_sublist
  have all : (script.filter (·.tick = tick)).Sublist
      ((playOrder script).filter (·.tick = tick)) := by
    have both := kept.filter (·.tick = tick)
    simpa only [List.filter_filter, Bool.and_self] using both
  have permuted : (playOrder script).Perm script := List.mergeSort_perm script _
  exact (all.eq_of_length (permuted.filter _).length_eq.symm).symm

/-- A sorted list begins with what it has for its first tick. -/
theorem filter_append_filter_of_sorted {entries : List ScriptEntry} {first : Nat}
    (sorted : entries.Pairwise fun entry other => entry.tick ≤ other.tick)
    (above : ∀ entry ∈ entries, first ≤ entry.tick) :
    entries.filter (·.tick = first) ++ entries.filter (·.tick ≠ first) = entries := by
  induction entries with
  | nil => rfl
  | cons entry rest ih =>
    rw [List.pairwise_cons] at sorted
    rw [List.forall_mem_cons] at above
    have onward := ih sorted.2 above.2
    by_cases here : entry.tick = first
    · simpa [here] using onward
    · have none : rest.filter (·.tick = first) = [] := by
        rw [List.filter_eq_nil_iff]
        intro other member
        have later := sorted.1 other member
        simp only [decide_eq_true_eq]
        omega
      rw [none, List.nil_append] at onward
      simpa [here, none] using onward

/-- A sorted list is what it lays down tick by tick. By induction on the number of ticks. -/
theorem laidDown_of_sorted {entries : List ScriptEntry} {first count : Nat}
    (sorted : entries.Pairwise fun entry other => entry.tick ≤ other.tick)
    (within : ∀ entry ∈ entries, first ≤ entry.tick ∧ entry.tick < first + count) :
    laidDown entries first count = entries := by
  induction count generalizing entries first with
  | zero =>
    have none : entries = [] := by
      refine List.eq_nil_iff_forall_not_mem.mpr fun entry member => ?_
      have bounds := within entry member
      omega
    rw [none]
    rfl
  | succ count ih =>
    have apart : laidDown entries (first + 1) count =
        laidDown (entries.filter (·.tick ≠ first)) (first + 1) count := by
      refine List.flatMap_congr fun tick member => ?_
      have later := (List.mem_range'_1.mp member).1
      rw [List.filter_filter]
      refine List.filter_congr fun entry _ => ?_
      by_cases here : entry.tick = tick
      · have other : tick ≠ first := by omega
        simp [here, other]
      · simp [here]
    rw [laidDown_succ, apart, ih (sorted.filter _)]
    · exact filter_append_filter_of_sorted sorted fun entry member => (within entry member).1
    · intro entry member
      obtain ⟨among, other⟩ := List.mem_filter.mp member
      have bounds := within entry among
      have apart := of_decide_eq_true other
      omega

/-- A script that ends in time is played in its order. -/
theorem laidDown_eq_playOrder {script : List ScriptEntry} {last : Nat}
    (timely : ∀ entry ∈ script, entry.tick ≤ last) :
    laidDown script 0 (last + 1) = playOrder script := by
  have alike : laidDown script 0 (last + 1) = laidDown (playOrder script) 0 (last + 1) :=
    List.flatMap_congr fun tick _ => (filter_playOrder script tick).symm
  rw [alike]
  refine laidDown_of_sorted (playOrder_sorted script) fun entry member => ?_
  have bound := timely entry ((List.mergeSort_perm script _).mem_iff.mp member)
  omega

namespace Encounter

/-! ### Stages of a run -/

/-- An entry of a script is played at its tick while the clock runs. -/
structure Plays (entry : ScriptEntry) (s s' : Encounter) : Prop where
  due : entry.tick = s.now.count
  running : s.clock.terminated = false
  performed : s.perform entry.action = .ok s'

/-- The stages that a run comes to from its start, and the entries it has played by then. Between
them it takes ticks, and nothing else. -/
inductive Replays (start : Encounter) : List ScriptEntry → Encounter → Prop
  | start : Replays start [] start
  | ticked {played : List ScriptEntry} {s s' : Encounter} (so_far : Replays start played s)
      (success : s.advance = .ok s') : Replays start played s'
  | played {played : List ScriptEntry} {entry : ScriptEntry} {s s' : Encounter}
      (so_far : Replays start played s) (plays : Plays entry s s') :
      Replays start (played ++ [entry]) s'

/-- An action takes no time and leaves the layout alone. -/
theorem Plays.still {entry : ScriptEntry} {s s' : Encounter} (plays : Plays entry s s') :
    s'.now = s.now ∧ s'.layout = s.layout :=
  still_of_runAll (fun operation part =>
    Operation.ne_advance_of_isScripted (s.operations_scripted entry.action operation part))
    (perform_runs plays.performed)

/-- How a run stands at a stage: under way with somebody on the board, or just ended by an entry
that took the last ones off it. -/
inductive Stands (start : Encounter) (played : List ScriptEntry) (s : Encounter) : Prop
  | underWay (running : s.Running) (inhabited : s.board.ids ≠ [])
  | emptied (finished : s.Finished) {before : List ScriptEntry} {entry : ScriptEntry}
      {here : Encounter} (last : played = before ++ [entry]) (earlier : Replays start before here)
      (inhabited : here.board.ids ≠ []) (plays : Plays entry here s)

section Sound

variable {bestiary : Bestiary} (sound : ∀ template ∈ bestiary.templates, template.Sound)
  {start s s' : Encounter} {played : List ScriptEntry}

include sound

omit sound in
theorem Replays.reachable (replays : Replays start played s)
    (reachable : Reachable bestiary start) : Reachable bestiary s := by
  induction replays with
  | start => exact reachable
  | ticked _ success so_far => exact so_far.step .advance success
  | played _ plays so_far => exact so_far.runAll (perform_runs plays.performed)

theorem Replays.recites (replays : Replays start played s)
    (reachable : Reachable bestiary start) : Recites (played.map (·.action)) start s := by
  induction replays with
  | start => exact .refl start
  | ticked earlier success so_far =>
    have standing := (earlier.reachable reachable).standing sound
    exact so_far.andThen
      (advance_recites standing.orderly (standing.known ▸ sound) standing.living success)
  | played earlier plays so_far =>
    have performed := (earlier.reachable reachable).perform_recites sound plays.performed
    rw [List.map_append]
    exact so_far.trans performed

/-- Ticks leave everyone on the board. -/
theorem Reachable.inhabited_of_advance (reachable : Reachable bestiary s)
    (inhabited : s.board.ids ≠ []) (success : s.advance = .ok s') : s'.board.ids ≠ [] := by
  obtain ⟨id, present⟩ := List.exists_mem_of_ne_nil _ inhabited
  have ticked : Operation.advance.run s = .ok s' := success
  have stays : id ∈ s'.board.ids := by
    refine Decidable.byContradiction fun left => ?_
    cases (reachable.not_mem_iff_victim sound ticked present).mp left
  exact List.ne_nil_of_mem stays

theorem Replays.stands (replays : Replays start played s) (reachable : Reachable bestiary start)
    (running : start.Running) (inhabited : start.board.ids ≠ []) : Stands start played s := by
  induction replays with
  | start => exact .underWay running inhabited
  | @ticked _ s s' earlier success so_far =>
    have reached := earlier.reachable reachable
    cases so_far with
    | underWay running inhabited =>
      have peopled := reached.inhabited_of_advance sound inhabited success
      have ticks : Operation.OfRun [] .advance := .tick
      rcases reached.course_of_step sound ticks success (.inl running) with onward | finished
      · exact .underWay onward peopled
      · exact absurd finished.nobody peopled
    | emptied finished =>
      obtain ⟨going, _⟩ := reached.ticks_of_advance sound success
      rw [finished.stopped] at going
      cases going
  | @played before entry s s' earlier plays so_far =>
    have reached := earlier.reachable reachable
    have ran := perform_runs plays.performed
    cases so_far with
    | underWay running inhabited =>
      have parts : ∀ operation ∈ s.operations entry.action, operation.OfRun [entry] :=
        fun operation part => .scripted List.mem_cons_self s part
      rcases reached.course_of_runAll sound parts ran (.inl running) with onward | finished
      · obtain ⟨id, member⟩ := List.exists_mem_of_ne_nil _ inhabited
        have used := (reached.standing sound).orderly.numbered.below id member
        have grown := (reached.not_mem_of_later sound (later_of_runAll ran)).1
        refine .underWay onward fun nobody => ?_
        have stopped := ((reached.runAll ran).standing sound).settled (by omega) nobody
        rw [onward.going] at stopped
        cases stopped
      · exact .emptied finished rfl earlier inhabited plays
    | emptied finished =>
      have going := plays.running
      rw [finished.stopped] at going
      cases going

end Sound

/-! ### Playing a script -/

/-- From `s` to `s'` a run plays a list of entries for as long as the clock runs. -/
structure Unrolls (entries : List ScriptEntry) (s s' : Encounter) : Prop where
  unrolled : ∃ done, done <+: entries ∧ (s'.clock.terminated = false → done = entries) ∧
    (s.clock.terminated = true → done = [] ∧ s' = s) ∧
    ∀ {start : Encounter} {before : List ScriptEntry},
      Replays start before s → Replays start (before ++ done) s'

namespace Unrolls

variable {entries rest : List ScriptEntry} {s s' s'' : Encounter}

theorem of_stopped (stopped : s.clock.terminated = true) : Unrolls entries s s := by
  refine ⟨[], List.nil_prefix, fun going => ?_, fun _ => ⟨rfl, rfl⟩, fun replays => ?_⟩
  · rw [stopped] at going
    cases going
  · rwa [List.append_nil]

theorem refl (s : Encounter) : Unrolls [] s s := by
  refine ⟨[], List.nil_prefix, fun _ => rfl, fun _ => ⟨rfl, rfl⟩, fun replays => ?_⟩
  rwa [List.append_nil]

theorem plays {entry : ScriptEntry} (plays : Plays entry s s') : Unrolls [entry] s s' := by
  refine ⟨[entry], List.prefix_refl _, fun _ => rfl, fun stopped => ?_, fun replays =>
    replays.played plays⟩
  rw [plays.running] at stopped
  cases stopped

theorem ticks (running : s.clock.terminated = false) (success : s.advance = .ok s') :
    Unrolls [] s s' := by
  refine ⟨[], List.nil_prefix, fun _ => rfl, fun stopped => ?_, fun replays => ?_⟩
  · rw [running] at stopped
    cases stopped
  · rw [List.append_nil]
    exact replays.ticked success

/-- Where the clock has stopped nothing more is played, and before that nothing is left out. -/
theorem trans (first : Unrolls entries s s') (second : Unrolls rest s' s'') :
    Unrolls (entries ++ rest) s s'' := by
  obtain ⟨done, early, whole, idle, replayed⟩ := first.unrolled
  obtain ⟨done', early', whole', idle', replayed'⟩ := second.unrolled
  refine ⟨done ++ done', ?_, ?_, ?_, fun replays => ?_⟩
  · cases stopped : s'.clock.terminated with
    | true =>
      rw [(idle' stopped).1, List.append_nil]
      exact List.prefix_append_of_prefix early
    | false =>
      rw [whole stopped]
      exact (List.prefix_append_right_inj entries).mpr early'
  · intro going
    cases stopped : s'.clock.terminated with
    | true =>
      rw [(idle' stopped).2, stopped] at going
      cases going
    | false => rw [whole stopped, whole' going]
  · intro stopped
    obtain ⟨rfl, rfl⟩ := idle stopped
    exact idle' stopped
  · rw [← List.append_assoc]
    exact replayed' (replayed replays)

end Unrolls

section Runs

variable {s s' : Encounter}

theorem performAll_unrolls {entries : List ScriptEntry}
    (due : ∀ entry ∈ entries, entry.tick = s.now.count)
    (success : performAll (entries.map (·.action)) s = .ok s') :
    Unrolls entries s s' ∧ s'.now = s.now ∧ s'.layout = s.layout := by
  induction entries generalizing s with
  | nil =>
    cases success
    exact ⟨.refl _, rfl, rfl⟩
  | cons entry rest ih =>
    rw [List.forall_mem_cons] at due
    rw [List.map_cons, performAll] at success
    split at success
    · rename_i stopped
      cases success
      exact ⟨.of_stopped stopped, rfl, rfl⟩
    · rename_i running
      split at success
      · rename_i after performed
        have plays : Plays entry s after := ⟨due.1, Bool.eq_false_iff.mpr running, performed⟩
        obtain ⟨now, layout⟩ := plays.still
        obtain ⟨onward, now', layout'⟩ := ih (now ▸ due.2) success
        exact ⟨(Unrolls.plays plays).trans onward, now'.trans now, layout'.trans layout⟩
      · cases success

theorem runScript_unrolls (success : s.runScript s.now.count = .ok s') :
    Unrolls (s.script.filter (·.tick = s.now.count)) s s' ∧ s'.now = s.now ∧
      s'.layout = s.layout := by
  refine performAll_unrolls (fun entry member => ?_) success
  exact of_decide_eq_true (List.mem_filter.mp member).2

section Sound

variable {bestiary : Bestiary} (sound : ∀ template ∈ bestiary.templates, template.Sound)

include sound

/-- By induction on the ticks left: a tick is followed by what the script lays down for it. -/
theorem Reachable.drive_unrolls (reachable : Reachable bestiary s) {ticks : Nat}
    (success : drive ticks s = .ok s') :
    Unrolls (laidDown s.script (s.now.count + 1) ticks) s s' := by
  induction ticks generalizing s with
  | zero =>
    cases success
    exact .refl _
  | succ ticks ih =>
    rcases drive_succ_eq_ok success with
      ⟨stopped, rfl⟩ | ⟨after, here, ticked, performed, success⟩
    · exact .of_stopped stopped
    · obtain ⟨running, time, layout⟩ := reachable.ticks_of_advance sound ticked
      obtain ⟨operations, acted, _⟩ := runScript_runs performed
      obtain ⟨plays, now, layout'⟩ := runScript_unrolls performed
      have onward := ih ((reachable.step .advance ticked).runAll acted) success
      have script : after.script = s.script := congrArg Layout.script layout
      have script' : here.script = s.script := congrArg Layout.script (layout'.trans layout)
      rw [script, time] at plays
      rw [script', now, time] at onward
      rw [laidDown_succ]
      exact ((Unrolls.ticks running ticked).trans plays).trans onward

/-- A run plays its whole script for as long as the clock runs. -/
theorem Reachable.finish_unrolls (reachable : Reachable bestiary s) (fresh : s.now.count = 0)
    (success : s.finish = .ok s') :
    Unrolls (laidDown s.script 0 (s.maxTicks + 1)) s.introduce s' := by
  obtain ⟨after, performed, driven⟩ := bind_eq_ok.mp success
  have introduced := s.introduce_runs
  obtain ⟨now, layout⟩ := s.introduce_still
  rw [← fresh, ← now] at performed
  obtain ⟨operations, acted, _⟩ := runScript_runs performed
  obtain ⟨plays, now', layout'⟩ := runScript_unrolls performed
  have drives := ((reachable.runAll introduced).runAll acted).drive_unrolls sound driven
  have script : s.introduce.script = s.script := congrArg Layout.script layout
  have script' : after.script = s.script := congrArg Layout.script (layout'.trans layout)
  have last : after.maxTicks = s.maxTicks := congrArg Layout.maxTicks (layout'.trans layout)
  rw [script, now, fresh] at plays
  rw [script', last, now', now, fresh] at drives
  rw [laidDown_succ]
  exact plays.trans drives

end Sound

end Runs

/-- No entry of a scenario's script comes after its last tick. -/
theorem ofScenario_timely {scenario : Scenario} {bestiary : Bestiary} {s : Encounter}
    (success : ofScenario scenario bestiary = .ok s) :
    ∀ entry ∈ scenario.script, entry.tick ≤ (asked scenario bestiary).maxTicks := by
  obtain ⟨_, _, timely, _⟩ := ofScenario_eq_ok success
  exact timely

/-- What a run that starts at `start` and ends at `last` has made of its script. -/
structure Replayed (script : List ScriptEntry) (start last : Encounter)
    (played : List ScriptEntry) : Prop where
  replays : Replays start.introduce played last
  ordered : played <+: playOrder script
  told : Recites (played.map (·.action)) start last
  whole : last.result.verdict = .timeout → played = playOrder script
  emptied : last.result.verdict = .cleared → ∃ before entry here, played = before ++ [entry] ∧
    Replays start.introduce before here ∧ here.board.ids ≠ [] ∧ Plays entry here last ∧
    last.board.ids = []

theorem Reachable.replayed_of_finish {bestiary : Bestiary}
    (sound : ∀ template ∈ bestiary.templates, template.Sound) {s s' : Encounter}
    (reachable : Reachable bestiary s) (running : s.Running) (inhabited : s.board.ids ≠ [])
    (fresh : s.now.count = 0) (timely : ∀ entry ∈ s.script, entry.tick ≤ s.maxTicks)
    (success : s.finish = .ok s') : ∃ played, Replayed s.script s s' played := by
  have unrolls := reachable.finish_unrolls sound fresh success
  rw [laidDown_eq_playOrder timely] at unrolls
  obtain ⟨played, ordered, whole, _, replayed⟩ := unrolls.unrolled
  have replays : Replays s.introduce played s' := replayed .start
  have introduced := reachable.runAll s.introduce_runs
  have told := s.introduce_recites.trans (replays.recites sound introduced)
  obtain ⟨notices, same⟩ := s.introduce_eq
  have stands : Stands s.introduce played s' := by
    refine replays.stands sound introduced ?_ ?_
    · rw [same]
      exact ⟨running.going, running.unended⟩
    · rw [same]
      exact inhabited
  refine ⟨played, replays, ordered, told, fun timeout => ?_, fun cleared => ?_⟩
  · cases stands with
    | underWay onward => exact whole onward.going
    | emptied finished =>
      have empty : s'.board.isEmpty = true := isEmpty_iff.mpr finished.nobody
      rw [result, empty] at timeout
      cases timeout
  · cases stands with
    | underWay _ peopled =>
      have some : ¬ s'.board.isEmpty = true := fun empty => peopled (isEmpty_iff.mp empty)
      rw [result] at cleared
      dsimp only at cleared
      rw [if_neg some] at cleared
      cases cleared
    | @emptied finished before entry here last earlier peopled plays =>
      exact ⟨before, entry, here, last, earlier, peopled, plays, finished.nobody⟩

/-- A run of a scenario, with whatever generator, plays its script in the order of its ticks, each
entry once and with the clock at its tick: all of it if the ticks run out, and up to the entry that
empties the board if one does. It announces what it plays and nothing else; and at whatever stage it
is, even if it does not come to an end, nothing in it has failed. -/
theorem script_replayed {records : List Record} {scenario : Scenario} {s start : Encounter}
    (arranged : ofScenario scenario (Bestiary.load records).1 = .ok s)
    (copied : ∃ depth generator, start = { s with nesting := depth, generator }) :
    (∀ played here, Replays start.introduce played here →
      Recites (played.map (·.action)) start here) ∧
    ∀ result, start.runOnce = .ok result →
      ∃ played last, result = last.result ∧ Replayed scenario.script start last played := by
  have sound : ∀ template ∈ (Bestiary.load records).1.templates, template.Sound :=
    fun _ member => Bestiary.sound_of_mem_load member
  obtain ⟨depth, generator, rfl⟩ := copied
  obtain ⟨clock, running⟩ := ofScenario_running arranged
  obtain ⟨_, _, _, asks, writes⟩ := ofScenario_writes arranged
  have layout : s.layout = asked scenario (Bestiary.load records).1 := writes.layout.trans asks
  have script : s.script = scenario.script := congrArg Layout.script layout
  have maxTicks : s.maxTicks = (asked scenario (Bestiary.load records).1).maxTicks :=
    congrArg Layout.maxTicks layout
  have inhabited := ofScenario_ids_ne_nil arranged
  have timely := ofScenario_timely arranged
  rw [← script, ← maxTicks] at timely
  have fresh : s.now.count = 0 := by rw [now, clock]
  rw [← script]
  generalize copied : ({ s with nesting := depth, generator } : Encounter) = start
  have reachable : Reachable (Bestiary.load records).1 start := by
    rw [← copied]
    exact ((Reachable.arranged arranged).step (.nest depth) rfl).step (.reseed generator) rfl
  constructor
  · intro played here replays
    have introduced := reachable.runAll start.introduce_runs
    exact start.introduce_recites.trans (replays.recites sound introduced)
  · intro result success
    obtain ⟨last, finished, rfl⟩ := map_eq_ok.mp success
    subst copied
    obtain ⟨played, replayed⟩ := reachable.replayed_of_finish sound
      ⟨running.going, running.unended⟩ inhabited fresh timely finished
    exact ⟨played, last, rfl, replayed⟩

/-- A fight with a mite under a script that is not in the order of its ticks, with a hit that ends
it after the second one, and without. -/
theorem script_replayed_mite :
    (∃ s last played,
      miteFight [⟨3, .playCard⟩, ⟨2, .hit "all" 50 true none⟩, ⟨0, .gain .heat 4⟩] = .ok s ∧
      s.runOnce = .ok last.result ∧ last.result.verdict = .cleared ∧
      played.map (·.action) = [.gain .heat 4, .hit "all" 50 true none] ∧
      Replayed [⟨3, .playCard⟩, ⟨2, .hit "all" 50 true none⟩, ⟨0, .gain .heat 4⟩] s last played) ∧
    ∃ s last, miteFight [⟨3, .playCard⟩, ⟨0, .gain .heat 4⟩] = .ok s ∧
      s.runOnce = .ok last.result ∧ last.result.verdict = .timeout ∧
      Replayed [⟨3, .playCard⟩, ⟨0, .gain .heat 4⟩] s last
        [⟨0, .gain .heat 4⟩, ⟨3, .playCard⟩] := by
  have runs : ∀ {script : List ScriptEntry} {verdict : Verdict} {actions : List ScriptedAction},
      ((miteFight script).toOption.bind fun s => s.runOnce.toOption.map fun result =>
        (s.notices.toList, result.verdict, result.notices.toList.filterMap Notice.scripted?)) =
          some ([], verdict, actions) →
      ∃ s last played, miteFight script = .ok s ∧ s.runOnce = .ok last.result ∧
        last.result.verdict = verdict ∧ played.map (·.action) = actions ∧
        Replayed script s last played := by
    intro script verdict actions ran
    obtain ⟨s, arranged, shown⟩ := toOption_bind_eq_some.mp ran
    obtain ⟨result, finished, facts⟩ := toOption_map_eq_some.mp shown
    obtain ⟨played, last, rfl, replayed⟩ :=
      (script_replayed arranged ⟨s.nesting, s.generator, rfl⟩).2 result finished
    obtain ⟨told, notices, announced, _⟩ := replayed.told.told
    simp only [Prod.mk.injEq] at facts
    obtain ⟨silent, verdict, announces⟩ := facts
    have same : last.result.notices.toList = told := by
      rw [silent, List.nil_append] at notices
      exact notices
    rw [same, announced] at announces
    exact ⟨s, last, played, arranged, finished, verdict, announces, replayed⟩
  refine ⟨runs (by decide +kernel), ?_⟩
  have order : playOrder [⟨3, .playCard⟩, ⟨0, .gain .heat 4⟩] =
      [⟨0, .gain .heat 4⟩, ⟨3, .playCard⟩] := by
    have timely : ∀ entry ∈ ([⟨3, .playCard⟩, ⟨0, .gain .heat 4⟩] : List ScriptEntry),
        entry.tick ≤ 3 := by
      decide
    rw [← laidDown_eq_playOrder timely]
    decide
  have whole : ∃ s last played, miteFight [⟨3, .playCard⟩, ⟨0, .gain .heat 4⟩] = .ok s ∧
      s.runOnce = .ok last.result ∧ last.result.verdict = .timeout ∧
      played.map (·.action) = [.gain .heat 4, .playCard] ∧
      Replayed [⟨3, .playCard⟩, ⟨0, .gain .heat 4⟩] s last played :=
    runs (by decide +kernel)
  obtain ⟨s, last, played, arranged, finished, timeout, _, replayed⟩ := whole
  exact ⟨s, last, arranged, finished, timeout, (replayed.whole timeout).trans order ▸ replayed⟩

end Encounter

end Gremlin
