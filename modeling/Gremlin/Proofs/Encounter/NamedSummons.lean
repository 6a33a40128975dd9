import Gremlin.Proofs.Encounter.Notices

set_option autoImplicit false

/-!
Summons that name their template. Over a closed bestiary each of them is answered once: somebody new
of that template joins, or the summoner is told that it may not summon. Nobody is ever told that the
template is missing.
-/

namespace Gremlin

/-- Newcomers and those after them do not summon in the name of somebody who was there before. -/
theorem Event.OfEffects.summoner?_ne {doer newcomer : InstanceId} {next : Nat} {event : Event}
    (told : OfEffects (some newcomer) next event) (earlier : doer.value < newcomer.value)
    (fresh : newcomer.value ≤ next) : event.summoner? ≠ some doer := by
  cases told with
  | aside aside =>
    rw [Event.summoner?_of_aside aside]
    exact (Option.some_ne_none doer).symm
  | summoned id whose =>
    rintro ⟨⟩
    rcases whose with same | ⟨other, same, later⟩
    · cases same
      exact Nat.lt_irrefl _ earlier
    · cases same
      exact Nat.lt_irrefl _ (Nat.lt_of_lt_of_le earlier (Nat.le_trans fresh later))
  | blocked spec whose =>
    rintro ⟨⟩
    rcases whose with same | later
    · cases same
      exact Nat.lt_irrefl _ earlier
    · exact Nat.lt_irrefl _ (Nat.lt_of_lt_of_le earlier (Nat.le_trans fresh later))

namespace Encounter

/-- How a summon that names a template is answered: a gremlin of that template joins with the next
number, which nobody on the board has, or the summoner is turned away. -/
inductive Answer (bestiary : Bestiary) (doer : InstanceId) (target : String)
    (here next : Encounter) : Event → Prop
  | joins {newcomer : Instance} (number : newcomer.id = ⟨here.board.next⟩)
      (fresh : newcomer.id ∉ here.board.ids)
      (joined : next.board.get? newcomer.id = some newcomer)
      (known : newcomer.template ∈ bestiary.templates) (named : newcomer.template.id = target)
      (raised : newcomer.summoner = some doer) :
      Answer bestiary doer target here next (.summoned (some doer) newcomer.id)
  | blocked (refused : here.board.canSummon doer = false) :
      Answer bestiary doer target here next (.summonBlocked doer (.named target))

section Answered

variable {bestiary : Bestiary} {batch : Batch} {here next : Encounter} {target : String}

/-- A newcomer is still there, as what it was, after all that it leads to on joining the board. -/
theorem Stocked.newcomer {after : Encounter} {template : Template} {position : SummonPosition}
    {doer : InstanceId} (stocked : Stocked bestiary here)
    (drawn : here.summonTemplate (here.ownTemplate (some doer)) (.named target) =
      (some template, after))
    (allowed : here.board.canSummon doer = true)
    (led : Effected (after.welcome template position (some doer)) next) :
    Answer bestiary doer target here next (.summoned (some doer) ⟨here.board.next⟩) := by
  obtain ⟨_, _, board⟩ := drawn_same drawn
  have found : here.bestiary.get? target = some template := congrArg Prod.fst drawn
  have joins := Board.Numbered.get?_spawn_same template after.now position (some doer)
    (board.symm ▸ stocked.orderly.numbered)
  have welcomed := stocked.effected (welcome_effected position
    (fun _ given => Option.some.inj given ▸ allowed) drawn)
  obtain ⟨newcomer, joined, bare⟩ := led.bare_kept welcomed.orderly joins
  have kin := Instance.kin_of_bare bare
  have template_eq : newcomer.template = template := congrArg Kin.template kin
  have number : newcomer.id = ⟨here.board.next⟩ := board ▸ congrArg Kin.id kin
  rw [← number]
  refine .joins number ?_ ?_ ?_ ?_ (congrArg Kin.summoner kin)
  · rw [number]
    exact fun member => Nat.lt_irrefl _ (stocked.orderly.numbered.below _ member)
  · rw [number, ← board]
    exact joined
  · rw [template_eq, ← stocked.known]
    exact Bestiary.mem_of_get? found
  · rw [template_eq]
    simpa using List.find?_some found

/-- A summon of a batch that names a template of a closed bestiary is answered, by one event. -/
theorem Batch.answers (closed : Bestiary.Closed bestiary.templates)
    (stocked : Stocked bestiary here) (offers : here.Offers batch.doer (.named target))
    (done : batch.does here (.summon (.named target)) = .ok next) :
    ∃ lines event, next.journal.toList = here.journal.toList ++ lines ∧
      lines.filter (·.event.summoner? = some batch.doer) = [⟨here.now, event⟩] ∧
      Answer bestiary batch.doer target here next event := by
  rcases Batch.does_summon done with ⟨refused, rfl⟩ | ⟨after, drawn, _⟩ |
    ⟨after, template, position, allowed, drawn, _, enters⟩
  · refine ⟨_, _, here.turnAway_journal batch.doer (.named target), ?_, .blocked refused⟩
    exact List.filter_cons_of_pos (decide_eq_true rfl)
  · -- whom a template of the bestiary names is there
    obtain ⟨heir, member, named⟩ := stocked.heir closed offers
    have none : here.bestiary.get? target = none := congrArg Prod.fst drawn
    rw [stocked.known] at none
    exact absurd (decide_eq_true named) (List.find?_eq_none.mp none heir member)
  · obtain ⟨rest, journal, told⟩ := (enterPassive_writes enters).lines
    rw [welcome_journal drawn, List.append_assoc] at journal
    refine ⟨_, _, journal, ?_, stocked.newcomer drawn allowed (enterPassive_effected enters)⟩
    -- what the newcomer leads to is in its own name or in that of somebody newer
    obtain ⟨gremlin, present, _⟩ := offers
    have earlier : batch.doer.value < here.board.next :=
      stocked.orderly.numbered.below _ (Board.mem_ids_iff.mpr ⟨gremlin, present⟩)
    have others : rest.filter (·.event.summoner? = some batch.doer) = [] := by
      refine List.filter_eq_nil_iff.mpr fun line member own => ?_
      refine (told line member).2.summoner?_ne earlier ?_ (of_decide_eq_true own)
      rw [← (drawn_same drawn).2.2]
      exact Nat.le_succ _
    rw [List.filter_append, others, List.append_nil]
    exact List.filter_cons_of_pos (decide_eq_true rfl)

end Answered

/-- Whatever is done with an encounter over a loaded bestiary, each summon that names a template and
that a gremlin does on joining, on firing or entering a move, or on dying is answered by one event,
which stays in the journal. All summons in an operation are such ones, unless they are done from
outside, and nobody is told of a missing template that a summon names, unless from outside. -/
theorem named_summons_answered {records : List Record} {start s s' : Encounter}
    {operations : List Operation} {operation : Operation}
    (blank : Blank (Bestiary.load records).1 start)
    (ran : Operation.runAll start operations = .ok s) (success : operation.run s = .ok s') :
    (∀ batch target here, Occasion s operation batch →
      batch.Reaches (.summon (.named target)) here →
      ∃ next lines event, batch.does here (.summon (.named target)) = .ok next ∧
        next.journal.toList = here.journal.toList ++ lines ∧ Grows next s' ∧
        lines.filter (·.event.summoner? = some batch.doer) = [⟨here.now, event⟩] ∧
        Answer (Bestiary.load records).1 batch.doer target here next event) ∧
      ((∀ source duration given, operation ≠ .effect source duration given) →
        Logs (Accounted s operation) s s') ∧
      (operation.isDangling (Bestiary.load records).1 = false → Tells s s') := by
  have closed := Bestiary.load_closed records
  have stocked : Stocked (Bestiary.load records).1 s :=
    .of_standing (blank.standing_of_runAll (fun _ member => Bestiary.sound_of_mem_load member) ran)
  refine ⟨?_, fun within => operation.accounts within success,
    fun known => operation.tells closed stocked known success⟩
  intro batch target here occasion reaches
  obtain ⟨stocked', offers⟩ := (occasion.grounded stocked).reaches reaches
  obtain ⟨last, done, kept⟩ := occasion.completed success
  obtain ⟨next, answered, later⟩ := reaches.goes_on Batch.does_grows done
  obtain ⟨lines, event, journal, own, answer⟩ := Batch.answers closed stocked' offers answered
  exact ⟨next, lines, event, answered, journal, later.trans kept, own, answer⟩

/-- A chrysalis is killed by a hit: its last effect is answered, and nobody hears of a missing
template. -/
theorem named_summons_answered_chrysalis : ∃ (s s' here next : Encounter) (batch : Batch)
    (lines : List TimedEvent) (event : Event),
    Operation.runAll (new (Bestiary.load hatching).1 7) [.spawn "chrysalis"] = .ok s ∧
    Operation.run s (.hit ⟨0⟩ ⟨3, false⟩) = .ok s' ∧
    Occasion s (.hit ⟨0⟩ ⟨3, false⟩) batch ∧ batch.Reaches (.summon (.named "moth")) here ∧
    next.journal.toList = here.journal.toList ++ lines ∧ Grows next s' ∧
    lines.filter (·.event.summoner? = some batch.doer) = [⟨here.now, event⟩] ∧
    Answer (Bestiary.load hatching).1 batch.doer "moth" here next event ∧ Tells s s' := by
  have ran : ((Operation.runAll (new (Bestiary.load hatching).1 7)
      [.spawn "chrysalis"]).toOption.bind fun s => (s.board.get? ⟨0⟩).bind fun gremlin =>
        let struck := (s.modify ⟨0⟩ fun _ => (gremlin.applyHit ⟨3, false⟩).1).record
          (.hit ⟨0⟩ (gremlin.applyHit ⟨3, false⟩).2)
        (Operation.run s (.hit ⟨0⟩ ⟨3, false⟩)).toOption.map fun _ =>
          ((gremlin.applyHit ⟨3, false⟩).2.killed, struck.board.dead,
            (struck.burial? ⟨0⟩).map (·.effects))) =
      some (true, [⟨0⟩], some [.summon (.named "moth")]) := by
    decide +kernel
  obtain ⟨s, spawned, shown⟩ := toOption_bind_eq_some.mp ran
  obtain ⟨gremlin, found, shown⟩ := Option.bind_eq_some_iff.mp shown
  obtain ⟨s', hits, shown⟩ := toOption_map_eq_some.mp shown
  obtain ⟨killed, shown⟩ := Prod.mk.inj shown
  obtain ⟨dead, buries⟩ := Prod.mk.inj shown
  obtain ⟨batch, buries, effects⟩ := Option.map_eq_some_iff.mp buries
  -- the chrysalis is the only one to be buried, and the summon is all that its death does
  have occasion : Occasion s (.hit ⟨0⟩ ⟨3, false⟩) batch :=
    .buried (.hit found killed) ⟨[], [], dead, rfl⟩ buries
  have reaches : batch.Reaches (.summon (.named "moth")) batch.start := ⟨[], [], effects, rfl⟩
  obtain ⟨answers, _, tells⟩ := named_summons_answered (new_blank _ 7) spawned hits
  obtain ⟨next, lines, event, _, journal, kept, own, answer⟩ :=
    answers batch "moth" batch.start occasion reaches
  exact ⟨s, s', _, next, batch, lines, event, spawned, hits, occasion, reaches, journal, kept, own,
    answer, tells rfl⟩

end Encounter

end Gremlin
