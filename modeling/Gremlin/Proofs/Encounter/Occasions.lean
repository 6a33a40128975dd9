import Gremlin.Proofs.Encounter.Batches

set_option autoImplicit false

/-!
The batches of an operation. Every batch that a gremlin does in an operation which succeeds is done
in full, over a board with known gremlins, and what it writes stays in the journal.
-/

namespace Gremlin

namespace Encounter

/-! ### What is written is kept -/

section Grows

variable {s s' : Encounter} {id : InstanceId}

theorem holdMove_grows (success : s.holdMove id = .ok s') : Grows s s' :=
  (holdMove_writes success).journal_kept

theorem fireMove_grows (success : s.fireMove id = .ok s') : Grows s s' :=
  (fireMove_writes success).journal_kept

theorem changeMove_grows (success : s.changeMove id = .ok s') : Grows s s' :=
  (changeMove_writes success).journal_kept

theorem bury_grows (success : s.bury id = .ok s') : Grows s s' :=
  (bury_writes success).journal_kept

theorem terminate_logs {kind : Event → Prop} (told : kind .terminated) (s : Encounter) :
    Logs kind s s.terminate := by
  unfold terminate
  split
  · exact .of_journal_eq rfl
  · exact ⟨_, Array.toList_push .., List.forall_mem_singleton.mpr told⟩

/-- Everyone who is dead is buried in turn, and no summon is logged after that. -/
theorem exists_burials_of_pruneDead (success : s.pruneDead = .ok s') :
    ∃ after, s.board.dead.foldlM bury s = .ok after ∧ Logs (·.summoner? = none) after s' := by
  obtain ⟨after, burials, ended⟩ := bind_eq_ok.mp success
  refine ⟨after, burials, ?_⟩
  cases ended
  split
  · exact terminate_logs (by rfl) after
  · exact .of_journal_eq rfl

theorem pruneDead_grows (success : s.pruneDead = .ok s') : Grows s s' := by
  obtain ⟨after, burials, ends⟩ := exists_burials_of_pruneDead success
  exact (foldlM_grows bury_grows burials).trans ends.grows

end Grows

/-! ### Newcomers -/

/-- A summon brings in a newcomer, whatever it does on joining the board. -/
def BringsIn (s : Encounter) (source : Option InstanceId) (spec : SummonSpec)
    (newcomer : InstanceId) (welcomed : Encounter) : Prop :=
  ∀ enter, s.summon enter source spec = enter newcomer welcomed

theorem BringsIn.welcomes {s welcomed : Encounter} {source : Option InstanceId} {spec : SummonSpec}
    {newcomer : InstanceId} (brings : BringsIn s source spec newcomer welcomed) :
    ∃ after template position, (∀ id, source = some id → s.board.canSummon id = true) ∧
      s.summonTemplate (s.ownTemplate source) spec = (some template, after) ∧
      newcomer = ⟨after.board.next⟩ ∧ welcomed = after.welcome template position source := by
  -- a newcomer that fails tells who it is, and one that does nothing tells what it finds
  have fails := brings fun id _ => .error (.unknownInstance id)
  have joins := brings fun _ s => .ok s
  have way := summon_summoning (fun id _ => .error (.unknownInstance id)) source spec s
  have way' := summon_summoning (fun _ s => .ok s) source spec s
  rw [fails] at way
  rw [joins] at way'
  generalize named : Except.error (EncounterError.unknownInstance newcomer) = result at way
  generalize found : Except.ok welcomed = result' at way'
  cases way with
  | blocked => cases named
  | missing => cases named
  | joins after template _ allowed drawn =>
    cases named
    cases way' with
    | blocked id given refused =>
      rw [allowed id given] at refused
      cases refused
    | missing _ _ drawn' =>
      rw [drawn] at drawn'
      cases drawn'
    | joins _ _ position _ drawn' =>
      rw [drawn] at drawn'
      cases drawn'
      cases found
      exact ⟨after, template, position, allowed, drawn, rfl, rfl⟩

/-- Where those whom a source summons join the board. -/
def summonPosition (s : Encounter) (source : Option InstanceId) : SummonPosition :=
  ((s.ownTemplate source).map (·.targeting.summonPosition)).getD .bottom

/-- If the summoner may summon and there is a template, a newcomer of it is brought in. -/
theorem bringsIn_of_drawn {s after : Encounter} {source : Option InstanceId} {spec : SummonSpec}
    {template : Template} (allowed : ∀ id, source = some id → s.board.canSummon id = true)
    (drawn : s.summonTemplate (s.ownTemplate source) spec = (some template, after)) :
    BringsIn s source spec ⟨after.board.next⟩
      (after.welcome template (s.summonPosition source) source) := by
  intro enter
  rw [summon]
  split
  · rename_i id refuses
    obtain ⟨given, refused⟩ := Option.filter_eq_some_iff.mp refuses
    rw [allowed id given] at refused
    cases refused
  · dsimp only
    split
    · rename_i other drawn'
      cases drawn.symm.trans drawn'
    · rename_i other after' drawn'
      cases drawn.symm.trans drawn'
      unfold summonPosition ownTemplate
      generalize (source.bind s.board.get?).map (·.template) = own
      cases own <;> rfl

theorem BringsIn.stocked {bestiary : Bestiary} {s welcomed : Encounter}
    {source : Option InstanceId} {spec : SummonSpec} {newcomer : InstanceId}
    (brings : BringsIn s source spec newcomer welcomed) (stocked : Stocked bestiary s) :
    Stocked bestiary welcomed := by
  obtain ⟨after, template, position, allowed, drawn, _, rfl⟩ := brings.welcomes
  exact stocked.effected (welcome_effected position allowed drawn)

theorem arriving_stocked {bestiary : Bestiary} {s : Encounter} {template : Template}
    {templateId : String} (stocked : Stocked bestiary s)
    (known : s.bestiary.get? templateId = some template) :
    Stocked bestiary (s.arriving template templateId) := by
  have named : template.id = templateId := by simpa using List.find?_some known
  subst named
  exact stocked.effected (Arrival.spawned s template (Bestiary.mem_of_get? known)).effected

/-! ### Deaths -/

/-- What an operation leaves when it comes to bury the dead. -/
inductive Fells (s : Encounter) : Operation → Encounter → Prop
  | hit {id : InstanceId} {given : Hit} {gremlin : Instance}
      (found : s.board.get? id = some gremlin)
      (killed : (gremlin.applyHit given).2.killed = true) :
      Fells s (.hit id given) ((s.modify id fun _ => (gremlin.applyHit given).1).record
        (.hit id (gremlin.applyHit given).2))
  | execute {id : InstanceId} {gremlin : Instance} (found : s.board.get? id = some gremlin)
      (landed : gremlin.execute.2 = true) :
      Fells s (.execute id) ((s.modify id fun _ => gremlin.execute.1).record
        (.executed id gremlin.execute.2))
  | advance {held fired changed : Encounter} (holds : s.begun.applyPassives = .ok held)
      (fires : held.fireMoves = .ok fired) (changes : fired.runTransitions = .ok changed) :
      Fells s .advance changed.expire

section Fells

variable {s s' struck : Encounter} {operation : Operation}

theorem Fells.prunes (fells : Fells s operation struck) (success : operation.run s = .ok s') :
    struck.pruneDead = .ok s' := by
  cases fells with
  | hit found killed => exact Operation.hit_prunes found killed success
  | execute found landed => exact Operation.execute_prunes found landed success
  | advance holds fires changes =>
    obtain ⟨_, _, _, _, holds', fires', changes', prunes⟩ := advance_eq_ok success
    cases holds.symm.trans holds'
    cases fires.symm.trans fires'
    cases changes.symm.trans changes'
    exact prunes

/-- A blow leaves everyone of the template it is of. -/
theorem Stocked.blow {bestiary : Bestiary} {id : InstanceId} {gremlin dead : Instance}
    {event : Event} (stocked : Stocked bestiary s) (found : s.board.get? id = some gremlin)
    (fades : gremlin.kin.Fades dead.kin) (still : event.mover? = none) :
    Stocked bestiary ((s.modify id fun _ => dead).record event) := by
  have modified : Stocked bestiary (s.modify id fun _ => dead) := by
    refine stocked.modify (fun _ _ => fades.id.trans (Board.id_of_get? found)) fun other same => ?_
    rw [found] at same
    cases same
    exact fades.template
  refine modified.record fun id moved => ?_
  rw [still] at moved
  cases moved

theorem Fells.stocked {bestiary : Bestiary} (fells : Fells s operation struck)
    (stocked : Stocked bestiary s) : Stocked bestiary struck := by
  cases fells with
  | hit found killed => exact stocked.blow found (Instance.applyHit_fades _ _) rfl
  | execute found landed => exact stocked.blow found (Instance.execute_fades _) rfl
  | advance holds fires changes =>
    exact (((stocked.begun.applyPassives holds).fireMoves fires).runTransitions changes).expire

/-- A hit kills, or does nothing that counts. -/
theorem hit_cases {id : InstanceId} {given : Hit}
    (success : Operation.run s (.hit id given) = .ok s') :
    (∃ struck, Fells s (.hit id given) struck ∧ Idle s struck) ∨ Idle s s' := by
  obtain ⟨gremlin, found, ensues⟩ := Operation.run_hit_eq_ok success
  have struck : Idle s ((s.modify id fun _ => (gremlin.applyHit given).1).record
      (.hit id (gremlin.applyHit given).2)) := by
    refine Idle.record ?_ rfl
    exact .of_eq rfl rfl
  cases ensues with
  | burial killed _ => exact .inl ⟨_, .hit found killed, struck⟩
  | nothing _ same => exact .inr (same ▸ struck)

/-- An execute lands, or does nothing that counts. -/
theorem execute_cases {id : InstanceId} (success : Operation.run s (.execute id) = .ok s') :
    (∃ struck, Fells s (.execute id) struck ∧ Idle s struck) ∨ Idle s s' := by
  obtain ⟨gremlin, found, ensues⟩ := Operation.run_execute_eq_ok success
  have struck : Idle s ((s.modify id fun _ => gremlin.execute.1).record
      (.executed id gremlin.execute.2)) := by
    refine Idle.record ?_ rfl
    exact .of_eq rfl rfl
  cases ensues with
  | burial lands _ => exact .inl ⟨_, .execute found lands, struck⟩
  | nothing _ same => exact .inr (same ▸ struck)

end Fells

theorem spawn_takes {s s' : Encounter} {templateId : String}
    (success : Operation.run s (.spawn templateId) = .ok s') :
    ∃ template, s.bestiary.get? templateId = some template ∧
      Idle s (s.arriving template templateId) ∧ Takes (s.arriving template templateId) s'
        (opening? s.nesting ⟨s.board.next⟩ (s.arriving template templateId)) := by
  obtain ⟨id, spawns⟩ := map_fst_eq_ok.mp success
  obtain ⟨template, known, _, enters⟩ := spawn_eq_ok spawns
  refine ⟨template, known, Idle.record ?_ rfl, enterPassive_takes enters⟩
  exact .of_eq rfl rfl

/-! ### The batches of an operation -/

/-- The batches that gremlins do in an operation: on joining the board, in their turns of a tick,
before they are buried, and on being summoned while another batch is done. -/
inductive Occasion (s : Encounter) : Operation → Batch → Prop
  | spawned {templateId : String} {template : Template} {batch : Batch}
      (known : s.bestiary.get? templateId = some template)
      (opens : opening? s.nesting ⟨s.board.next⟩ (s.arriving template templateId) = some batch) :
      Occasion s (.spawn templateId) batch
  | summoned {source : Option InstanceId} {duration : Duration} {spec : SummonSpec}
      {newcomer : InstanceId} {welcomed : Encounter} {batch : Batch}
      (brings : BringsIn s source spec newcomer welcomed)
      (opens : opening? s.nesting newcomer welcomed = some batch) :
      Occasion s (.effect source duration (.summon spec)) batch
  | held {id : InstanceId} {here : Encounter} {batch : Batch}
      (turn : ComesTo holdMove s.begun.lifted.board.ids s.begun.lifted id here)
      (holds : here.hold? id = some batch) : Occasion s .advance batch
  | fired {id : InstanceId} {held here : Encounter} {batch : Batch}
      (holds : s.begun.applyPassives = .ok held)
      (turn : ComesTo fireMove held.board.ids held id here)
      (fires : here.fire? id = some batch) : Occasion s .advance batch
  | changed {id : InstanceId} {held fired here : Encounter} {batch : Batch}
      (holds : s.begun.applyPassives = .ok held) (fires : held.fireMoves = .ok fired)
      (turn : ComesTo changeMove fired.board.ids fired id here)
      (changes : here.change? id = some batch) : Occasion s .advance batch
  | buried {operation : Operation} {id : InstanceId} {struck here : Encounter} {batch : Batch}
      (fells : Fells s operation struck) (turn : ComesTo bury struck.board.dead struck id here)
      (buries : here.burial? id = some batch) : Occasion s operation batch
  | nested {operation : Operation} {outer batch : Batch} {spec : SummonSpec}
      {newcomer : InstanceId} {here welcomed : Encounter} (around : Occasion s operation outer)
      (reaches : outer.Reaches (.summon spec) here)
      (brings : BringsIn here (some outer.doer) spec newcomer welcomed)
      (opens : opening? (outer.depth here) newcomer welcomed = some batch) :
      Occasion s operation batch

section Occasion

variable {bestiary : Bestiary} {s s' : Encounter} {operation : Operation} {batch : Batch}

theorem Takes.completed {here next : Encounter} (takes : Takes here next (some batch))
    (kept : Grows next s') : batch.Completed s' := by
  cases takes with
  | acts _ success => exact ⟨next, success, kept⟩

/-- Every batch of an operation is of effects that its doer's template can do. -/
theorem Occasion.grounded (stocked : Stocked bestiary s) (occasion : Occasion s operation batch) :
    batch.Grounded bestiary := by
  induction occasion with
  | spawned known opens => exact opening?_grounded (arriving_stocked stocked known) opens
  | summoned brings opens => exact opening?_grounded (brings.stocked stocked) opens
  | held turn holds =>
    refine hold?_grounded (turn.preserves (fun _ _ _ _ so_far acted => ?_) stocked.begun.lifted) holds
    exact so_far.holdMove acted
  | fired holds turn fires =>
    have start := stocked.begun.applyPassives holds
    refine fire?_grounded (turn.preserves (fun _ _ _ _ so_far acted => ?_) start) fires
    exact so_far.fireMove acted
  | changed holds fires turn changes =>
    have start := (stocked.begun.applyPassives holds).fireMoves fires
    refine change?_grounded (turn.preserves (fun _ _ _ _ so_far acted => ?_) start) changes
    exact so_far.changeMove acted
  | buried fells turn buries =>
    have start := fells.stocked stocked
    refine burial?_grounded (turn.preserves (fun _ _ _ _ so_far acted => ?_) start) buries
    exact so_far.bury acted
  | nested _ reaches brings opens grounded =>
    exact opening?_grounded (brings.stocked (grounded.reaches reaches).1) opens

/-- Every batch of an operation that succeeds is done in full. -/
theorem Occasion.completed (occasion : Occasion s operation batch)
    (success : operation.run s = .ok s') : batch.Completed s' := by
  induction occasion with
  | spawned known opens =>
    obtain ⟨template, known', _, takes⟩ := spawn_takes success
    cases known.symm.trans known'
    exact (opens ▸ takes).completed (List.prefix_refl _)
  | summoned brings opens =>
    have enters := (brings (enterPassive s.nesting)).symm.trans success
    exact (opens ▸ enterPassive_takes enters).completed (List.prefix_refl _)
  | held turn holds =>
    obtain ⟨_, held, fired, changed, passives, fires, changes, prunes⟩ := advance_eq_ok success
    obtain ⟨next, acted, kept⟩ := turn.goes_on holdMove_grows passives
    refine (holds ▸ holdMove_takes acted).completed (kept.trans ?_)
    exact ((foldlM_grows fireMove_grows fires).trans (foldlM_grows changeMove_grows changes)).trans
      (pruneDead_grows prunes :)
  | fired passives turn fires =>
    obtain ⟨_, held, fired, changed, passives', moves, changes, prunes⟩ := advance_eq_ok success
    cases passives.symm.trans passives'
    obtain ⟨next, acted, kept⟩ := turn.goes_on fireMove_grows moves
    refine (fires ▸ fireMove_takes acted).completed (kept.trans ?_)
    exact (foldlM_grows changeMove_grows changes).trans (pruneDead_grows prunes :)
  | changed passives moves turn changes =>
    obtain ⟨_, held, fired, changed, passives', moves', transitions, prunes⟩ := advance_eq_ok success
    cases passives.symm.trans passives'
    cases moves.symm.trans moves'
    obtain ⟨next, acted, kept⟩ := turn.goes_on changeMove_grows transitions
    exact (changes ▸ changeMove_takes acted).completed (kept.trans (pruneDead_grows prunes :))
  | buried fells turn buries =>
    obtain ⟨after, burials, ends⟩ := exists_burials_of_pruneDead (fells.prunes success)
    obtain ⟨next, acted, kept⟩ := turn.goes_on bury_grows burials
    rcases bury_takes acted with ⟨absent, _⟩ | ⟨other, last, _, present, _, ran, written, _⟩
    · cases absent.symm.trans buries
    · cases present.symm.trans buries
      exact ⟨last, ran, (Grows.trans written.grows kept).trans ends.grows⟩
  | nested _ reaches brings opens completed =>
    obtain ⟨last, ran, kept⟩ := completed success
    obtain ⟨next, done, later⟩ := reaches.goes_on Batch.does_grows ran
    have enters := (brings (enterPassive _)).symm.trans done
    exact (opens ▸ enterPassive_takes enters).completed (later.trans kept)

end Occasion

/-! ### What a summon logs -/

theorem turnAway_journal (s : Encounter) (id : InstanceId) (spec : SummonSpec) :
    (s.turnAway id spec).journal.toList = s.journal.toList ++ [⟨s.now, .summonBlocked id spec⟩] := by
  unfold turnAway
  split <;> exact Array.toList_push ..

section Drawn

variable {s after : Encounter} {own template? : Option Template} {spec : SummonSpec}
  (drawn : s.summonTemplate own spec = (template?, after))

include drawn

/-- Whether or not there is a template, looking for one logs nothing and moves nobody. -/
theorem drawn_same : after.journal = s.journal ∧ after.clock = s.clock ∧ after.board = s.board := by
  have same : after = (s.summonTemplate own spec).2 := (congrArg Prod.snd drawn).symm
  subst same
  cases spec <;> exact ⟨rfl, rfl, rfl⟩

theorem welcome_journal (template : Template) (position : SummonPosition)
    (source : Option InstanceId) : (after.welcome template position source).journal.toList =
      s.journal.toList ++ [⟨s.now, .summoned source ⟨s.board.next⟩⟩] := by
  obtain ⟨journal, clock, board⟩ := drawn_same drawn
  rw [← journal, ← board, now, ← clock]
  exact Array.toList_push ..

end Drawn

/-- The ways a summon of a batch can go. -/
theorem Batch.does_summon {batch : Batch} {here next : Encounter} {spec : SummonSpec}
    (done : batch.does here (.summon spec) = .ok next) :
    (here.board.canSummon batch.doer = false ∧ next = here.turnAway batch.doer spec) ∨
      (∃ after, here.summonTemplate (here.ownTemplate (some batch.doer)) spec = (none, after) ∧
        next = after.notify (.noTemplate spec)) ∨
      ∃ after template position, here.board.canSummon batch.doer = true ∧
        here.summonTemplate (here.ownTemplate (some batch.doer)) spec = (some template, after) ∧
        BringsIn here (some batch.doer) spec ⟨here.board.next⟩
          (after.welcome template position (some batch.doer)) ∧
        enterPassive (batch.depth here) ⟨here.board.next⟩
          (after.welcome template position (some batch.doer)) = .ok next := by
  have way := summon_summoning (enterPassive (batch.depth here)) (some batch.doer) spec here
  change here.summon (enterPassive (batch.depth here)) (some batch.doer) spec = .ok next at done
  generalize same : here.summon _ _ _ = result at way
  cases way with
  | blocked id given refused =>
    cases given
    cases same.symm.trans done
    exact .inl ⟨refused, rfl⟩
  | missing after allowed drawn =>
    cases same.symm.trans done
    exact .inr (.inl ⟨after, drawn, rfl⟩)
  | joins after template _ allowed drawn =>
    have brings := bringsIn_of_drawn allowed drawn
    rw [(drawn_same drawn).2.2] at brings
    exact .inr (.inr ⟨after, template, _, allowed _ rfl, drawn, brings,
      (brings _).symm.trans done⟩)

/-! ### All summons are done in batches -/

/-- If an event names a summoner, it is logged by a summon of a batch that this gremlin does in the
operation. -/
def Accounted (s : Encounter) (operation : Operation) (event : Event) : Prop :=
  ∀ id, event.summoner? = some id → ∃ batch spec here next lines,
    Occasion s operation batch ∧ batch.doer = id ∧ batch.Reaches (.summon spec) here ∧
      batch.does here (.summon spec) = .ok next ∧
      next.journal.toList = here.journal.toList ++ lines ∧ ⟨here.now, event⟩ ∈ lines

section Accounted

variable {s : Encounter} {operation : Operation}

theorem accounted_of_silent {event : Event} (silent : event.summoner? = none) :
    Accounted s operation event := by
  intro id names
  rw [silent] at names
  cases names

theorem Idle.accounts {here next : Encounter} (idle : Idle here next) :
    Logs (Accounted s operation) here next :=
  idle.logs.mono fun _ silent => accounted_of_silent silent

/-- If all that newcomers do on joining the board is accounted for, so is an effect of a batch. -/
theorem Batch.does_accounts {batch : Batch} {effect : Effect} {here next : Encounter}
    (occasion : Occasion s operation batch)
    (nested : ∀ {newcomer welcomed entered},
      (∀ inner, opening? (batch.depth here) newcomer welcomed = some inner →
        Occasion s operation inner) →
      enterPassive (batch.depth here) newcomer welcomed = .ok entered →
      Logs (Accounted s operation) welcomed entered)
    (reaches : batch.Reaches effect here) (done : batch.does here effect = .ok next) :
    Logs (Accounted s operation) here next := by
  have asides : ∀ event : Event, event.isAside = true → Accounted s operation event :=
    fun _ aside => accounted_of_silent (Event.summoner?_of_aside aside)
  cases effect with
  | summon spec =>
    rcases Batch.does_summon done with ⟨_, rfl⟩ | ⟨after, drawn, rfl⟩ |
      ⟨after, template, position, _, drawn, brings, enters⟩
    · have journal := here.turnAway_journal batch.doer spec
      refine ⟨_, journal, List.forall_mem_singleton.mpr ?_⟩
      rintro _ ⟨⟩
      exact ⟨batch, spec, here, _, _, occasion, rfl, reaches, done, journal,
        List.mem_singleton_self _⟩
    · exact .of_journal_eq (drawn_same drawn).1
    · have welcomed := welcome_journal drawn template position (some batch.doer)
      obtain ⟨rest, journal, _⟩ := (enterPassive_writes enters).lines
      have later := nested (fun inner opens => occasion.nested reaches brings opens) enters
      refine Logs.trans ⟨_, welcomed, List.forall_mem_singleton.mpr ?_⟩ later
      rintro _ ⟨⟩
      rw [welcomed, List.append_assoc] at journal
      exact ⟨batch, spec, here, next, _, occasion, rfl, reaches, done, journal,
        List.mem_cons_self⟩
  | reinstateConstraints =>
    cases done
    exact .of_writes (reinstate_writes _ _ _ fun event aside _ => asides event aside)
  | _ =>
    cases done
    exact .of_writes (applyPlain_writes _ _ _ _ fun event aside _ _ => asides event aside)

/-- If all that the newcomers of a batch open is accounted for, the batch is. -/
theorem Batch.run_accounts {batch : Batch} {here next : Encounter} (idle : Idle here batch.start)
    (occasion : Occasion s operation batch)
    (nested : ∀ {here' newcomer welcomed entered},
      (∀ inner, opening? (batch.depth here') newcomer welcomed = some inner →
        Occasion s operation inner) →
      enterPassive (batch.depth here') newcomer welcomed = .ok entered →
      Logs (Accounted s operation) welcomed entered)
    (ran : batch.run = .ok next) : Logs (Accounted s operation) here next := by
  refine idle.accounts.trans (foldlM_preserves_in_turn ?_ (.of_journal_eq rfl) ran)
  intro here' effect next' reaches so_far done
  exact so_far.trans (Batch.does_accounts occasion nested reaches done)

/-- By induction on how deep the openings may still be nested. -/
theorem enterPassive_accounts {depth : Nat} {id : InstanceId} {here next : Encounter}
    (opening : ∀ batch, opening? depth id here = some batch → Occasion s operation batch)
    (success : enterPassive depth id here = .ok next) :
    Logs (Accounted s operation) here next := by
  induction depth generalizing id here next with
  | zero => cases success
  | succ depth ih =>
    have takes := enterPassive_takes success
    generalize opens : opening? (depth + 1) id here = turn at takes
    cases takes with
    | rests idle => exact idle.accounts
    | acts idle ran =>
      refine Batch.run_accounts idle (opening _ opens) ?_ ran
      obtain ⟨move, _, rfl⟩ := Option.map_eq_some_iff.mp opens
      exact ih

theorem Takes.accounts {here next : Encounter} {turn : Option Batch} (takes : Takes here next turn)
    (occasion : ∀ batch, turn = some batch → Occasion s operation batch) :
    Logs (Accounted s operation) here next := by
  cases takes with
  | rests idle => exact idle.accounts
  | acts idle ran => exact Batch.run_accounts idle (occasion _ rfl) enterPassive_accounts ran

/-- If the turn of each gremlin is an occasion for its batch, going over gremlins is accounted for. -/
theorem foldlM_accounts {act : Encounter → InstanceId → Except EncounterError Encounter}
    {turn : Encounter → InstanceId → Option Batch} {ids : List InstanceId} {start after : Encounter}
    (takes : ∀ {here id next}, act here id = .ok next → Takes here next (turn here id))
    (occasion : ∀ {id here batch}, ComesTo act ids start id here → turn here id = some batch →
      Occasion s operation batch)
    (success : ids.foldlM act start = .ok after) : Logs (Accounted s operation) start after := by
  refine foldlM_preserves_in_turn ?_ (.of_journal_eq rfl) success
  intro here id next comes so_far acted
  exact so_far.trans ((takes acted).accounts fun _ => occasion comes)

theorem Fells.accounts {struck s' : Encounter} (fells : Fells s operation struck)
    (success : operation.run s = .ok s') : Logs (Accounted s operation) struck s' := by
  obtain ⟨after, burials, ends⟩ := exists_burials_of_pruneDead (fells.prunes success)
  refine Logs.trans ?_ (ends.mono fun _ silent => accounted_of_silent silent)
  refine foldlM_preserves_in_turn ?_ (.of_journal_eq rfl) burials
  intro here id next turn so_far acted
  rcases bury_takes acted with ⟨_, rfl⟩ | ⟨batch, last, _, buries, rfl, ran, written, _⟩
  · exact so_far
  · have takes : Takes batch.start last (some batch) := .acts (.of_eq rfl rfl) ran
    refine (so_far.trans (takes.accounts ?_)).trans
      (written.mono fun _ silent => accounted_of_silent silent)
    rintro _ ⟨⟩
    exact .buried fells turn buries

theorem advance_accounts {s' : Encounter} (success : s.advance = .ok s') :
    Logs (Accounted s .advance) s s' := by
  obtain ⟨_, held, fired, changed, passives, moves, transitions, _⟩ := advance_eq_ok success
  have begins : Idle s s.begun.lifted := by
    have ticks : Idle s { s with clock := { s.clock with now := ⟨s.now.count + 1⟩ } } :=
      .of_eq rfl rfl
    have silent : (Event.tick ⟨s.now.count + 1⟩).summoner? = none := rfl
    exact (ticks.record silent).trans (.of_eq rfl rfl)
  have first : Logs (Accounted s .advance) s.begun.lifted held :=
    foldlM_accounts holdMove_takes (fun turn holds => .held turn holds) passives
  have second : Logs (Accounted s .advance) held fired :=
    foldlM_accounts fireMove_takes (fun turn fires => .fired passives turn fires) moves
  have third : Logs (Accounted s .advance) fired changed :=
    foldlM_accounts changeMove_takes (fun turn changes => .changed passives moves turn changes)
      transitions
  have expires : Idle changed changed.expire := .of_eq rfl rfl
  have last := (Fells.advance passives moves transitions).accounts success
  exact (((begins.accounts.trans first).trans second).trans third).trans
    (expires.accounts.trans last)

/-- Every summon in an operation is one of a batch, unless it is an effect from outside. -/
theorem Operation.accounts {s' : Encounter}
    (within : ∀ source duration given, operation ≠ .effect source duration given)
    (success : operation.run s = .ok s') : Logs (Accounted s operation) s s' := by
  cases operation with
  | spawn templateId =>
    obtain ⟨template, known, idle, takes⟩ := spawn_takes success
    exact idle.accounts.trans (takes.accounts fun _ opens => .spawned known opens)
  | effect source duration given => exact absurd rfl (within source duration given)
  | hit id given =>
    rcases hit_cases success with ⟨struck, fells, idle⟩ | idle
    · exact idle.accounts.trans (fells.accounts success)
    · exact idle.accounts
  | execute id =>
    rcases execute_cases success with ⟨struck, fells, idle⟩ | idle
    · exact idle.accounts.trans (fells.accounts success)
    · exact idle.accounts
  | heal id amount =>
    obtain ⟨_, _, rfl⟩ := heal_eq_ok success
    exact .of_journal_eq rfl
  | terminate =>
    cases success
    exact s.terminate_logs (accounted_of_silent rfl)
  | advance => exact advance_accounts success
  | gain _ _ | spend _ _ | observe _ | notify _ | reseed _ | nest _ =>
    cases success
    exact .of_journal_eq rfl

end Accounted

end Encounter

end Gremlin
