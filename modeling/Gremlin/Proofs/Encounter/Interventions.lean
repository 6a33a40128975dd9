import Gremlin.Proofs.Encounter.Carrying

set_option autoImplicit false

/-!
The effects that are done in a tick, in an operation and in a whole fight, and what has been told of
a gremlin by then. Besides doing operations, one may switch gremlins to whatever move from outside.
-/

namespace Gremlin

namespace Encounter

/-! ### The phase in which moves are held -/

section Held

variable {id : InstanceId} {s s' held : Encounter}

/-- Of what different gremlins do, a gremlin's own part is what it does itself. -/
theorem flatMap_doneBy_of_nodup {ids : List InstanceId} (distinct : ids.Nodup)
    (effects : InstanceId → List Effect) :
    ids.flatMap (fun other => doneBy id (some other) (effects other)) =
      if id ∈ ids then effects id else [] := by
  induction ids with
  | nil => rfl
  | cons other rest ih =>
    obtain ⟨once, distinct⟩ := List.nodup_cons.mp distinct
    rw [List.flatMap_cons, ih distinct]
    by_cases own : other = id
    · subst own
      rw [doneBy, if_pos rfl, if_neg once, List.append_nil, if_pos List.mem_cons_self]
    · have others : (id ∈ other :: rest) ↔ id ∈ rest :=
        List.mem_cons.trans (or_iff_right fun same => own same.symm)
      rw [doneBy_other fun same => own (Option.some.inj same), List.nil_append,
        if_congr others rfl rfl]

/-- What a gremlin does on holding its move depends on its station alone. -/
theorem hold?_congr (same : (s'.board.get? id).map Instance.station =
    (s.board.get? id).map Instance.station) :
    (s'.hold? id).elim [] Batch.effects = (s.hold? id).elim [] Batch.effects := by
  have shown : ∀ u : Encounter, (u.hold? id).elim [] Batch.effects =
      ((u.board.get? id).map Instance.station).elim [] fun facts =>
        if facts.2.2 then
          ((facts.1.moves[facts.2.1]?).filter Move.isPassive).elim [] continuousEffects
        else [] := by
    intro u
    unfold hold? living?
    cases u.board.get? id with
    | none => rfl
    | some gremlin =>
      change _ = if gremlin.isAlive then gremlin.passiveMove?.elim [] continuousEffects else []
      cases alive : gremlin.isAlive with
      | false =>
        rw [Option.filter_some_neg alive]
        rfl
      | true =>
        rw [Option.filter_some_pos alive, Option.bind_some]
        cases gremlin.passiveMove? <;> rfl
  rw [shown, shown, same]

theorem hold?_of_held? (living : s.Living) {move : Move} (holds : s.held? id = some move) :
    (s.hold? id).elim [] Batch.effects = continuousEffects move := by
  obtain ⟨gremlin, found, passive⟩ := Option.bind_eq_some_iff.mp holds
  have alive : gremlin.isAlive = true :=
    Instance.isAlive_iff.mpr (living id _ (track?_of_get? found)).positive
  rw [hold?, living?, found, Option.filter_some_pos alive, Option.bind_some, passive]
  rfl

/-- As everyone holds its move, a gremlin does what a passive move goes on doing. -/
theorem holdMoves_resolves (distinct : s.board.ids.Nodup)
    (success : s.board.ids.foldlM holdMove s = .ok held) :
    Resolves id ((s.hold? id).elim [] Batch.effects) (resolvedInTurn holdMove hold? s.board.ids s)
      s held := by
  have own : s.board.ids.flatMap (fun other =>
      doneBy id (some other) ((s.hold? other).elim [] Batch.effects)) =
        (s.hold? id).elim [] Batch.effects := by
    rw [flatMap_doneBy_of_nodup distinct]
    split
    · rfl
    · rename_i absent
      rw [hold?, living?, Board.get?_eq_none_iff.mpr absent]
      rfl
  rw [← own]
  refine Resolves.collect (motive := fun here => (here.board.get? id).map Instance.station =
    (s.board.get? id).map Instance.station) ?_ rfl success
  intro here other next _ same acted
  have resolves : Resolves id _ _ here next := holdMove_resolves acted
  have effects : doneBy id (some other) ((here.hold? other).elim [] Batch.effects) =
      doneBy id (some other) ((s.hold? other).elim [] Batch.effects) := by
    by_cases own : other = id
    · subst own
      rw [hold?_congr same]
    · have apart : some other ≠ some id := fun same => own (Option.some.inj same)
      rw [doneBy_other apart, doneBy_other apart]
  exact ⟨effects ▸ resolves, resolves.sits.station.trans same⟩

/-- A tick begins, and everyone holds its move. -/
theorem applyPassives_continues (distinct : s.board.ids.Nodup) (living : s.Living)
    (success : s.begun.applyPassives = .ok held) :
    Continues id (resolvedInTurn holdMove hold? s.board.ids s.begun.lifted) s held := by
  have resolves : Resolves id ((s.begun.lifted.hold? id).elim [] Batch.effects)
      (resolvedInTurn holdMove hold? s.board.ids s.begun.lifted) s.begun.lifted held :=
    holdMoves_resolves distinct success
  have sits := resolves.sits
  have begins : s.begun.lifted.journal.toList =
      s.journal.toList ++ [⟨⟨s.now.count + 1⟩, .tick ⟨s.now.count + 1⟩⟩] := s.begun_journal
  have begun : Grows s s.begun.lifted := ⟨_, begins.symm⟩
  have lines : written s held =
      ⟨⟨s.now.count + 1⟩, .tick ⟨s.now.count + 1⟩⟩ :: written s.begun.lifted held := by
    rw [written_trans begun sits.grows, written_of_eq begins]
    rfl
  refine ⟨sits.next, sits.place, begun.trans sits.grows, ?_, fun r member => ?_,
    fun move holds => ?_⟩
  · rw [lines]
    refine List.forall_mem_cons.mpr ⟨⟨rfl, nofun⟩, fun line member => ?_⟩
    exact ⟨(sits.lines line member).2.entry, (sits.lines line member).2.fells⟩
  · obtain ⟨first, last⟩ := resolves.within r member
    refine ⟨Nat.le_trans ?_ first, last⟩
    rw [begun.size]
    exact Nat.le_add_right _ _
  · have own : (s.begun.lifted.hold? id).elim [] Batch.effects = continuousEffects move :=
      hold?_of_held? (s := s.begun.lifted) (lifted_living (begun_living living)) holds
    rw [own] at resolves
    rw [lines]
    refine ⟨?_, List.forall_mem_cons.mpr ⟨rfl, ?_⟩, List.forall_mem_cons.mpr ⟨nofun, ?_⟩⟩
    · have ticks : ticksIn (⟨⟨s.now.count + 1⟩, .tick ⟨s.now.count + 1⟩⟩ ::
          written s.begun.lifted held) = [⟨s.now.count + 1⟩] := by
        rw [← List.singleton_append, ticksIn_append, sits.ticksIn_written]
        rfl
      refine resolves.resolved.trans ?_
      rw [ticks, List.flatMap_singleton]
      rfl
    · refine List.filterMap_eq_nil_iff.mp
        ((resolves.tidings fun size member => ?_).trans (filterMap_continuousEffects move))
      have continuous := (List.mem_filter.mp member).2
      cases continuous
    · exact fun line member => (sits.lines line member).2.fired

end Held

/-! ### Burials -/

section Burials

variable {id other : InstanceId} {gremlin : Instance} {s s' : Encounter}

/-- The effects that are done as the dead are buried. -/
def burials (s : Encounter) : List Resolution := resolvedInTurn bury burial? s.board.dead s

theorem get?_parting (apart : id ≠ other) : (s.parting other gremlin).board.get? id =
    (s.board.get? id).map (·.observe .gremlinKilled) := by
  rw [parting_board, Board.get?_observe, Board.get?_remove_other apart]

theorem parting_journal (s : Encounter) (other : InstanceId) (gremlin : Instance) :
    (s.parting other gremlin).journal.toList =
      s.journal.toList ++ [⟨s.now, .died other gremlin.template.id⟩] := Array.toList_push ..

/-- Nobody is there to be buried, or somebody does its last effects and leaves. -/
theorem bury_cases (success : s.bury other = .ok s') :
    (s.board.get? other = none ∧ s' = s) ∨
      ∃ batch avenged gremlin, s.burial? other = some batch ∧ batch.doer = other ∧ batch.start = s ∧
        batch.run = .ok avenged ∧ s' = avenged.parting other gremlin := by
  rcases bury_eq_ok success with absent | ⟨gremlin, avenged, found, avenges, rfl⟩
  · exact .inl absent
  · refine .inr ⟨⟨other, .permanent, gremlin.template.onDeath, s, nesting⟩, avenged, gremlin, ?_, rfl,
      rfl, avenges, rfl⟩
    rw [burial?, found, Option.map_some]

/-- Somebody else leaves. -/
theorem parting_continues (apart : id ≠ other) : Continues id [] s (s.parting other gremlin) := by
  refine .line (Nat.le_refl _) ?_ (parting_journal ..) rfl nofun (.inr ⟨rfl, rfl, nofun⟩)
  rw [get?_parting apart, Option.map_map]
  rfl

theorem terminate_continues (s : Encounter) : Continues id [] s s.terminate := by
  unfold terminate
  split
  · exact .silent (Nat.le_refl _) rfl rfl
  · exact .line (Nat.le_refl _) rfl (Array.toList_push ..) rfl nofun (.inr ⟨rfl, rfl, nofun⟩)

/-- The dead are buried; after that at most the end of the fight is told. -/
theorem exists_buried (success : s.pruneDead = .ok s') :
    ∃ after, s.board.dead.foldlM bury s = .ok after ∧ ∀ id, Continues id [] after s' := by
  obtain ⟨after, buried, ended⟩ := bind_eq_ok.mp success
  refine ⟨after, buried, fun id => ?_⟩
  cases ended
  split
  · exact after.terminate_continues
  · exact .silent (Nat.le_refl _) rfl rfl

variable {bestiary : Bestiary} (closed : Bestiary.Closed bestiary.templates)

include closed

/-- Somebody else is buried. -/
theorem bury_carries (apart : id ≠ other) (peopled : Peopled bestiary s)
    (success : s.bury other = .ok s') : Carries id (resolvedIn (s.burial? other)) s s' := by
  rcases bury_cases success with ⟨absent, rfl⟩ | ⟨batch, avenged, gremlin, buries, rfl, rfl, ran, rfl⟩
  · rw [burial?, absent]
    exact (Resolves.refl s').carries
  · have avenges : Carries id batch.resolutions batch.start avenged :=
      (burial?_grounded peopled.stocked buries).carries closed peopled.caps
        (fun own => absurd own.symm apart) ran
    have parts : Carries id [] avenged (avenged.parting batch.doer gremlin) :=
      (parting_continues apart).carries
    have all := avenges.trans parts
    rw [List.append_nil] at all
    rw [buries]
    exact all

/-- A gremlin does its last effects, which bring it into no move, and leaves. -/
theorem bury_departs {after : Encounter} (peopled : Peopled bestiary s)
    (found : s.board.get? id = some gremlin) (success : s.bury id = .ok after)
    (ends : Continues id [] after s') : Departs id (resolvedIn (s.burial? id)) s s' := by
  rcases bury_cases success with ⟨absent, _⟩ | ⟨batch, avenged, victim, buries, rfl, rfl, ran, rfl⟩
  · rw [found] at absent
    cases absent
  · have offers := (burial?_grounded peopled.stocked buries).offers
    have resolves := Batch.resolves (peopled.enlisted found)
      (fun target _ member => peopled.answered closed (offers _ member)) ran
    have sits := resolves.sits
    have leaves : Grows avenged (avenged.parting batch.doer victim) :=
      ⟨_, (parting_journal ..).symm⟩
    have ended := leaves.trans ends.grows
    have lines : written batch.start s' = written batch.start avenged ++
        ⟨avenged.now, .died batch.doer victim.template.id⟩ ::
          written (avenged.parting batch.doer victim) s' := by
      rw [written_trans sits.grows ended, written_trans leaves ends.grows,
        written_of_eq (parting_journal ..)]
      rfl
    have left : (avenged.parting batch.doer victim).board.get? batch.doer = none := by
      rw [parting_board, Board.get?_observe, Board.get?_remove_same, Option.map_none]
    refine ⟨Nat.le_trans sits.next ends.next, sits.grows.trans ended, ?_, ?_, ?_⟩
    · rw [lines]
      exact List.forall_mem_append.mpr ⟨fun line member => (sits.lines line member).2.entry,
        List.forall_mem_cons.mpr ⟨rfl, fun line member => (ends.aside line member).1⟩⟩
    · have place := ends.place
      rw [left, Option.map_none] at place
      exact Option.map_eq_none_iff.mp place
    · rw [buries]
      intro r member
      obtain ⟨first, last⟩ := resolves.within r member
      rw [ended.size]
      exact ⟨first, Nat.le_add_right_of_le last⟩

end Burials

/-! ### Ticks -/

section Ticks

variable {bestiary : Bestiary} {id : InstanceId} {s s' : Encounter}

/-- The effects that are done in a tick. -/
def tickResolutions (s : Encounter) : List Resolution :=
  resolvedInTurn holdMove hold? s.board.ids s.begun.lifted ++
    onward s.begun.applyPassives fun held =>
      resolvedInTurn fireMove fire? held.board.ids held ++ onward held.fireMoves fun fired =>
        resolvedInTurn changeMove change? fired.board.ids fired ++
          onward fired.runTransitions fun changed => changed.expire.burials

theorem inTurn_carries {act : Encounter → InstanceId → Except EncounterError Encounter}
    {batch? : Encounter → InstanceId → Option Batch}
    (each : ∀ {here other next}, Peopled bestiary here → act here other = .ok next →
      Carries id (resolvedIn (batch? here other)) here next ∧ Peopled bestiary next)
    {ids : List InstanceId} (peopled : Peopled bestiary s) (success : ids.foldlM act s = .ok s') :
    Carries id (resolvedInTurn act batch? ids s) s s' ∧ Peopled bestiary s' :=
  Carries.collect (fun _ so_far acted => each so_far acted) peopled success

/-- A tick keeps what has been told of a gremlin. -/
theorem advance_carries (closed : Bestiary.Closed bestiary.templates)
    (sound : ∀ template ∈ bestiary.templates, template.Sound) (peopled : Peopled bestiary s)
    (living : s.Living) (success : s.advance = .ok s') : Carries id s.tickResolutions s s' := by
  have orderly := peopled.stocked.orderly
  obtain ⟨held, fired, changed, stations⟩ :=
    advance_stations orderly (peopled.stocked.known ▸ sound) living success
  have first : Carries id _ s held :=
    (applyPassives_continues orderly.numbered.distinct living stations.holds).carries
  have afterFirst : Peopled bestiary held := by
    refine ⟨peopled.stocked.begun.applyPassives stations.holds, ?_⟩
    exact (applyPassives_phase (begun_orderly orderly) stations.holds).1.caps
      (peopled.caps.of_board_eq s.begun_board)
  obtain ⟨second, afterSecond⟩ : Carries id _ held fired ∧ Peopled bestiary fired :=
    inTurn_carries (fun so_far acted =>
      ⟨fireMove_carries closed so_far acted, so_far.fireMove acted⟩) afterFirst stations.fires
  obtain ⟨third, _⟩ : Carries id _ fired changed ∧ Peopled bestiary changed :=
    inTurn_carries (fun so_far acted =>
      ⟨changeMove_carries closed so_far acted, so_far.changeMove acted⟩) afterSecond stations.changes
  obtain ⟨after, buried, ends⟩ := exists_buried stations.ends
  rw [stations.nobody] at buried
  cases buried
  have expires : Carries id [] changed changed.expire :=
    ((Sits.of_undisturbed changed.expire_undisturbed (.of_journal_eq rfl rfl rfl)).resolves
      rfl).carries
  have last := expires.trans (ends id).carries
  have nobody : changed.expire.burials = [] := by
    rw [burials, stations.nobody]
    rfl
  rw [tickResolutions, stations.holds, onward, stations.fires, onward, stations.changes, onward,
    nobody]
  exact first.trans (second.trans (third.trans last))

end Ticks

/-! ### Blows -/

section Blows

variable {bestiary : Bestiary} {id other : InstanceId} {gremlin gremlin' : Instance} {event : Event}
  {s s' : Encounter}

theorem Touched.place_of_handled (touched : Touched other s s')
    (before : s.board.get? other = some gremlin) (after : s'.board.get? other = some gremlin')
    (handled : gremlin.Handled gremlin') :
    (s'.board.get? id).map Instance.place = (s.board.get? id).map Instance.place := by
  by_cases own : id = other
  · subst own
    rw [after, before, Option.map_some, Option.map_some]
    have template : gremlin'.template = gremlin.template :=
      (congrArg Instance.template handled.course :)
    have move : gremlin'.move = gremlin.move := (congrArg Instance.move handled.course :)
    rw [Instance.place, template, move]
    rfl
  · exact touched.place own

/-- A gremlin is dealt a blow that it survives. -/
theorem spared_carries (found : s.board.get? other = some gremlin)
    (handled : gremlin.Handled gremlin') (same : gremlin'.id = gremlin.id)
    (caps : gremlin'.installedCaps = gremlin.installedCaps) (still : event.mover? = none)
    (aside : ∀ id, event.enters? id = none ∧ event.fells? ≠ some id ∧ event.tiding? id = none ∧
      event.isTick = false) :
    Carries id [] s ((s.modify other fun _ => gremlin').record event) := by
  obtain ⟨touched, _, struck⟩ := blow_touched still found same caps
  obtain ⟨entry, fells, tiding, tick⟩ := aside id
  have unfired : ∀ index, event ≠ .moveFired id index := by
    rintro index rfl
    cases still
  have line : Continues id [] s ((s.modify other fun _ => gremlin').record event) :=
    .line (Nat.le_refl _) (touched.place_of_handled found struck handled) (Array.toList_push ..) entry
      fells (.inr ⟨tiding, tick, unfired⟩)
  exact line.carries

/-- A gremlin is felled by a blow and buried. -/
theorem felled_carries (closed : Bestiary.Closed bestiary.templates) (peopled : Peopled bestiary s)
    (living : s.Living) (found : s.board.get? other = some gremlin)
    (fades : gremlin.kin.Fades gremlin'.kin) (caps : gremlin'.installedCaps = gremlin.installedCaps)
    (lifeless : gremlin'.isAlive = false) (still : event.mover? = none)
    (fells : event.fells? = some other)
    (success : ((s.modify other fun _ => gremlin').record event).pruneDead = .ok s') :
    Carries id ((s.modify other fun _ => gremlin').record event).burials s s' := by
  obtain ⟨touched, quiet, fallen⟩ := blow_touched still found fades.id caps
  have strikes : ((s.modify other fun _ => gremlin').record event).journal.toList =
      s.journal.toList ++ [⟨s.now, event⟩] := Array.toList_push ..
  have stocked := peopled.stocked.blow found fades still
  generalize (s.modify other fun _ => gremlin').record event = struck at *
  have ready : Peopled bestiary struck := ⟨stocked, touched.caps peopled.caps⟩
  have only := dead_eq_singleton living touched stocked.orderly fallen lifeless
  obtain ⟨after, buried, ends⟩ := exists_buried success
  rw [only, List.foldlM_cons] at buried
  obtain ⟨_, once, same⟩ := bind_eq_ok.mp buried
  cases same
  have all : struck.burials = resolvedIn (struck.burial? other) := by
    rw [burials, resolvedInTurn, only, collect, once, onward, collect, List.append_nil]
  rw [all]
  by_cases own : id = other
  · subst own
    exact .dies strikes fells touched.next (touched.next ▸ (ready.enlisted fallen).born)
      (bury_departs closed ready fallen once (ends id))
  · obtain ⟨entry, told⟩ := Event.aside_of_fells fells
    have line : Continues id [] s struck := by
      refine .line (Nat.le_of_eq touched.next.symm) (touched.place own) strikes entry ?_ (.inr told)
      rw [fells]
      exact fun same => own (Option.some.inj same).symm
    have carries := (line.carries.trans (bury_carries closed own ready once)).trans (ends id).carries
    rw [List.append_nil] at carries
    exact carries

end Blows

/-! ### Operations -/

section Operations

variable {bestiary : Bestiary} {id : InstanceId} {operation : Operation} {s s' : Encounter}

/-- The effects that are done in an operation. -/
def Operation.resolutions (s : Encounter) : Operation → List Resolution
  | spawn templateId => (s.bestiary.get? templateId).elim [] fun template =>
    openings s.nesting ⟨s.board.next⟩ (s.arriving template templateId)
  | effect source _ given => resolve (openings s.nesting) source s given
  | hit id given => (s.board.get? id).elim [] fun gremlin =>
    if (gremlin.applyHit given).2.killed then
      ((s.modify id fun _ => (gremlin.applyHit given).1).record
        (.hit id (gremlin.applyHit given).2)).burials
    else []
  | execute id => (s.board.get? id).elim [] fun gremlin =>
    if gremlin.execute.2 then
      ((s.modify id fun _ => gremlin.execute.1).record (.executed id gremlin.execute.2)).burials
    else []
  | advance => s.tickResolutions
  | _ => []

variable (closed : Bestiary.Closed bestiary.templates)

include closed

/-- Somebody is put on the board. -/
theorem spawn_carries {templateId : String} (peopled : Peopled bestiary s)
    (success : Operation.run s (.spawn templateId) = .ok s') :
    Carries id (Operation.resolutions s (.spawn templateId)) s s' := by
  obtain ⟨joined, spawned⟩ := map_fst_eq_ok.mp success
  obtain ⟨template, known, _, entered⟩ := spawn_eq_ok spawned
  rw [Operation.resolutions, known, Option.elim_some]
  have numbered := peopled.stocked.orderly.numbered
  have arrived : Peopled bestiary (s.arriving template templateId) :=
    ⟨arriving_stocked peopled.stocked known, peopled.caps.spawned numbered template .bottom none _⟩
  have journal : (s.arriving template templateId).journal.toList =
      s.journal.toList ++ [⟨s.now, .spawned ⟨s.board.next⟩ templateId⟩] := Array.toList_push ..
  by_cases newborn : (⟨s.board.next⟩ : InstanceId) = id
  · subst newborn
    have born : (s.arriving template templateId).board.get? ⟨s.board.next⟩ =
        some (Instance.spawn ⟨s.board.next⟩ template s.now none) :=
      numbered.get?_spawn_same template s.now .bottom none
    have enlisted := arrived.enlisted born
    exact .enters journal rfl (if_pos rfl) (Nat.le_succ _) born rfl enlisted.born
      (fun old => absurd old (Nat.lt_irrefl _)) (arrived.opens closed enlisted entered)
  · have others : (s.arriving template templateId).board.get? id = s.board.get? id :=
      Board.Numbered.get?_spawn_other template s.now .bottom none fun same => newborn same.symm
    have line : Continues id [] s (s.arriving template templateId) :=
      .line (Nat.le_succ _) (by rw [others]) journal (if_neg newborn) nofun (.inr ⟨rfl, rfl, nofun⟩)
    exact line.carries.trans (openings_carries closed newborn arrived entered)

theorem hit_carries {other : InstanceId} {given : Hit} (peopled : Peopled bestiary s)
    (living : s.Living) (success : Operation.run s (.hit other given) = .ok s') :
    Carries id (Operation.resolutions s (.hit other given)) s s' := by
  obtain ⟨gremlin, found, ensues⟩ := Operation.run_hit_eq_ok success
  rw [Operation.resolutions, found, Option.elim_some]
  have caps := gremlin.applyHit_installedCaps given
  cases ensues with
  | burial kills prunes =>
    rw [if_pos kills]
    exact felled_carries closed peopled living found (gremlin.applyHit_fades given) caps
      (Instance.applyHit_lifeless kills) rfl (if_pos kills) prunes
  | nothing spares same =>
    have unkilled : ¬ (gremlin.applyHit given).2.killed = true := Bool.eq_false_iff.mp spares
    rw [if_neg unkilled, same]
    refine spared_carries found (.applyHit spares) (gremlin.applyHit_id given) caps rfl fun _ =>
      ⟨rfl, ?_, rfl, rfl⟩
    rw [Event.fells?, if_neg unkilled]
    exact nofun

theorem execute_carries {other : InstanceId} (peopled : Peopled bestiary s) (living : s.Living)
    (success : Operation.run s (.execute other) = .ok s') :
    Carries id (Operation.resolutions s (.execute other)) s s' := by
  obtain ⟨gremlin, found, ensues⟩ := Operation.run_execute_eq_ok success
  rw [Operation.resolutions, found, Option.elim_some]
  cases ensues with
  | burial lands prunes =>
    rw [if_pos lands]
    exact felled_carries closed peopled living found gremlin.execute_fades
      gremlin.execute_installedCaps (Instance.execute_lifeless lands) rfl (if_pos lands) prunes
  | nothing misses same =>
    have missed : ¬ gremlin.execute.2 = true := Bool.eq_false_iff.mp misses
    rw [if_neg missed, same]
    have unharmed := Instance.execute_of_not_landed misses
    refine spared_carries found (unharmed.symm ▸ .refl gremlin) gremlin.execute_id
      gremlin.execute_installedCaps rfl fun _ => ⟨rfl, ?_, rfl, rfl⟩
    rw [Event.fells?, if_neg missed]
    exact nofun

/-- An operation keeps what has been told of a gremlin, unless it has the gremlin do an effect. -/
theorem Operation.carries (sound : ∀ template ∈ bestiary.templates, template.Sound)
    (peopled : Peopled bestiary s) (living : s.Living)
    (apart : ∀ duration given, operation ≠ .effect (some id) duration given)
    (success : operation.run s = .ok s') : Carries id (operation.resolutions s) s s' := by
  cases operation with
  | spawn templateId => exact spawn_carries closed peopled success
  | effect source duration given =>
    have other : source ≠ some id := by
      rintro rfl
      exact apart duration given rfl
    exact resolve_carries (openings_carries closed)
      (fun enlisted peopled => peopled.opens closed enlisted) peopled other success
  | hit other given => exact hit_carries closed peopled living success
  | execute other => exact execute_carries closed peopled living success
  | heal other amount =>
    obtain ⟨gremlin, found, rfl⟩ := heal_eq_ok success
    have keeps : ∀ gremlin : Instance, gremlin.id = other → (gremlin.heal amount).id = other :=
      fun gremlin => (gremlin.heal_id amount).trans
    have touched := Touched.modify (·.heal amount) keeps found (gremlin.heal_installedCaps amount)
    have healed := get?_modify (·.heal amount) keeps found
    have silent : Continues id [] s (s.modify other (·.heal amount)) :=
      .silent (Nat.le_refl _) (touched.place_of_handled found healed (.heal gremlin amount)) rfl
    exact silent.carries
  | observe action =>
    cases success
    have place : ((s.observe action).board.get? id).map Instance.place =
        (s.board.get? id).map Instance.place := by
      rw [Encounter.observe, Board.get?_observe, Option.map_map]
      rfl
    have silent : Continues id [] s (s.observe action) := .silent (Nat.le_refl _) place rfl
    exact silent.carries
  | terminate =>
    cases success
    exact s.terminate_continues.carries
  | advance => exact advance_carries closed sound peopled living success
  | gain _ _ | spend _ _ | notify _ | reseed _ | nest _ =>
    cases success
    refine Continues.carries (.silent (Nat.le_refl _) ?_ ?_) <;> rfl

end Operations

/-! ### Fights in which everyone lives -/

/-- Everyone on the board is of a template of the bestiary, remembers caps alone, and has health
left. -/
structure Lively (bestiary : Bestiary) (s : Encounter) : Prop where
  peopled : Peopled bestiary s
  living : s.Living

section Lively

variable {bestiary : Bestiary} {s s' : Encounter}

theorem Lively.of_tracks (known : s.bestiary = bestiary) (orderly : s.Orderly) (caps : s.CapsSound)
    (tracks : ∀ id track, s.track? id = some track →
      track.gremlin.template ∈ bestiary.templates ∧ track.gremlin.health.Fit) :
    Lively bestiary s := by
  refine ⟨⟨⟨known, orderly, fun id gremlin found => ?_⟩, caps⟩, fun id track found => ?_⟩
  · exact (tracks id _ (track?_of_get? found)).1
  · exact (tracks id track found).2

theorem Lively.track (lively : Lively bestiary s) {id : InstanceId} {track : Track}
    (found : s.track? id = some track) :
    track.gremlin.template ∈ bestiary.templates ∧ track.gremlin.health.Fit := by
  obtain ⟨gremlin, present, rfl⟩ := get?_of_track? found
  exact ⟨lively.peopled.stocked.listed id gremlin present, lively.living id _ found⟩

theorem Blank.lively (blank : Blank bestiary s) : Lively bestiary s := by
  have standing := blank.standing
  refine .of_tracks standing.known standing.orderly standing.caps fun id track found => ?_
  rw [blank.track?_eq_none] at found
  cases found

variable (sound : ∀ template ∈ bestiary.templates, template.Sound)

include sound

theorem Track.Newborn.lively {now : Ticks} {track : Track} (born : Track.Newborn bestiary now track) :
    track.gremlin.template ∈ bestiary.templates ∧ track.gremlin.health.Fit :=
  ⟨(born.gremlin_fit sound).known, born.fit sound⟩

theorem Lively.struck (lively : Lively bestiary s) {victim : Option InstanceId}
    (struck : Struck victim s s') : Lively bestiary s' := by
  have known := lively.peopled.stocked.known
  refine .of_tracks (struck.played.bestiary.trans known) struck.played.orderly
    (struck.played.caps lively.peopled.caps) fun id track' found => ?_
  have kept : ∀ track, Track.Handled track track' →
      track.gremlin.template ∈ bestiary.templates ∧ track.gremlin.health.Fit →
      track'.gremlin.template ∈ bestiary.templates ∧ track'.gremlin.health.Fit := by
    rintro track ⟨handled, _⟩ ⟨listed, fit⟩
    have template : track'.gremlin.template = track.gremlin.template :=
      (congrArg Instance.template handled.course :)
    exact ⟨template ▸ listed, handled.fit fit⟩
  rcases struck.origin found with ⟨track, old, handled⟩ | ⟨_, born, newborn, handled⟩
  · exact kept track handled (lively.track old)
  · exact kept born handled (Track.Newborn.lively sound (known ▸ newborn))

theorem Lively.advanced (lively : Lively bestiary s) (advanced : Advanced s s') :
    Lively bestiary s' := by
  have known := lively.peopled.stocked.known
  refine .of_tracks (advanced.bestiary.trans known) advanced.orderly
    (advanced.caps lively.peopled.caps) fun id track' found => ?_
  rcases advanced.origin found with ⟨track, old, changed⟩ | ⟨_, born, newborn, same | changed⟩
  · rw [changed.template, Track.fire_template, Track.hold_template, changed.health, Track.fire_health,
      Track.hold_health]
    exact lively.track old
  · exact same ▸ Track.Newborn.lively sound (known ▸ newborn)
  · rw [changed.template, changed.health]
    exact Track.Newborn.lively sound (known ▸ newborn)

theorem Lively.enterMove (lively : Lively bestiary s) {id : InstanceId} {index : Nat}
    (success : s.enterMove id index = .ok s') : Lively bestiary s' := by
  have orderly := lively.peopled.stocked.orderly
  cases enterMove_entersMove success with
  | absent =>
    exact lively.struck sound (struck_of_undisturbed (releasePassive_undisturbed s id) orderly)
  | enters gremlin _ found done =>
    have peopled := lively.peopled.entered found index
    have touched := entered_touched found index
    have entered : (s.entered id index).board.get? id = some (gremlin.enterMove index) :=
      get?_modify (·.enterMove index) (fun _ named => named) found
    have ready : Lively bestiary (s.entered id index) := by
      refine ⟨peopled, fun other track present => ?_⟩
      by_cases own : other = id
      · subst own
        rw [track?_of_get? entered] at present
        cases present
        have fit : gremlin.health.Fit := lively.living other _ (track?_of_get? found)
        exact fit
      · rw [track?_congr (touched.bare other own) (touched.turns other own)] at present
        exact lively.living other track present
    exact ready.struck sound ((enterPassive_effected done).struck peopled.stocked.orderly)

theorem Lively.run (lively : Lively bestiary s) {operation : Operation}
    (success : operation.run s = .ok s') : Lively bestiary s' := by
  have orderly := lively.peopled.stocked.orderly
  by_cases tick : operation = .advance
  · subst tick
    exact lively.advanced sound (advance_advanced orderly (lively.peopled.stocked.known ▸ sound)
      lively.living success).2
  · exact lively.struck sound (operation.struck orderly lively.living tick success)

end Lively

/-! ### Interventions -/

/-- What can be done with a fight from outside: an operation, or switching a gremlin to a move. -/
inductive Intervention where
  | does (operation : Operation)
  | enters (id : InstanceId) (index : Nat)

namespace Intervention

/-- Does an intervention. -/
def run (s : Encounter) : Intervention → Except EncounterError Encounter
  | does operation => operation.run s
  | enters id index => s.enterMove id index

/-- The effects that are done in an intervention. -/
def resolutions (s : Encounter) : Intervention → List Resolution
  | does operation => operation.resolutions s
  | enters id index => s.entryResolutions id index

/-- Does interventions in order. -/
def runAll (s : Encounter) (interventions : List Intervention) : Except EncounterError Encounter :=
  interventions.foldlM run s

/-- The effects that are done as interventions are done in order. -/
def allResolutions (s : Encounter) (interventions : List Intervention) : List Resolution :=
  collect run resolutions interventions s

/-- Whether a gremlin is made to do an effect from outside. -/
def compels (id : InstanceId) : Intervention → Prop
  | does (.effect source _ _) => source = some id
  | _ => False

variable {bestiary : Bestiary} {id : InstanceId} {s s' : Encounter}

/-- Interventions keep what has been told of a gremlin, unless they compel it. -/
theorem runAll_carries (closed : Bestiary.Closed bestiary.templates)
    (sound : ∀ template ∈ bestiary.templates, template.Sound) {interventions : List Intervention}
    (lively : Lively bestiary s) (free : ∀ intervention ∈ interventions, ¬ intervention.compels id)
    (success : runAll s interventions = .ok s') :
    Carries id (allResolutions s interventions) s s' ∧ Lively bestiary s' := by
  refine Carries.collect (fun {here intervention next} member lively done => ?_) lively success
  cases intervention with
  | does operation =>
    refine ⟨operation.carries closed sound lively.peopled lively.living ?_ done,
      lively.run sound done⟩
    rintro duration given rfl
    exact free _ member rfl
  | enters other index =>
    exact ⟨enterMove_carries closed lively.peopled done, lively.enterMove sound done⟩

end Intervention

end Encounter

end Gremlin
