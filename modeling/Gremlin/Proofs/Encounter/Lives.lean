import Gremlin.Proofs.Encounter.Beats
import Gremlin.Proofs.Encounter.Burials
import Gremlin.Proofs.Encounter.Forward
import Gremlin.Proofs.Encounter.Occasions
import Gremlin.Proofs.Encounter.PassiveOverlays

set_option autoImplicit false

/-!
The lives of gremlins in the journal. A gremlin is not named before its birth; it is named while it
is on the board; and after its death, which follows a blow of the same tick, it is not named again.
So the journal tells who is on the board, and in which move.
-/

namespace Gremlin

namespace Event

/-- Whom an event brings. -/
def born? : Event → Option InstanceId
  | spawned id _ | summoned _ id => some id
  | _ => none

/-- Whom an event takes. -/
def died? : Event → Option InstanceId
  | died id _ => some id
  | _ => none

/-- Whose death an event leads to: a hit that kills it, or an execute that lands on it. -/
def fells? : Event → Option InstanceId
  | hit id outcome => if outcome.killed then some id else none
  | executed id landed => if landed then some id else none
  | _ => none

/-- An event that names only some gremlins, and neither brings nor takes anybody. -/
structure Among (ids : List InstanceId) (event : Event) : Prop where
  named : event.named ⊆ ids
  born : event.born? = none
  died : event.died? = none

theorem Among.of_aside {ids : List InstanceId} {source : Option InstanceId} {event : Event}
    (present : source.toList ⊆ ids) (aside : event.isAside = true)
    (named : event.named ⊆ source.toList ++ ids) : Among ids event := by
  have among : event.named ⊆ ids := by
    intro id member
    rcases List.mem_append.mp (named member) with own | other
    · exact present own
    · exact other
  cases event <;> first | exact ⟨among, rfl, rfl⟩ | cases aside

theorem Among.of_mover {ids : List InstanceId} {event : Event} {id : InstanceId}
    (mover : event.mover? = some id) (present : id ∈ ids) : Among ids event := by
  cases event <;> cases mover <;>
    exact ⟨List.cons_subset.mpr ⟨present, List.nil_subset _⟩, rfl, rfl⟩

theorem mem_named_of_born {event : Event} {id : InstanceId} (born : event.born? = some id) :
    id ∈ event.named := by
  cases event <;> cases born
  · exact List.mem_singleton_self _
  · exact List.mem_append_right _ (List.mem_singleton_self _)

theorem mem_named_of_died {event : Event} {id : InstanceId} (died : event.died? = some id) :
    id ∈ event.named := by
  cases event <;> cases died
  exact List.mem_singleton_self _

theorem born_of_died {event : Event} {id : InstanceId} (died : event.died? = some id) :
    event.born? = none := by
  cases event <;> cases died
  rfl

end Event

/-! ### Lives -/

/-- Of all lines of a journal one alone tells such a thing of a gremlin. -/
structure Sole (tells : Event → Option InstanceId) (id : InstanceId) (past : List TimedEvent)
    (line : TimedEvent) (rest : List TimedEvent) : Prop where
  told : tells line.event = some id
  early : ∀ other ∈ past, tells other.event ≠ some id
  late : ∀ other ∈ rest, tells other.event ≠ some id

namespace Sole

variable {tells : Event → Option InstanceId} {id : InstanceId} {past rest : List TimedEvent}
  {line : TimedEvent} (sole : Sole tells id past line rest)

include sole

theorem length_le_one :
    ((past ++ line :: rest).filter fun other => tells other.event = some id).length ≤ 1 := by
  have early : past.filter (fun other => tells other.event = some id) = [] :=
    List.filter_eq_nil_iff.mpr fun other member => by simpa using sole.early other member
  have late : rest.filter (fun other => tells other.event = some id) = [] :=
    List.filter_eq_nil_iff.mpr fun other member => by simpa using sole.late other member
  simp [List.filter_append, early, late, sole.told]

theorem unique {past' rest' : List TimedEvent} {line' : TimedEvent}
    (same : past ++ line :: rest = past' ++ line' :: rest') (told : tells line'.event = some id) :
    past = past' ∧ line = line' ∧ rest = rest' :=
  (List.append_cons_inj_of_notMem (fun member => sole.early line' member told)
    fun member => sole.late line' member told).mp same

end Sole

/-- Lines of a journal that tell of a gremlin from its birth on, but not of its death. -/
structure Life (id : InstanceId) (lines : List TimedEvent) : Prop where
  begins : ∃ before birth during, lines = before ++ birth :: during ∧
    Sole Event.born? id before birth during ∧ ∀ line ∈ before, id ∉ line.event.named
  undying : ∀ line ∈ lines, line.event.died? ≠ some id

theorem Life.append {id : InstanceId} {lines more : List TimedEvent} (life : Life id lines)
    (others : ∀ line ∈ more, line.event.born? ≠ some id ∧ line.event.died? ≠ some id) :
    Life id (lines ++ more) := by
  obtain ⟨before, birth, during, rfl, sole, silent⟩ := life.begins
  have onward : Sole Event.born? id before birth (during ++ more) :=
    ⟨sole.told, sole.early, List.forall_mem_append.mpr
      ⟨sole.late, fun line member => (others line member).1⟩⟩
  exact ⟨⟨before, birth, during ++ more, List.append_assoc .., onward, silent⟩,
    List.forall_mem_append.mpr ⟨life.undying, fun line member => (others line member).2⟩⟩

namespace Encounter

/-- How far the journal has got with a gremlin. -/
inductive Story (s : Encounter) (id : InstanceId) : Prop
  | unborn (fresh : s.board.next ≤ id.value)
      (silent : ∀ line ∈ s.journal.toList, id ∉ line.event.named)
  | living (present : id ∈ s.board.ids) (life : Life id s.journal.toList)
  | dead (used : id.value < s.board.next) (absent : id ∉ s.board.ids)
      {past after : List TimedEvent} {death : TimedEvent}
      (journal : s.journal.toList = past ++ death :: after) (life : Life id past)
      (died : death.event.died? = some id)
      (blow : ∃ line ∈ past, line.now = death.now ∧ line.event.fells? = some id)
      (silent : ∀ line ∈ after, id ∉ line.event.named)

/-- A story goes on with lines that neither bring nor take its gremlin, and name it only if it is on
the board. -/
theorem Story.append {s s' : Encounter} {id : InstanceId} (story : Story s id)
    (below : id ∈ s.board.ids → id.value < s.board.next)
    {lines : List TimedEvent} (journal : s'.journal.toList = s.journal.toList ++ lines)
    (others : ∀ line ∈ lines, line.event.born? ≠ some id ∧ line.event.died? ≠ some id)
    (named : ∀ line ∈ lines, id ∈ line.event.named → id ∈ s.board.ids)
    (ids : id ∈ s'.board.ids ↔ id ∈ s.board.ids) (next : s.board.next ≤ s'.board.next)
    (fresh : s.board.next ≤ id.value → s'.board.next ≤ id.value) : Story s' id := by
  cases story with
  | unborn early silent =>
    refine .unborn (fresh early) ?_
    rw [journal]
    refine List.forall_mem_append.mpr ⟨silent, fun line member names => ?_⟩
    have used := below (named line member names)
    omega
  | living present life =>
    refine .living (ids.mpr present) ?_
    rw [journal]
    exact life.append others
  | @dead used absent past after death old life died blow silent =>
    refine .dead (by omega) (fun present => absent (ids.mp present)) ?_ life died blow
      (List.forall_mem_append.mpr ⟨silent, fun line member names =>
        absent (named line member names)⟩)
    rw [journal, old, List.append_assoc, List.cons_append]

/-- The journal tells of everybody as a story should, and identities are handed out in order. -/
structure Faithful (s : Encounter) : Prop where
  below : ∀ id ∈ s.board.ids, id.value < s.board.next
  stories : ∀ id, Story s id

namespace Faithful

variable {s s' : Encounter}

theorem of_journal_eq (faithful : s.Faithful) (ids : s'.board.ids = s.board.ids)
    (next : s'.board.next = s.board.next) (journal : s'.journal = s.journal) : s'.Faithful := by
  refine ⟨ids ▸ next ▸ faithful.below, fun id => ?_⟩
  exact (faithful.stories id).append (faithful.below id) (by rw [journal, List.append_nil])
    (List.forall_mem_nil _) (List.forall_mem_nil _) (by rw [ids]) (Nat.le_of_eq next.symm)
    fun fresh => next ▸ fresh

/-- What is written of those on the board goes on with their stories. -/
theorem writes (faithful : s.Faithful) (ids : s'.board.ids = s.board.ids)
    (next : s'.board.next = s.board.next) (writes : Writes (Event.Among s.board.ids) s s') :
    s'.Faithful := by
  obtain ⟨lines, journal, told⟩ := writes.lines
  refine ⟨ids ▸ next ▸ faithful.below, fun id => ?_⟩
  refine (faithful.stories id).append (faithful.below id) journal (fun line member => ?_)
    (fun line member named => (told line member).2.named named) (by rw [ids])
    (Nat.le_of_eq next.symm) fun fresh => next ▸ fresh
  have among := (told line member).2
  rw [among.born, among.died]
  exact ⟨nofun, nofun⟩

theorem record (faithful : s.Faithful) {event : Event} (among : event.Among s.board.ids) :
    (s.record event).Faithful :=
  faithful.writes rfl rfl (.record among s)

/-- A newcomer's story begins. -/
theorem birth (faithful : s.Faithful) (template : Template) (position : SummonPosition)
    (summoner : Option InstanceId) {event : Event} (born : event.born? = some ⟨s.board.next⟩)
    (died : event.died? = none)
    (named : ∀ id ∈ event.named, id ∈ s.board.ids ∨ id = ⟨s.board.next⟩) :
    ({ s with board := (s.board.spawn template s.now position summoner).1 }.record
      event).Faithful := by
  refine ⟨fun id member => ?_, fun id => ?_⟩
  · change id.value < s.board.next + 1
    rcases Board.mem_ids_spawn.mp member with old | rfl
    · exact Nat.lt_succ_of_lt (faithful.below id old)
    · exact Nat.lt_succ_self _
  · by_cases new : id = ⟨s.board.next⟩
    · subst new
      have silent : ∀ line ∈ s.journal.toList, ⟨s.board.next⟩ ∉ line.event.named := by
        cases faithful.stories ⟨s.board.next⟩ with
        | unborn _ silent => exact silent
        | living present => exact absurd (faithful.below _ present) (Nat.lt_irrefl _)
        | dead used => exact absurd used (Nat.lt_irrefl _)
      have journal : (s.journal.push ⟨s.now, event⟩).toList =
          s.journal.toList ++ [⟨s.now, event⟩] := Array.toList_push ..
      have sole : Sole Event.born? ⟨s.board.next⟩ s.journal.toList ⟨s.now, event⟩ [] :=
        ⟨born, fun line member born => silent line member (Event.mem_named_of_born born),
          List.forall_mem_nil _⟩
      refine .living (Board.mem_ids_spawn.mpr (.inr rfl)) ⟨⟨_, _, _, journal, sole, silent⟩, ?_⟩
      change ∀ line ∈ (s.journal.push ⟨s.now, event⟩).toList, _
      rw [journal]
      refine List.forall_mem_append.mpr ⟨fun line member died =>
        silent line member (Event.mem_named_of_died died), List.forall_mem_singleton.mpr ?_⟩
      rw [died]
      exact nofun
    · have apart : some (⟨s.board.next⟩ : InstanceId) ≠ some id :=
        fun same => new (Option.some.inj same).symm
      refine (faithful.stories id).append (faithful.below id) (Array.toList_push ..) ?_ ?_ ?_
        (Nat.le_succ _) fun fresh => ?_
      · rw [List.forall_mem_singleton, born, died]
        exact ⟨apart, nofun⟩
      · rw [List.forall_mem_singleton]
        exact fun names => (named id names).resolve_right new
      · exact Board.mem_ids_spawn.trans (or_iff_left new)
      · change s.board.next + 1 ≤ id.value
        have other : s.board.next ≠ id.value := fun same => new (by rw [same])
        omega

/-- The story of one that has been struck down ends. -/
theorem death (faithful : s.Faithful) {id : InstanceId} (present : id ∈ s.board.ids)
    (blow : ∃ line ∈ s.journal.toList, line.now = s.now ∧ line.event.fells? = some id)
    (gremlin : Instance) : (s.parting id gremlin).Faithful := by
  have journal : (s.parting id gremlin).journal.toList = s.journal.toList ++
      [⟨s.now, .died id gremlin.template.id⟩] := Array.toList_push ..
  have ids : (s.parting id gremlin).board.ids = s.board.ids.filter (· ≠ id) := by
    have seen : (s.parting id gremlin).board.ids = (s.board.remove id).ids :=
      Board.ids_map fun _ => rfl
    exact seen.trans Board.ids_remove
  have left : ∀ other, other ∈ (s.parting id gremlin).board.ids →
      other ∈ s.board.ids ∧ other ≠ id := by
    intro other member
    rw [ids, List.mem_filter, decide_eq_true_eq] at member
    exact member
  refine ⟨fun other member => faithful.below other (left other member).1, fun other => ?_⟩
  by_cases same : other = id
  · subst same
    cases faithful.stories other with
    | unborn fresh => exact absurd (faithful.below _ present) (Nat.not_lt.mpr fresh)
    | dead _ absent => exact absurd present absent
    | living _ life =>
      exact .dead (faithful.below _ present) (fun member => (left _ member).2 rfl) journal life rfl
        blow (List.forall_mem_nil _)
  · refine (faithful.stories other).append (faithful.below other) journal ?_ ?_ ?_
      (Nat.le_refl _) fun fresh => fresh
    · rw [List.forall_mem_singleton]
      exact ⟨nofun, fun died => same (Option.some.inj died).symm⟩
    · rw [List.forall_mem_singleton]
      exact fun named => absurd (List.mem_singleton.mp named) same
    · rw [ids, List.mem_filter]
      exact and_iff_left (decide_eq_true same)

end Faithful

/-! ### Effects -/

section Effects

variable {s s' : Encounter}

theorem Effected.ids_subset (effected : Effected s s') : s.board.ids ⊆ s'.board.ids := by
  induction effected with
  | refl => exact List.Subset.refl _
  | tail _ last so_far =>
    refine List.Subset.trans so_far ?_
    rcases last with deed | arrival
    · rw [deed.undisturbed.ids]
      exact List.Subset.refl _
    · intro id present
      cases arrival <;>
      · rw [record, Board.mem_ids_spawn]
        exact .inl present

/-- Effects of a source that is on the board are told faithfully. By the rules of what they come to:
whoever joins is on the board when its own effects are done. -/
theorem Unfolds.faithful {offered : SummonSpec → Prop} {source : Option InstanceId}
    (unfolds : Unfolds offered source s s') (present : source.toList ⊆ s.board.ids)
    (faithful : s.Faithful) : s'.Faithful := by
  induction unfolds with
  | refl _ _ s => exact faithful
  | @plain _ source s s' so_far duration effect ih =>
    have same := (applyPlain_deeds source duration s' effect).undisturbed
    have own := List.Subset.trans present so_far.effected.ids_subset
    exact (ih present faithful).writes same.ids same.next
      (applyPlain_writes _ duration _ effect fun _ aside names _ => .of_aside own aside names)
  | @reinstated _ source s s' so_far duration ih =>
    have same := (reinstate_deeds source duration s').undisturbed
    have own := List.Subset.trans present so_far.effected.ids_subset
    exact (ih present faithful).writes same.ids same.next
      (reinstate_writes _ duration _ fun _ => .of_aside own)
  | @blocked _ id s s' so_far spec refused ih =>
    have same := (turnAway_deeds s' id spec).undisturbed
    have own := List.Subset.trans present so_far.effected.ids_subset
    have told : (Event.summonBlocked id spec).Among s'.board.ids := ⟨own, rfl, rfl⟩
    exact (ih present faithful).writes same.ids same.next (turnAway_writes told s')
  | @missing _ source s s' after so_far spec _ drawn ih =>
    obtain ⟨journal, _, board⟩ := drawn_same drawn
    exact (ih present faithful).of_journal_eq (congrArg Board.ids board)
      (congrArg Board.next board) journal
  | @joined _ source s s' after _ so_far spec template position _ drawn opening ih later =>
    obtain ⟨journal, _, board⟩ := drawn_same drawn
    have own := List.Subset.trans present so_far.effected.ids_subset
    have drew : after.Faithful := (ih present faithful).of_journal_eq (congrArg Board.ids board)
      (congrArg Board.next board) journal
    have welcomed : (after.welcome template position source).Faithful := by
      refine drew.birth template position source rfl rfl fun id named => ?_
      rcases List.mem_append.mp named with summoner | newcomer
      · exact .inl (board ▸ own summoner)
      · exact .inr (List.mem_singleton.mp newcomer)
    refine later (fun id named => ?_) welcomed
    exact Board.mem_ids_spawn.mpr (.inr (List.mem_singleton.mp named))

end Effects

/-! ### Ticks and blows -/

section Calls

variable {s s' : Encounter} {id : InstanceId}

theorem Beats.faithful (beats : Beats s s') (faithful : s.Faithful) : s'.Faithful := by
  induction beats with
  | refl => exact faithful
  | tail _ last so_far =>
    cases last with
    | still same => exact so_far.of_journal_eq same.ids same.next same.journal
    | turn present mover => exact so_far.record (.of_mover mover present)
    | effects present unfolds =>
      exact unfolds.faithful (List.cons_subset.mpr ⟨present, List.nil_subset _⟩) so_far

theorem Faithful.terminate (faithful : s.Faithful) : s.terminate.Faithful := by
  unfold Encounter.terminate
  split
  · exact faithful
  · have stopped : Faithful { s with clock := s.clock.terminate } :=
      faithful.of_journal_eq rfl rfl rfl
    have nobody : Event.terminated.Among s.board.ids := ⟨List.nil_subset _, rfl, rfl⟩
    exact (stopped.record nobody).of_journal_eq rfl rfl rfl

theorem advance_faithful (orderly : Orderly s)
    (sound : ∀ template ∈ s.bestiary.templates, template.Sound) (living : s.Living)
    (success : s.advance = .ok s') (faithful : s.Faithful) : s'.Faithful := by
  obtain ⟨_, last, beats, rfl⟩ := advance_beats orderly sound living success
  have moved : Faithful { s with clock := { s.clock with now := ⟨s.now.count + 1⟩ } } :=
    faithful.of_journal_eq rfl rfl rfl
  have begun : s.begun.Faithful := moved.record ⟨List.nil_subset _, rfl, rfl⟩
  have ticked := beats.faithful begun
  split
  · exact ticked.terminate
  · exact ticked

theorem spawn_faithful {templateId : String} (success : s.spawn templateId = .ok (s', id))
    (faithful : s.Faithful) : s'.Faithful := by
  obtain ⟨template, _, _, entered⟩ := spawn_eq_ok success
  have arrived : (s.arriving template templateId).Faithful :=
    faithful.birth template .bottom none rfl rfl fun other named =>
      .inr (List.mem_singleton.mp named)
  have joined : ⟨s.board.next⟩ ∈ (s.arriving template templateId).board.ids := by
    rw [arriving, record, Board.mem_ids_spawn]
    exact .inr rfl
  have unfolds := enterPassive_unfolds entered
  exact unfolds.faithful (List.cons_subset.mpr ⟨joined, List.nil_subset _⟩) arrived

/-- Whoever has been struck down in this tick is buried faithfully. -/
theorem bury_faithful (blow : ∃ line ∈ s.journal.toList, line.now = s.now ∧
    line.event.fells? = some id) (success : s.bury id = .ok s') (faithful : s.Faithful) :
    s'.Faithful := by
  rcases bury_eq_ok success with ⟨_, rfl⟩ | ⟨gremlin, avenged, found, avenges, rfl⟩
  · exact faithful
  · have present : id ∈ s.board.ids := Board.mem_ids_iff.mpr ⟨gremlin, found⟩
    have unfolds : Unfolds (fun _ => True) (some id) s avenged :=
      applyEffects_unfolds (fun _ _ => trivial) avenges
    have told := unfolds.faithful (List.cons_subset.mpr ⟨present, List.nil_subset _⟩) faithful
    obtain ⟨line, member, now, fells⟩ := blow
    have writes := applyEffects_writes avenges
    exact told.death (unfolds.effected.ids_subset present)
      ⟨line, writes.journal_kept.subset member, now.trans writes.now_eq.symm, fells⟩ gremlin

/-- A blow is told, and whoever it kills is buried. -/
theorem Ensues.faithful {gremlin struck : Instance} {event : Event} {killed : Bool}
    (ensues : Ensues ((s.modify id fun _ => struck).record event) killed s')
    (orderly : Orderly s) (living : s.Living) (found : s.board.get? id = some gremlin)
    (same : struck.id = gremlin.id) (caps : struck.installedCaps = gremlin.installedCaps)
    (lifeless : killed = true → struck.isAlive = false) (still : event.mover? = none)
    (among : event.Among [id]) (fells : killed = true → event.fells? = some id)
    (faithful : s.Faithful) : s'.Faithful := by
  have present : id ∈ s.board.ids := Board.mem_ids_iff.mpr ⟨gremlin, found⟩
  have ids : (s.modify id fun _ => struck).board.ids = s.board.ids :=
    Board.ids_modify fun _ _ => same.trans (Board.id_of_get? found)
  have changed : (s.modify id fun _ => struck).Faithful := faithful.of_journal_eq ids rfl rfl
  have named : event.named ⊆ (s.modify id fun _ => struck).board.ids :=
    ids ▸ List.Subset.trans among.named (List.cons_subset.mpr ⟨present, List.nil_subset _⟩)
  have told := changed.record ⟨named, among.born, among.died⟩
  cases ensues with
  | nothing _ alike => exact alike ▸ told
  | burial kills prunes =>
    obtain ⟨touched, quiet, fallen⟩ := blow_touched still found same caps
    have hurt := (Played.of_touched touched orderly quiet).orderly
    obtain ⟨buried, burials, ended⟩ := bind_eq_ok.mp prunes
    rw [dead_eq_singleton living touched hurt fallen (lifeless kills), List.foldlM_cons,
      bind_eq_ok] at burials
    obtain ⟨_, burial, rest⟩ := burials
    cases rest
    have blow : ∃ line ∈ ((s.modify id fun _ => struck).record event).journal.toList,
        line.now = s.now ∧ line.event.fells? = some id :=
      ⟨⟨s.now, event⟩, by simp [record, modify, now], rfl, fells kills⟩
    have left := bury_faithful blow burial told
    cases ended
    split
    · exact left.terminate
    · exact left

/-- Everything the player can do, and every tick, is told faithfully. -/
theorem Operation.faithful {bestiary : Bestiary}
    (sound : ∀ template ∈ bestiary.templates, template.Sound) {operation : Operation}
    (standing : Standing bestiary s) (plays : operation.isEffect = false)
    (success : operation.run s = .ok s') (faithful : s.Faithful) : s'.Faithful := by
  cases operation with
  | spawn templateId =>
    obtain ⟨id, spawned⟩ := map_fst_eq_ok.mp success
    exact spawn_faithful spawned faithful
  | hit id given =>
    obtain ⟨gremlin, found, ensues⟩ := run_hit_eq_ok success
    exact ensues.faithful standing.orderly standing.living found (gremlin.applyHit_id given)
      (gremlin.applyHit_installedCaps given) Instance.applyHit_lifeless rfl
      ⟨List.Subset.refl _, rfl, rfl⟩ (fun kills => if_pos kills) faithful
  | execute id =>
    obtain ⟨gremlin, found, ensues⟩ := run_execute_eq_ok success
    exact ensues.faithful standing.orderly standing.living found gremlin.execute_id
      gremlin.execute_installedCaps Instance.execute_lifeless rfl
      ⟨List.Subset.refl _, rfl, rfl⟩ (fun lands => if_pos lands) faithful
  | heal id amount =>
    obtain ⟨_, _, rfl⟩ := heal_eq_ok success
    exact faithful.of_journal_eq (Board.ids_modify fun gremlin => (gremlin.heal_id amount).trans)
      rfl rfl
  | observe action =>
    cases success
    exact faithful.of_journal_eq (Board.ids_map fun _ => rfl) rfl rfl
  | terminate =>
    cases success
    exact faithful.terminate
  | advance =>
    exact advance_faithful standing.orderly (standing.known ▸ sound) standing.living success
      faithful
  | gain | spend | notify | reseed | nest =>
    cases success
    exact faithful.of_journal_eq rfl rfl rfl
  | effect => cases plays

end Calls

/-! ### What the journal tells -/

theorem Blank.faithful {bestiary : Bestiary} {s : Encounter} (blank : Blank bestiary s) :
    s.Faithful := by
  refine ⟨?_, fun id => .unborn ?_ ?_⟩
  · rw [blank.board]
    exact List.forall_mem_nil _
  · rw [blank.board]
    exact Nat.zero_le _
  · rw [blank.journal]
    exact List.forall_mem_nil _

theorem ByPlay.faithful {bestiary : Bestiary}
    (sound : ∀ template ∈ bestiary.templates, template.Sound) {s : Encounter}
    (play : ByPlay bestiary s) : s.Faithful := by
  induction play with
  | fresh seed => exact (new_blank bestiary seed).faithful
  | arranged success =>
    obtain ⟨_, _, start, blank, _, _, spawns⟩ := ofScenario_laid success
    refine foldlM_preserves (motive := Faithful) _ (fun _ _ _ _ so_far stepped => ?_)
      blank.faithful spawns
    obtain ⟨id, spawned⟩ := map_fst_eq_ok.mp stepped
    exact spawn_faithful spawned so_far
  | step so_far operation plays success ih =>
    exact operation.faithful sound (so_far.reachable.standing sound) plays success ih

/-- What the journal tells of a gremlin: it is born and dies at most once; it is named by nothing
before its birth and by nothing after its death, which follows a blow of the same tick; and it is on
the board from the one to the other. -/
structure Recorded (s : Encounter) (id : InstanceId) : Prop where
  birth_once : (s.journal.toList.filter (·.event.born? = some id)).length ≤ 1
  birth_given : ∀ line ∈ s.journal.toList, id ∈ line.event.named →
    ∃ birth ∈ s.journal.toList, birth.event.born? = some id
  birth_first : ∀ past birth rest, s.journal.toList = past ++ birth :: rest →
    birth.event.born? = some id → ∀ line ∈ past, id ∉ line.event.named
  death_once : (s.journal.toList.filter (·.event.died? = some id)).length ≤ 1
  death_last : ∀ past death rest, s.journal.toList = past ++ death :: rest →
    death.event.died? = some id → ∀ line ∈ rest, id ∉ line.event.named
  death_blow : ∀ past death rest, s.journal.toList = past ++ death :: rest →
    death.event.died? = some id → ∃ blow ∈ past, blow.now = death.now ∧
      blow.event.fells? = some id
  present : id ∈ s.board.ids ↔ (∃ birth ∈ s.journal.toList, birth.event.born? = some id) ∧
    ∀ line ∈ s.journal.toList, line.event.died? ≠ some id

/-- Whoever is named at all has been born once, and before that it is not named. -/
theorem Story.begins {s : Encounter} {id : InstanceId} (story : Story s id) :
    (∀ line ∈ s.journal.toList, id ∉ line.event.named) ∨
      ∃ before birth during, s.journal.toList = before ++ birth :: during ∧
        Sole Event.born? id before birth during ∧ ∀ line ∈ before, id ∉ line.event.named := by
  cases story with
  | unborn _ silent => exact .inl silent
  | living _ life => exact .inr life.begins
  | @dead _ _ past after death journal life died _ silent =>
    obtain ⟨before, birth, during, rfl, sole, early⟩ := life.begins
    refine .inr ⟨before, birth, during ++ death :: after, ?_, ⟨sole.told, sole.early, ?_⟩, early⟩
    · rw [journal, List.append_assoc, List.cons_append]
    · refine List.forall_mem_append.mpr ⟨sole.late, List.forall_mem_cons.mpr ⟨?_, ?_⟩⟩
      · rw [Event.born_of_died died]
        exact nofun
      · exact fun line member born => silent line member (Event.mem_named_of_born born)

/-- Whoever has died has died once, after a blow of the same tick, and is not named any more. -/
theorem Story.ends {s : Encounter} {id : InstanceId} (story : Story s id) :
    (∀ line ∈ s.journal.toList, line.event.died? ≠ some id) ∨
      ∃ past death after, s.journal.toList = past ++ death :: after ∧
        Sole Event.died? id past death after ∧ (∀ line ∈ after, id ∉ line.event.named) ∧
        ∃ blow ∈ past, blow.now = death.now ∧ blow.event.fells? = some id := by
  cases story with
  | unborn _ silent =>
    exact .inl fun line member died => silent line member (Event.mem_named_of_died died)
  | living _ life => exact .inl life.undying
  | @dead _ _ past after death journal life died blow silent =>
    refine .inr ⟨past, death, after, journal, ⟨died, life.undying, ?_⟩, silent, blow⟩
    exact fun line member died => silent line member (Event.mem_named_of_died died)

theorem Faithful.mem_ids_iff {s : Encounter} (faithful : s.Faithful) (id : InstanceId) :
    id ∈ s.board.ids ↔ (∃ birth ∈ s.journal.toList, birth.event.born? = some id) ∧
      ∀ line ∈ s.journal.toList, line.event.died? ≠ some id := by
  cases faithful.stories id with
  | unborn fresh silent =>
    refine iff_of_false (fun present => ?_) fun ⟨⟨birth, member, born⟩, _⟩ =>
      silent birth member (Event.mem_named_of_born born)
    exact absurd (faithful.below id present) (Nat.not_lt.mpr fresh)
  | living present life =>
    obtain ⟨before, birth, during, journal, sole, _⟩ := life.begins
    refine iff_of_true present ⟨⟨birth, ?_, sole.told⟩, life.undying⟩
    rw [journal]
    exact List.mem_append_right _ List.mem_cons_self
  | @dead _ absent past after death journal _ died =>
    refine iff_of_false absent fun both => both.2 death ?_ died
    rw [journal]
    exact List.mem_append_right _ List.mem_cons_self

theorem Faithful.recorded {s : Encounter} (faithful : s.Faithful) (id : InstanceId) :
    Recorded s id := by
  have none : ∀ {tells : Event → Option InstanceId},
      (∀ line ∈ s.journal.toList, tells line.event ≠ some id) →
      (s.journal.toList.filter fun line => tells line.event = some id).length ≤ 1 := by
    intro tells none
    rw [List.filter_eq_nil_iff.mpr fun line member => by simpa using none line member]
    exact Nat.zero_le _
  have among : ∀ {past rest : List TimedEvent} {line : TimedEvent},
      s.journal.toList = past ++ line :: rest → line ∈ s.journal.toList :=
    fun journal => journal ▸ List.mem_append_right _ List.mem_cons_self
  have births : (s.journal.toList.filter (·.event.born? = some id)).length ≤ 1 ∧
      (∀ line ∈ s.journal.toList, id ∈ line.event.named →
        ∃ birth ∈ s.journal.toList, birth.event.born? = some id) ∧
      ∀ past birth rest, s.journal.toList = past ++ birth :: rest →
        birth.event.born? = some id → ∀ line ∈ past, id ∉ line.event.named := by
    rcases (faithful.stories id).begins with silent | ⟨before, birth, during, journal, sole, silent⟩
    · have unborn : ∀ line ∈ s.journal.toList, line.event.born? ≠ some id :=
        fun line member born => silent line member (Event.mem_named_of_born born)
      exact ⟨none unborn, fun line member named => absurd named (silent line member),
        fun past birth rest journal born => absurd born (unborn birth (among journal))⟩
    · refine ⟨journal ▸ sole.length_le_one, fun _ _ _ => ⟨birth, among journal, sole.told⟩, ?_⟩
      intro past other rest same born
      obtain ⟨rfl, _, _⟩ := sole.unique (journal.symm.trans same) born
      exact silent
  have deaths : (s.journal.toList.filter (·.event.died? = some id)).length ≤ 1 ∧
      ∀ past death rest, s.journal.toList = past ++ death :: rest →
        death.event.died? = some id → (∀ line ∈ rest, id ∉ line.event.named) ∧
          ∃ blow ∈ past, blow.now = death.now ∧ blow.event.fells? = some id := by
    rcases (faithful.stories id).ends with living | ⟨past, death, after, journal, sole, facts⟩
    · exact ⟨none living, fun past death rest journal died =>
        absurd died (living death (among journal))⟩
    · refine ⟨journal ▸ sole.length_le_one, fun past' other rest same died => ?_⟩
      obtain ⟨rfl, rfl, rfl⟩ := sole.unique (journal.symm.trans same) died
      exact facts
  exact {
    birth_once := births.1
    birth_given := births.2.1
    birth_first := births.2.2
    death_once := deaths.1
    death_last := fun past death rest journal died => (deaths.2 past death rest journal died).1
    death_blow := fun past death rest journal died => (deaths.2 past death rest journal died).2
    present := faithful.mem_ids_iff id }

/-! ### The present move -/

/-- The gremlin of a track is in the move that it entered last, or in its opening one. -/
def Track.Current (track : Track) : Prop := track.gremlin.move = track.indices.getLastD 0

theorem Track.Current.of_eq {track track' : Track} (current : track.Current)
    (entries : track'.turns.filter (·.event.isEntry) = track.turns.filter (·.event.isEntry))
    (move : track'.gremlin.move = track.gremlin.move) : track'.Current := by
  rw [Track.Current, Track.indices, entries, move]
  exact current

theorem Track.Current.changed {now : Ticks} {track track' : Track} (current : track.Current)
    (changed : Changed now track track') : track'.Current := by
  cases changed with
  | lifeless lifeless => exact current
  | stays generator alive next =>
    obtain ⟨observed, same⟩ := track.gremlin.nextMove_gremlin generator
    rw [same]
    exact current.of_eq rfl rfl
  | enters generator index alive next =>
    rw [Track.Current, Track.indices_enters, List.getLastD_concat]
    rfl

theorem Reachable.move_eq {bestiary : Bestiary}
    (sound : ∀ template ∈ bestiary.templates, template.Sound) {s : Encounter}
    (reachable : Reachable bestiary s) {gremlin : Instance} (present : gremlin ∈ s.board.gremlins) :
    gremlin.move = (s.enteredMoves gremlin).getLastD 0 := by
  have newborn : ∀ {now track}, Track.Newborn bestiary now track → track.Current := by
    rintro now track ⟨id, template, summoner, known⟩
    rfl
  have found := Board.get?_of_mem (reachable.standing sound).orderly.numbered.distinct present
  have current : Track.Current ⟨gremlin.bare, s.turns gremlin.id⟩ := by
    refine reachable.track_holds sound (motive := fun _ track => track.Current) ?_ ?_ ?_ ?_
      (track?_of_get? found)
    · exact fun now track born => newborn born
    · exact fun now track track' born changed => (newborn born).changed changed
    · intro now track track' handled current
      exact current.of_eq (by rw [handled.turns])
        (congrArg Instance.move handled.gremlin.course :)
    · intro now track track' fit current changed
      have ticked := Track.ticked (Instance.isAlive_iff.mpr fit.health.positive) ⟨now.count + 1⟩
      exact (current.of_eq ticked.entries ticked.move).changed changed
  have turns : (⟨gremlin.bare, s.turns gremlin.id⟩ : Track).turns = s.turns gremlin.id := rfl
  rw [enteredMoves_eq_indices turns]
  exact current

/-- Whatever the player does in a fight, its journal is faithful: it tells of the birth of everybody
before all else that names it, and of its death, after a blow of the same tick, as the last thing
that does; so that it shows who is on the board, which move they are in, and what time it is. -/
theorem journal_faithful {records : List Record} {s : Encounter}
    (play : ByPlay (Bestiary.load records).1 s) :
    (∀ id, Recorded s id) ∧
    (∀ gremlin ∈ s.board.gremlins, gremlin.move = (s.enteredMoves gremlin).getLastD 0) ∧
    (s.journal.toList.filter (·.event.isTick)).length = s.now.count := by
  have sound : ∀ template ∈ (Bestiary.load records).1.templates, template.Sound :=
    fun _ member => Bestiary.sound_of_mem_load member
  refine ⟨(play.faithful sound).recorded, fun gremlin => play.reachable.move_eq sound, ?_⟩
  rw [(play.reachable.chronicle sound).ticks, tickMarks, List.length_map, List.length_range]

/-- A chrysalis is hit to death after a tick, and the moth that comes out of it stays. -/
theorem journal_faithful_chrysalis : ∃ s,
    Operation.runAll (new (Bestiary.load hatching).1 7)
      [.spawn "chrysalis", .advance, .hit ⟨0⟩ ⟨3, false⟩] = .ok s ∧
    s.journal.toList.map (·.event.named) = [[⟨0⟩], [], [⟨0⟩], [⟨0⟩, ⟨1⟩], [⟨0⟩]] ∧
    s.board.ids = [⟨1⟩] ∧ s.now = ⟨1⟩ ∧ Recorded s ⟨0⟩ ∧ Recorded s ⟨1⟩ := by
  have ran : ((Operation.runAll (new (Bestiary.load hatching).1 7)
      [.spawn "chrysalis", .advance, .hit ⟨0⟩ ⟨3, false⟩]).toOption.map fun s =>
        (s.journal.toList.map (·.event.named), s.board.ids, s.now)) =
      some ([[⟨0⟩], [], [⟨0⟩], [⟨0⟩, ⟨1⟩], [⟨0⟩]], [⟨1⟩], ⟨1⟩) := by
    decide +kernel
  obtain ⟨s, success, facts⟩ := toOption_map_eq_some.mp ran
  simp only [Prod.mk.injEq] at facts
  obtain ⟨named, ids, now⟩ := facts
  obtain ⟨recorded, _⟩ := journal_faithful ((ByPlay.fresh 7).runAll (by decide) success)
  exact ⟨s, success, named, ids, now, recorded ⟨0⟩, recorded ⟨1⟩⟩

end Encounter

end Gremlin
