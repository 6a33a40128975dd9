import Gremlin.Proofs.Encounter.Resolutions

set_option autoImplicit false

/-!
The stays of a gremlin in its moves, as the journal tells of them: each begins with an entry, and
ends with the next one or with the blow that fells the gremlin. What a stay in a passive move has
come to is kept as the fight goes on, and is there as soon as the entry is over.
-/

namespace Gremlin

/-- What of a gremlin tells which move it is in. -/
def Instance.place (gremlin : Instance) : Template × Nat := (gremlin.template, gremlin.move)

theorem Instance.map_place_bare (found : Option Instance) :
    (found.map bare).map place = found.map place := by
  rw [Option.map_map]
  rfl

namespace Encounter

/-! ### Stays in the journal -/

/-- A stay of a gremlin in a move. -/
structure Stay where
  index : Nat
  /-- The tick of the entry. -/
  since : Ticks
  /-- How many lines the journal has down to the entry. -/
  start : Nat
  /-- The lines from the entry on. -/
  lines : List TimedEvent

namespace Stay

/-- How many lines the journal has down to the end of the stay. -/
def stop (stay : Stay) : Nat := stay.start + stay.lines.length

/-- Whether an effect is done during the stay. -/
def covers (stay : Stay) (r : Resolution) : Bool := stay.start ≤ r.line && r.line ≤ stay.stop

/-- The effects that are done on a gremlin's behalf during one of its stays. -/
def own (id : InstanceId) (all : List Resolution) (stay : Stay) : List Resolution :=
  all.filter fun r => r.doer = some id && stay.covers r

/-- The stay goes on. -/
def extend (stay : Stay) (lines : List TimedEvent) : Stay :=
  { stay with lines := stay.lines ++ lines }

end Stay

/-- The ticks that begin in some lines. -/
def ticksIn (lines : List TimedEvent) : List Ticks :=
  (lines.filter (·.event.isTick)).map (·.now)

theorem ticksIn_append (lines more : List TimedEvent) :
    ticksIn (lines ++ more) = ticksIn lines ++ ticksIn more := by
  rw [ticksIn, List.filter_append, List.map_append]
  rfl

theorem Sits.ticksIn_written {id : InstanceId} {s s' : Encounter} (sits : Sits id s s') :
    ticksIn (written s s') = [] := by
  rw [ticksIn, List.filter_eq_nil_iff.mpr fun line member => ?_, List.map_nil]
  rw [(sits.lines line member).2.tick]
  exact Bool.false_ne_true

/-- The stays that some lines tell of, those that are over and the one that goes on. -/
structure Visits where
  size : Nat := 0
  past : List Stay := []
  present : Option Stay := none

namespace Visits

/-- All stays, the earliest first. -/
def all (visits : Visits) : List Stay := visits.past ++ visits.present.toList

/-- A line is read that may bring the gremlin into a move, or fell it. -/
def turn (visits : Visits) (line : TimedEvent) : Option Nat → Bool → Visits
  | some index, _ => ⟨visits.size + 1, visits.all, some ⟨index, line.now, visits.size + 1, []⟩⟩
  | none, true => ⟨visits.size + 1, visits.all, none⟩
  | none, false => ⟨visits.size + 1, visits.past, visits.present.map (·.extend [line])⟩

/-- A line is read. -/
def read (id : InstanceId) (visits : Visits) (line : TimedEvent) : Visits :=
  visits.turn line (line.event.enters? id) (line.event.fells? = some id)

/-- Lines that neither bring the gremlin into a move nor fell it are part of the present stay. -/
theorem foldl_read_aside {id : InstanceId} {lines : List TimedEvent}
    (aside : ∀ line ∈ lines, line.event.enters? id = none ∧ line.event.fells? ≠ some id)
    (visits : Visits) : lines.foldl (read id) visits =
      ⟨visits.size + lines.length, visits.past, visits.present.map (·.extend lines)⟩ := by
  induction lines generalizing visits with
  | nil =>
    have same : ∀ stay : Stay, stay.extend [] = stay := fun stay => by
      rw [Stay.extend, List.append_nil]
    cases visits with
    | mk size past present => cases present <;> simp [same]
  | cons line rest ih =>
    obtain ⟨entry, fells⟩ := aside line List.mem_cons_self
    have one : visits.read id line =
        ⟨visits.size + 1, visits.past, visits.present.map (·.extend [line])⟩ := by
      rw [read, entry, decide_eq_false fells, turn]
    rw [List.foldl_cons, one, ih fun other member => aside other (List.mem_cons_of_mem _ member)]
    cases visits with
    | mk size past present =>
      cases present <;> simp [Stay.extend, Nat.add_assoc, Nat.add_comm 1]

/-- Once the gremlin is in no move, only an entry begins a stay. -/
theorem foldl_read_after {id : InstanceId} {lines : List TimedEvent}
    (entries : ∀ line ∈ lines, line.event.enters? id = none) {visits : Visits}
    (ended : visits.present = none) : lines.foldl (read id) visits =
      ⟨visits.size + lines.length, visits.past, none⟩ := by
  induction lines generalizing visits with
  | nil =>
    cases visits
    cases ended
    rfl
  | cons line rest ih =>
    have one : visits.read id line = ⟨visits.size + 1, visits.past, none⟩ := by
      rw [read, entries line List.mem_cons_self]
      cases decide (line.event.fells? = some id) <;> simp [turn, all, ended]
    rw [List.foldl_cons, one,
      ih (fun other member => entries other (List.mem_cons_of_mem _ member)) rfl]
    simp [Nat.add_assoc, Nat.add_comm 1]

theorem size_foldl_read (id : InstanceId) (lines : List TimedEvent) (visits : Visits) :
    (lines.foldl (read id) visits).size = visits.size + lines.length := by
  induction lines generalizing visits with
  | nil => rfl
  | cons line rest ih =>
    have one : (visits.read id line).size = visits.size + 1 := by
      unfold read
      cases line.event.enters? id <;> cases decide (line.event.fells? = some id) <;> rfl
    rw [List.foldl_cons, ih, one, List.length_cons, Nat.add_assoc, Nat.add_comm 1]

/-- The present stay goes on to the last line. -/
def Open (visits : Visits) : Prop := ∀ stay, visits.present = some stay → stay.stop = visits.size

theorem Open.read {id : InstanceId} {visits : Visits} (still : visits.Open) (line : TimedEvent) :
    (visits.read id line).Open := by
  unfold Visits.read
  cases line.event.enters? id with
  | some index =>
    rintro _ ⟨⟩
    rfl
  | none =>
    cases decide (line.event.fells? = some id) with
    | true => exact nofun
    | false =>
      intro stay present
      obtain ⟨before, was, rfl⟩ := Option.map_eq_some_iff.mp present
      have stop := still before was
      rw [Stay.stop] at stop ⊢
      change before.start + (before.lines ++ [line]).length = visits.size + 1
      rw [List.length_append, List.length_singleton, ← Nat.add_assoc, stop]

theorem Open.foldl_read {id : InstanceId} {visits : Visits} (still : visits.Open)
    (lines : List TimedEvent) : (lines.foldl (Visits.read id) visits).Open := by
  induction lines generalizing visits with
  | nil => exact still
  | cons line rest ih => exact ih (still.read line)

end Visits

/-- The stays of a gremlin that a journal tells of. -/
def stays (id : InstanceId) (journal : List TimedEvent) : List Stay :=
  (journal.foldl (Visits.read id) {}).all

/-- What the journal tells so far of the stays of a gremlin. -/
def visits (s : Encounter) (id : InstanceId) : Visits := s.journal.toList.foldl (Visits.read id) {}

theorem visits_size (s : Encounter) (id : InstanceId) : (s.visits id).size = s.journal.size := by
  rw [visits, Visits.size_foldl_read, Array.length_toList]
  exact Nat.zero_add _

theorem visits_stop {s : Encounter} {id : InstanceId} {stay : Stay}
    (present : (s.visits id).present = some stay) : stay.stop = s.journal.size := by
  have none : ({} : Visits).Open := nofun
  rw [none.foldl_read s.journal.toList stay present]
  exact s.visits_size id

theorem Grows.visits {s s' : Encounter} (grows : Grows s s') (id : InstanceId) :
    s'.visits id = (written s s').foldl (Visits.read id) (s.visits id) := by
  rw [Encounter.visits, grows.journal, List.foldl_append]
  rfl

/-! ### What a stay in a passive move comes to -/

/-- A stay in a passive move: the effects of its entry are done at its tick, then in every tick those
that the move goes on doing, and no others on the gremlin's behalf. -/
structure Stay.ResolvesOnce (id : InstanceId) (move : Move) (all : List Resolution) (stay : Stay) :
    Prop where
  /-- Those of the entry come first, what stands while the move is held after what is done once. -/
  resolved : (stay.own id all).map (fun r => (r.now, r.effect)) =
    (entryEffects move).map (stay.since, ·) ++
      (ticksIn stay.lines).flatMap fun now => (continuousEffects move).map (now, ·)
  /-- The gremlin is told to have done what its move does, each of its effects once. -/
  tidings : (∀ size, Effect.summon (.ofSize size) ∉ move.effects) →
    stay.lines.filterMap (·.event.tiding? id) = move.effects.filterMap Effect.tiding?
  stamped : ∀ line ∈ stay.lines, (line.event.tiding? id).isSome = true → line.now = stay.since
  unfired : ∀ line ∈ stay.lines, ∀ index, line.event ≠ .moveFired id index

/-- A stay is in an active move, or comes to what one in a passive move should. -/
def Stay.Proper (id : InstanceId) (moves : List Move) (all : List Resolution) (stay : Stay) : Prop :=
  ∀ move, moves[stay.index]? = some move → move.isPassive = true → stay.ResolvesOnce id move all

/-- While a passive move is held: what it goes on doing is done in every tick, and nothing else. -/
structure Holds (id : InstanceId) (move : Move) (all : List Resolution) (lines : List TimedEvent) :
    Prop where
  resolved : (all.filter (·.doer = some id)).map (fun r => (r.now, r.effect)) =
    (ticksIn lines).flatMap fun now => (continuousEffects move).map (now, ·)
  silent : ∀ line ∈ lines, line.event.tiding? id = none
  unfired : ∀ line ∈ lines, ∀ index, line.event ≠ .moveFired id index

section Stays

variable {id : InstanceId} {move : Move} {moves : List Move} {all more : List Resolution}
  {stay : Stay} {lines : List TimedEvent}

theorem Stay.own_append : stay.own id (all ++ more) = stay.own id all ++ stay.own id more :=
  List.filter_append ..

theorem Stay.own_of_covers (within : ∀ r ∈ all, stay.covers r = true) :
    stay.own id all = all.filter (·.doer = some id) :=
  List.filter_congr fun r member => by rw [within r member, Bool.and_true]

theorem Stay.own_of_beyond (beyond : ∀ r ∈ all, stay.covers r = false) : stay.own id all = [] :=
  List.filter_eq_nil_iff.mpr fun r member => by
    rw [beyond r member, Bool.and_false]
    exact Bool.false_ne_true

/-- What is done after a stay does not count. -/
theorem Stay.Proper.beyond (proper : stay.Proper id moves all)
    (later : ∀ r ∈ more, stay.stop < r.line) : stay.Proper id moves (all ++ more) := by
  intro move current passive
  have once := proper move current passive
  refine { once with resolved := ?_ }
  have beyond : ∀ r ∈ more, stay.covers r = false := by
    intro r member
    rw [Stay.covers, decide_eq_false (Nat.not_le.mpr (later r member)), Bool.and_false]
  rw [Stay.own_append, Stay.own_of_beyond beyond, List.append_nil]
  exact once.resolved

/-- A stay goes on while its move is held. -/
theorem Stay.ResolvesOnce.extend (once : stay.ResolvesOnce id move all)
    (holds : Holds id move more lines) (before : ∀ r ∈ all, r.line ≤ stay.stop)
    (during : ∀ r ∈ more, stay.stop ≤ r.line ∧ r.line ≤ stay.stop + lines.length) :
    (stay.extend lines).ResolvesOnce id move (all ++ more) := by
  have stop : (stay.extend lines).stop = stay.stop + lines.length := by
    rw [Stay.stop, Stay.stop, Stay.extend, List.length_append, Nat.add_assoc]
  have start : stay.start ≤ stay.stop := Nat.le_add_right _ _
  have early : (stay.extend lines).own id all = stay.own id all := by
    refine List.filter_congr fun r member => ?_
    have last := before r member
    rw [covers, covers, stop, decide_eq_true last, decide_eq_true (Nat.le_add_right_of_le last)]
    rfl
  have late : ∀ r ∈ more, (stay.extend lines).covers r = true := by
    intro r member
    obtain ⟨first, last⟩ := during r member
    rw [covers, stop, decide_eq_true last, Bool.and_true]
    exact decide_eq_true (Nat.le_trans start first)
  refine ⟨?_, fun sized => ?_, ?_, ?_⟩
  · have ticks : ticksIn (stay.extend lines).lines = ticksIn stay.lines ++ ticksIn lines :=
      ticksIn_append ..
    rw [own_append, early, own_of_covers late, List.map_append, once.resolved,
      holds.resolved, ticks, List.flatMap_append, List.append_assoc]
    rfl
  · rw [Stay.extend, List.filterMap_append, once.tidings sized,
      List.filterMap_eq_nil_iff.mpr holds.silent, List.append_nil]
  · refine List.forall_mem_append.mpr ⟨once.stamped, fun line member told => ?_⟩
    rw [holds.silent line member] at told
    cases told
  · exact List.forall_mem_append.mpr ⟨once.unfired, holds.unfired⟩

end Stays

theorem filterMap_continuousEffects (move : Move) :
    (continuousEffects move).filterMap Effect.tiding? = [] :=
  List.filterMap_eq_nil_iff.mpr fun _ member =>
    Effect.tiding?_of_isContinuous (List.mem_filter.mp member).2

/-- All effects of a move that are told of are those of its entry. -/
theorem filterMap_entryEffects (move : Move) :
    (entryEffects move).filterMap Effect.tiding? = move.effects.filterMap Effect.tiding? := by
  have standing : ∀ effect ∈ move.effects.filter (·.isStanding), effect.tiding? = none := by
    intro effect member
    have stands := (List.mem_filter.mp member).2
    refine Effect.tiding?_of_isContinuous ?_
    cases effect <;> first | rfl | cases stands
  rw [entryEffects, List.filterMap_append, List.filterMap_eq_nil_iff.mpr standing, List.append_nil,
    List.filterMap_filter]
  refine List.filterMap_congr fun effect _ => ?_
  cases continuous : effect.isContinuous with
  | true => exact (Effect.tiding?_of_isContinuous continuous).symm
  | false => rfl

/-- An entry begins a stay that has come to what it should when the effects of the entry are done. -/
theorem Resolves.begins {id : InstanceId} {move : Move} {all more : List Resolution}
    {w s' : Encounter} {index : Nat} (before : ∀ r ∈ all, r.line < w.journal.size)
    (resolves : Resolves id (entryEffects move) more w s') :
    (⟨index, w.now, w.journal.size, written w s'⟩ : Stay).ResolvesOnce id move (all ++ more) := by
  have grows := resolves.sits.grows.size
  have early : ∀ r ∈ all,
      (⟨index, w.now, w.journal.size, written w s'⟩ : Stay).covers r = false := by
    intro r member
    rw [Stay.covers, decide_eq_false (Nat.not_le.mpr (before r member)), Bool.false_and]
  have late : ∀ r ∈ more,
      (⟨index, w.now, w.journal.size, written w s'⟩ : Stay).covers r = true := by
    intro r member
    obtain ⟨first, last⟩ := resolves.within r member
    rw [grows] at last
    rw [Stay.covers, Stay.stop, decide_eq_true first, decide_eq_true last, Bool.and_true]
  refine ⟨?_, fun sized => ?_, fun line member _ => (resolves.sits.lines line member).1,
    fun line member => (resolves.sits.lines line member).2.fired⟩
  · rw [Stay.own_append, Stay.own_of_beyond early, Stay.own_of_covers late, List.nil_append,
      resolves.resolved, resolves.sits.ticksIn_written, List.flatMap_nil, List.append_nil]
  · exact (resolves.tidings fun size member =>
      sized size (mem_effects_of_mem_entryEffects member)).trans (filterMap_entryEffects move)

/-! ### What is kept -/

/-- What has become of a gremlin with some moves so far: its stays have come to what they should, and
it is on the board, in the move of the stay that goes on. -/
structure Told (id : InstanceId) (moves : List Move) (all : List Resolution) (s : Encounter) :
    Prop where
  within : ∀ r ∈ all, r.line ≤ s.journal.size
  kin : ∀ gremlin, s.board.get? id = some gremlin → gremlin.template.moves = moves
  past : ∀ stay ∈ (s.visits id).past, stay.stop < s.journal.size ∧ stay.Proper id moves all
  present : ∀ stay, (s.visits id).present = some stay → stay.Proper id moves all ∧
    ∃ gremlin, s.board.get? id = some gremlin ∧ gremlin.move = stay.index
  unborn : s.board.next ≤ id.value → (s.visits id).past = [] ∧ (s.visits id).present = none

/-- From `s` to `s'` a gremlin stays in its move; if that is passive, ticks are held in full. -/
structure Continues (id : InstanceId) (all : List Resolution) (s s' : Encounter) : Prop where
  next : s.board.next ≤ s'.board.next
  place : (s'.board.get? id).map Instance.place = (s.board.get? id).map Instance.place
  grows : Grows s s'
  aside : ∀ line ∈ written s s', line.event.enters? id = none ∧ line.event.fells? ≠ some id
  within : ∀ r ∈ all, s.journal.size ≤ r.line ∧ r.line ≤ s'.journal.size
  held : ∀ move, s.held? id = some move → Holds id move all (written s s')

/-- From `s` to `s'` what has been told of a gremlin is kept, whatever moves it turns out to have if
it is born on the way. -/
structure Carries (id : InstanceId) (all : List Resolution) (s s' : Encounter) : Prop where
  next : s.board.next ≤ s'.board.next
  told : ∀ moves before, Told id moves before s →
    ∃ moves', (id.value < s.board.next → moves' = moves) ∧ Told id moves' (before ++ all) s'

/-- From `s` to `s'` a gremlin leaves the board and enters no move. -/
structure Departs (id : InstanceId) (all : List Resolution) (s s' : Encounter) : Prop where
  next : s.board.next ≤ s'.board.next
  grows : Grows s s'
  entries : ∀ line ∈ written s s', line.event.enters? id = none
  absent : s'.board.get? id = none
  within : ∀ r ∈ all, s.journal.size ≤ r.line ∧ r.line ≤ s'.journal.size

section Kept

variable {id : InstanceId} {all all' : List Resolution} {s s' s'' w : Encounter}

/-- Whether it is over or goes on, a stay has come to what it should. -/
theorem Told.proper {moves : List Move} (told : Told id moves all s) {stay : Stay}
    (member : stay ∈ (s.visits id).all) :
    stay.stop ≤ s.journal.size ∧ stay.Proper id moves all := by
  rcases List.mem_append.mp member with past | present
  · exact (told.past stay past).imp_left Nat.le_of_lt
  · have present := Option.mem_toList.mp present
    exact ⟨Nat.le_of_eq (visits_stop present), (told.present stay present).1⟩

theorem place_eq_some {gremlin : Instance} (same : (s'.board.get? id).map Instance.place =
    (s.board.get? id).map Instance.place) (found : s'.board.get? id = some gremlin) :
    ∃ old, s.board.get? id = some old ∧ old.template = gremlin.template ∧
      old.move = gremlin.move := by
  rw [found, Option.map_some] at same
  obtain ⟨old, present, alike⟩ := Option.map_eq_some_iff.mp same.symm
  exact ⟨old, present, congrArg Prod.fst alike, congrArg Prod.snd alike⟩

theorem Sits.place (sits : Sits id s s') :
    (s'.board.get? id).map Instance.place = (s.board.get? id).map Instance.place := by
  have project : ∀ found : Option Instance, found.map Instance.place =
      (found.map Instance.station).map fun facts => (facts.1, facts.2.1) := by
    intro found
    rw [Option.map_map]
    rfl
  rw [project, sits.station, ← project]

theorem Resolves.continues {own : List Effect} (resolves : Resolves id own all s s')
    (idle : ∀ move, s.held? id = some move → own = []) : Continues id all s s' := by
  have sits := resolves.sits
  refine ⟨sits.next, sits.place, sits.grows, fun line member => ?_, resolves.within,
    fun move held => ?_⟩
  · exact ⟨(sits.lines line member).2.entry, (sits.lines line member).2.fells⟩
  · have none := idle move held
    subst none
    refine ⟨?_, ?_, fun line member => (sits.lines line member).2.fired⟩
    · rw [resolves.resolved, sits.ticksIn_written]
      rfl
    · exact List.filterMap_eq_nil_iff.mp (resolves.tidings fun _ => List.not_mem_nil)

/-- A stay goes on. -/
theorem Continues.carries (continues : Continues id all s s') : Carries id all s s' := by
  refine ⟨continues.next, fun moves before told => ⟨moves, fun _ => rfl, ?_⟩⟩
  have visits : s'.visits id = ⟨(s.visits id).size + (written s s').length, (s.visits id).past,
      (s.visits id).present.map (·.extend (written s s'))⟩ := by
    rw [continues.grows.visits, Visits.foldl_read_aside continues.aside]
  have size := continues.grows.size
  have kin : ∀ gremlin, s'.board.get? id = some gremlin → gremlin.template.moves = moves := by
    intro gremlin found
    obtain ⟨old, present, template, _⟩ := place_eq_some continues.place found
    rw [← template]
    exact told.kin old present
  refine ⟨List.forall_mem_append.mpr ⟨?_, fun r member => (continues.within r member).2⟩, kin, ?_,
    ?_, ?_⟩
  · intro r member
    rw [size]
    exact Nat.le_add_right_of_le (told.within r member)
  · rw [visits]
    intro stay member
    obtain ⟨ended, proper⟩ := told.past stay member
    rw [size]
    exact ⟨Nat.lt_add_right _ ended, proper.beyond fun r member =>
      Nat.lt_of_lt_of_le ended (continues.within r member).1⟩
  · rw [visits]
    intro stay present
    obtain ⟨old, was, rfl⟩ := Option.map_eq_some_iff.mp present
    obtain ⟨proper, gremlin, found, index⟩ := told.present old was
    have stop := visits_stop was
    refine ⟨fun move current passive => ?_, ?_⟩
    · have held : s.held? id = some move := by
        rw [← told.kin gremlin found, show (old.extend (written s s')).index = old.index from rfl,
          ← index] at current
        rw [held?_of_get? found, Instance.passiveMove?, Instance.currentMove?, current,
          Option.filter_some, if_pos passive]
      refine (proper move current passive).extend (continues.held move held) ?_ ?_
      · rw [stop]
        exact told.within
      · rw [stop, ← size]
        exact continues.within
    · obtain ⟨later, present, _, same⟩ := place_eq_some continues.place.symm found
      exact ⟨later, present, same.trans index⟩
  · intro fresh
    obtain ⟨past, present⟩ := told.unborn (Nat.le_trans continues.next fresh)
    rw [visits, past, present]
    exact ⟨rfl, rfl⟩

theorem Carries.trans (first : Carries id all s s') (second : Carries id all' s' s'') :
    Carries id (all ++ all') s s'' := by
  refine ⟨Nat.le_trans first.next second.next, fun moves before told => ?_⟩
  obtain ⟨moves', same, told'⟩ := first.told moves before told
  obtain ⟨moves'', same', told''⟩ := second.told moves' _ told'
  refine ⟨moves'', fun born => ?_, List.append_assoc .. ▸ told''⟩
  rw [same' (Nat.lt_of_lt_of_le born first.next), same born]

theorem size_of_line {line : TimedEvent}
    (journal : w.journal.toList = s.journal.toList ++ [line]) :
    w.journal.size = s.journal.size + 1 := by
  rw [(Grows.size ⟨_, journal.symm⟩ : w.journal.size = _), written_of_eq journal]
  rfl

/-- A line that brings a gremlin into a move ends the stay before and begins one. -/
theorem visits_of_entry {event : Event} {index : Nat}
    (journal : w.journal.toList = s.journal.toList ++ [⟨s.now, event⟩])
    (entry : event.enters? id = some index) :
    w.visits id = ⟨w.journal.size, (s.visits id).all, some ⟨index, s.now, w.journal.size, []⟩⟩ := by
  rw [size_of_line journal, visits, journal, List.foldl_append, List.foldl_cons, List.foldl_nil,
    ← visits, Visits.read, entry, Visits.turn, visits_size]

/-- Whoever has had a stay had joined by then, so its moves are those it has later. -/
theorem Told.moves_eq {moves : List Move} {gremlin : Instance} (told : Told id moves all s)
    (kin : id.value < s.board.next →
      ∃ old, s.board.get? id = some old ∧ old.template = gremlin.template)
    {stay : Stay} (member : stay ∈ (s.visits id).all) : gremlin.template.moves = moves := by
  by_cases old : id.value < s.board.next
  · obtain ⟨early, present, template⟩ := kin old
    rw [← template]
    exact told.kin early present
  · obtain ⟨past, present⟩ := told.unborn (Nat.not_lt.mp old)
    rw [Visits.all, past, present] at member
    cases member

/-- A gremlin enters a move, or joins the board, and does the effects of its entry. -/
theorem Carries.enters {event : Event} {index : Nat} {gremlin : Instance}
    (journal : w.journal.toList = s.journal.toList ++ [⟨s.now, event⟩]) (now : w.now = s.now)
    (entry : event.enters? id = some index) (next : s.board.next ≤ w.board.next)
    (found : w.board.get? id = some gremlin) (current : gremlin.move = index)
    (born : id.value < w.board.next)
    (kin : id.value < s.board.next →
      ∃ old, s.board.get? id = some old ∧ old.template = gremlin.template)
    (resolves : Resolves id ((w.held? id).elim [] entryEffects) all w s') : Carries id all s s' := by
  have sits := resolves.sits
  refine ⟨Nat.le_trans next sits.next, fun moves before told => ⟨gremlin.template.moves, ?_, ?_⟩⟩
  · intro old
    obtain ⟨early, present, template⟩ := kin old
    rw [← template]
    exact told.kin early present
  have size := size_of_line journal
  have grown : s.journal.size < s'.journal.size := by
    rw [sits.grows.size, size]
    omega
  have visits : s'.visits id = ⟨w.journal.size + (written w s').length, (s.visits id).all,
      some ⟨index, w.now, w.journal.size, written w s'⟩⟩ := by
    rw [sits.grows.visits, Visits.foldl_read_aside, visits_of_entry journal entry, now]
    · rfl
    · exact fun line member => ⟨(sits.lines line member).2.entry, (sits.lines line member).2.fells⟩
  have station : ∀ later, s'.board.get? id = some later →
      later.template = gremlin.template ∧ later.move = gremlin.move := by
    intro later present
    have same := sits.station
    rw [present, found, Option.map_some, Option.map_some] at same
    have facts := Option.some.inj same
    exact ⟨congrArg (·.1) facts, congrArg (·.2.1) facts⟩
  refine ⟨List.forall_mem_append.mpr ⟨fun r member => ?_, fun r member =>
    (resolves.within r member).2⟩, fun later present => congrArg _ (station later present).1, ?_,
    ?_, ?_⟩
  · exact Nat.le_of_lt (Nat.lt_of_le_of_lt (told.within r member) grown)
  · rw [visits]
    intro stay member
    have same := told.moves_eq kin member
    obtain ⟨ended, proper⟩ := told.proper member
    refine ⟨Nat.lt_of_le_of_lt ended grown, same ▸ proper.beyond fun r member => ?_⟩
    have first := (resolves.within r member).1
    rw [size] at first
    exact Nat.lt_of_le_of_lt ended first
  · rw [visits]
    rintro _ ⟨⟩
    refine ⟨fun move index passive => ?_, ?_⟩
    · have held : w.held? id = some move := by
        rw [held?_of_get? found, Instance.passiveMove?, Instance.currentMove?, current, index,
          Option.filter_some, if_pos passive]
      rw [held] at resolves
      refine Resolves.begins (fun r member => ?_) resolves
      rw [size]
      exact Nat.lt_succ_of_le (told.within r member)
    · have same := sits.station
      rw [found, Option.map_some] at same
      obtain ⟨later, present, _⟩ := Option.map_eq_some_iff.mp same
      exact ⟨later, present, (station later present).2.trans current⟩
  · intro fresh
    exact absurd (Nat.lt_of_lt_of_le born sits.next) (Nat.not_lt.mpr fresh)

/-- A gremlin is felled and leaves the board; what it does on dying is after its last stay. -/
theorem Carries.dies {event : Event}
    (strikes : w.journal.toList = s.journal.toList ++ [⟨s.now, event⟩])
    (fells : event.fells? = some id) (next : w.board.next = s.board.next)
    (born : id.value < s.board.next) (departs : Departs id all w s') : Carries id all s s' := by
  have falls : Grows s w := ⟨_, strikes.symm⟩
  have grows := falls.trans departs.grows
  have lines : written s s' = ⟨s.now, event⟩ :: written w s' := by
    rw [written_trans falls departs.grows, written_of_eq strikes]
    rfl
  have begun := size_of_line strikes
  have last : s.board.next ≤ s'.board.next := next ▸ departs.next
  refine ⟨last, fun moves before told => ⟨moves, fun _ => rfl, ?_⟩⟩
  have size := grows.size
  rw [lines, List.length_cons] at size
  have grown : s.journal.size < s'.journal.size := by omega
  have visits : s'.visits id =
      ⟨(s.visits id).size + 1 + (written w s').length, (s.visits id).all, none⟩ := by
    have felled : (s.visits id).read id ⟨s.now, event⟩ =
        ⟨(s.visits id).size + 1, (s.visits id).all, none⟩ := by
      rw [Visits.read, (Event.aside_of_fells fells).1, decide_eq_true fells, Visits.turn]
    rw [grows.visits, lines, List.foldl_cons, felled, Visits.foldl_read_after departs.entries rfl]
  refine ⟨List.forall_mem_append.mpr ⟨fun r member => ?_, fun r member =>
    (departs.within r member).2⟩, ?_, ?_, ?_, ?_⟩
  · exact Nat.le_of_lt (Nat.lt_of_le_of_lt (told.within r member) grown)
  · intro gremlin found
    rw [departs.absent] at found
    cases found
  · rw [visits]
    intro stay member
    obtain ⟨ended, proper⟩ := told.proper member
    refine ⟨Nat.lt_of_le_of_lt ended grown, proper.beyond fun r member => ?_⟩
    have first := (departs.within r member).1
    rw [begun] at first
    exact Nat.lt_of_le_of_lt ended first
  · rw [visits]
    exact nofun
  · exact fun fresh => absurd (Nat.lt_of_lt_of_le born last) (Nat.not_lt.mpr fresh)

end Kept

end Encounter

end Gremlin
