import Gremlin.Proofs.Encounter.Turns

set_option autoImplicit false

/-!
A whole tick as seen from the tracks. Whoever was there holds, fires and changes its move, in this
order and each once; whoever joins has at most changed its move; and as long as everyone is alive
nobody leaves.
-/

namespace Gremlin

/-- Some health is left, and no more than the full. -/
structure Health.Fit (health : Health) : Prop where
  positive : 0 < health.current
  within : health.current ≤ health.max

namespace Encounter

namespace Track

section Views

variable {β : Type} (view : Instance → β)
  (counted : ∀ gremlin, view gremlin.countTrigger = view gremlin)

include counted

/-- Holding a move does nothing to a gremlin but count the trigger. -/
theorem hold_view (track : Track) : view track.hold.gremlin = view track.gremlin := by
  unfold hold
  split
  · exact counted _
  · rfl

/-- Firing does nothing to a gremlin but age it and count the trigger. -/
theorem fire_view (aged : ∀ gremlin, view gremlin.age = view gremlin) (track : Track)
    (now : Ticks) : view (track.fire now).gremlin = view track.gremlin := by
  unfold fire
  split
  · split
    · exact (counted _).trans (aged _)
    · exact aged _
  · rfl

end Views

/-- Changing its move does nothing to a gremlin but what looking around and entering a move do. -/
theorem Changed.view_eq {β : Type} (view : Instance → β)
    (blind : ∀ gremlin observed, view { gremlin with observed } = view gremlin)
    (entered : ∀ gremlin index, view (gremlin.enterMove index) = view gremlin) {now : Ticks}
    {track track' : Track} (changed : Changed now track track') :
    view track'.gremlin = view track.gremlin := by
  cases changed with
  | lifeless lifeless => rfl
  | stays generator alive next => exact track.gremlin.nextMove_view view generator (blind _)
  | enters generator index alive next =>
    exact (entered _ _).trans (track.gremlin.nextMove_view view generator (blind _))

theorem hold_health (track : Track) : track.hold.gremlin.health = track.gremlin.health :=
  track.hold_view (·.health) fun _ => rfl

theorem fire_health (track : Track) (now : Ticks) :
    (track.fire now).gremlin.health = track.gremlin.health :=
  track.fire_view (·.health) (fun _ => rfl) (fun _ => rfl) now

theorem hold_template (track : Track) : track.hold.gremlin.template = track.gremlin.template :=
  track.hold_view (·.template) fun _ => rfl

theorem fire_template (track : Track) (now : Ticks) :
    (track.fire now).gremlin.template = track.gremlin.template :=
  track.fire_view (·.template) (fun _ => rfl) (fun _ => rfl) now

section Changed

variable {now : Ticks} {track track' : Track} (changed : Changed now track track')

include changed

theorem Changed.health : track'.gremlin.health = track.gremlin.health :=
  changed.view_eq (·.health) (fun _ _ => rfl) fun _ _ => rfl

theorem Changed.template : track'.gremlin.template = track.gremlin.template :=
  changed.view_eq (·.template) (fun _ _ => rfl) fun _ _ => rfl

theorem Changed.spawnedAt : track'.gremlin.spawnedAt = track.gremlin.spawnedAt :=
  changed.view_eq (·.spawnedAt) (fun _ _ => rfl) fun _ _ => rfl

/-- Whoever is alive is in the move it decides on, or stays in its own. -/
theorem Changed.move_eq (alive : track.gremlin.isAlive = true) : ∃ generator,
    track'.gremlin.move = (track.gremlin.nextMove generator).1.getD track.gremlin.move := by
  cases changed with
  | lifeless lifeless => exact absurd (alive.symm.trans lifeless) nofun
  | stays generator _ next =>
    refine ⟨generator, ?_⟩
    rw [next, Option.getD_none]
    exact track.gremlin.nextMove_view (·.move) generator fun _ => rfl
  | enters generator index _ next =>
    refine ⟨generator, ?_⟩
    rw [next, Option.getD_some]
    rfl

end Changed

theorem Newborn.fit {bestiary : Bestiary} {now : Ticks} {track : Track}
    (sound : ∀ template ∈ bestiary.templates, template.Sound)
    (born : Newborn bestiary now track) : track.gremlin.health.Fit := by
  obtain ⟨id, template, summoner, known⟩ := born
  exact ⟨(sound template known).healthy, Nat.le_refl _⟩

end Track

/-! ### The same board -/

section SameBoard

variable {s s' : Encounter} (board : s'.board = s.board) (turns : ∀ id, s'.turns id = s.turns id)

include board

theorem CapsSound.of_board_eq (sound : s.CapsSound) : s'.CapsSound := by
  unfold CapsSound
  rw [board]
  exact sound

include turns

theorem track?_of_board_eq (id : InstanceId) : s'.track? id = s.track? id :=
  track?_congr (by rw [board]) (turns id)

theorem Orderly.of_board_eq (orderly : s.Orderly) : s'.Orderly := by
  refine ⟨board ▸ orderly.numbered, fun id fresh => ?_⟩
  rw [turns]
  exact orderly.silent id (board ▸ fresh)

end SameBoard

/-! ### The end of a tick -/

/-- Everyone on the board has health left. -/
def Living (s : Encounter) : Prop :=
  ∀ id track, s.track? id = some track → track.gremlin.health.Fit

theorem Living.dead_eq_nil {s : Encounter} (living : s.Living) (orderly : s.Orderly) :
    s.board.dead = [] := by
  refine List.eq_nil_iff_forall_not_mem.mpr fun id member => ?_
  obtain ⟨gremlin, found, lifeless⟩ := (Board.mem_dead_iff orderly.numbered.distinct).mp member
  have alive : gremlin.isAlive = true :=
    Instance.isAlive_iff.mpr (living id _ (track?_of_get? found)).positive
  rw [lifeless] at alive
  cases alive

/-- The fight is over if nobody is left, and otherwise as it was. -/
structure Concluded (s s' : Encounter) : Prop where
  now : s'.now = s.now
  board : s'.board = s.board
  bestiary : s'.bestiary = s.bestiary
  turns : ∀ id, s'.turns id = s.turns id
  kept : s.board.ids ≠ [] → s'.clock = s.clock
  ended : s'.board.ids = [] → s'.clock.terminated = true

theorem terminate_concluded (s : Encounter) :
    s.terminate.now = s.now ∧ s.terminate.board = s.board ∧ s.terminate.bestiary = s.bestiary ∧
      (∀ id, s.terminate.turns id = s.turns id) ∧ s.terminate.clock.terminated = true := by
  unfold terminate
  split
  · rename_i ended
    exact ⟨rfl, rfl, rfl, fun _ => rfl, ended⟩
  · exact ⟨rfl, rfl, rfl, turns_record_of_none rfl, rfl⟩

theorem isEmpty_iff {board : Board} : board.isEmpty = true ↔ board.ids = [] := by
  rw [Board.isEmpty, List.isEmpty_iff, Board.ids, List.map_eq_nil_iff]

theorem pruneDead_eq_ok {s s' : Encounter} (success : s.pruneDead = .ok s') :
    ∃ after, s.board.dead.foldlM bury s = .ok after ∧ Concluded after s' := by
  rw [pruneDead, bind_eq_ok] at success
  obtain ⟨after, buried, success⟩ := success
  cases success
  refine ⟨after, buried, ?_⟩
  by_cases empty : after.board.isEmpty = true
  · rw [if_pos empty]
    obtain ⟨now, board, bestiary, turns, ended⟩ := after.terminate_concluded
    exact ⟨now, board, bestiary, turns, fun some => absurd (isEmpty_iff.mp empty) some,
      fun _ => ended⟩
  · rw [if_neg empty]
    exact ⟨rfl, rfl, rfl, fun _ => rfl, fun _ => rfl, fun none => absurd (isEmpty_iff.mpr none) empty⟩

namespace Concluded

variable {s s' : Encounter}

theorem track?_eq (same : Concluded s s') (id : InstanceId) : s'.track? id = s.track? id :=
  track?_of_board_eq same.board same.turns id

theorem orderly (same : Concluded s s') (orderly : Orderly s) : Orderly s' :=
  orderly.of_board_eq same.board same.turns

theorem caps (same : Concluded s s') (sound : s.CapsSound) : s'.CapsSound :=
  sound.of_board_eq same.board

end Concluded

/-! ### The phases of a tick -/

theorem applyPassives_phase {s s' : Encounter} (orderly : Orderly s)
    (success : s.applyPassives = .ok s') :
    Phase (fun _ track track' => track' = track.hold) s.board.ids s s' ∧
      s'.board.ids = s.board.ids := by
  have released : Undisturbed s { s with
      pool := s.pool.releaseAllPassive
      pressure := s.pressure.releaseAllPassive } := .of_board_eq rfl rfl rfl fun _ => rfl
  have lifted : Phase (fun _ track track' => track' = track.hold) [] s _ :=
    .of_undisturbed orderly released
  have held := foldlM_phase holdMove_phase lifted.orderly orderly.numbered.distinct
    (fun _ member => member) success
  refine ⟨lifted.trans held (fun id none => by cases none) fun _ member => member, ?_⟩
  exact foldlM_preserves (motive := fun after => after.board.ids = s.board.ids) _
    (fun state id next _ same stepped => (holdMove_touched stepped).1.ids.trans same) rfl success

theorem fireMoves_phase {s s' : Encounter} (orderly : Orderly s)
    (success : s.fireMoves = .ok s') :
    Phase (fun now track track' => track' = track.fire now) s.board.ids s s' :=
  foldlM_phase fireMove_phase orderly orderly.numbered.distinct (fun _ member => member) success

theorem runTransitions_phase {s s' : Encounter} (orderly : Orderly s)
    (success : s.runTransitions = .ok s') : Phase Track.Changed s.board.ids s s' :=
  foldlM_phase changeMove_phase orderly orderly.numbered.distinct (fun _ member => member) success

/-- From `s` to `s'` everyone has lived through a tick. -/
structure Advanced (s s' : Encounter) : Prop where
  now : s'.now = ⟨s.now.count + 1⟩
  bestiary : s'.bestiary = s.bestiary
  next : s.board.next ≤ s'.board.next
  orderly : Orderly s'
  aged : ∀ id track, s.track? id = some track →
    ∃ track', s'.track? id = some track' ∧ Track.Changed s'.now (track.hold.fire s'.now) track'
  joined : ∀ id track, s.track? id = none → s'.track? id = some track →
    s.board.next ≤ id.value ∧
      ∃ born, Track.Newborn s.bestiary s'.now born ∧ (track = born ∨ Track.Changed s'.now born track)
  caps : s.CapsSound → s'.CapsSound
  ended : s'.board.ids = [] → s'.clock.terminated = true

/-- The three phases of a tick one after another. -/
structure Phased (s s' : Encounter) : Prop where
  now : s'.now = s.now
  bestiary : s'.bestiary = s.bestiary
  next : s.board.next ≤ s'.board.next
  orderly : Orderly s'
  aged : ∀ id track, s.track? id = some track →
    ∃ track', s'.track? id = some track' ∧ Track.Changed s.now (track.hold.fire s.now) track'
  joined : ∀ id track, s.track? id = none → s'.track? id = some track →
    s.board.next ≤ id.value ∧
      ∃ born, Track.Newborn s.bestiary s.now born ∧ (track = born ∨ Track.Changed s.now born track)
  caps : s.CapsSound → s'.CapsSound

/-- The first two phases of a tick one after another: whoever was there has held and fired its move,
and whoever has joined has not had a turn. -/
structure Readied (s fired : Encounter) : Prop where
  now : fired.now = s.now
  bestiary : fired.bestiary = s.bestiary
  next : s.board.next ≤ fired.board.next
  orderly : Orderly fired
  aged : ∀ id track, s.track? id = some track → fired.track? id = some (track.hold.fire s.now)
  joined : ∀ id track, s.track? id = none → fired.track? id = some track →
    s.board.next ≤ id.value ∧ Track.Newborn s.bestiary s.now track
  caps : s.CapsSound → fired.CapsSound

theorem readied {s held fired : Encounter} (orderly : Orderly s)
    (holds : s.applyPassives = .ok held) (fires : held.fireMoves = .ok fired) :
    Readied s fired := by
  obtain ⟨first, ids⟩ := applyPassives_phase orderly holds
  have second := fireMoves_phase first.orderly fires
  refine ⟨second.now_eq.trans first.now_eq, second.bestiary.trans first.bestiary,
    Nat.le_trans first.next second.next, second.orderly, ?_, ?_,
    fun sound => second.caps (first.caps sound)⟩
  · intro id track found
    obtain ⟨track₁, found₁, rfl⟩ := first.taken id (mem_ids_of_track? found) track found
    obtain ⟨track₂, found₂, rfl⟩ := second.taken id (mem_ids_of_track? found₁) _ found₁
    rw [first.now_eq] at found₂
    exact found₂
  · intro id track absent found
    have waiting : held.track? id = none := by
      rw [track?_eq_none_iff, ids, ← track?_eq_none_iff]
      exact absent
    obtain ⟨fresh, born⟩ := second.joined id track waiting found
    rw [first.bestiary, first.now_eq] at born
    exact ⟨Nat.le_trans first.next fresh, born⟩

theorem phased {s held fired s' : Encounter} (orderly : Orderly s)
    (holds : s.applyPassives = .ok held) (fires : held.fireMoves = .ok fired)
    (changes : fired.runTransitions = .ok s') : Phased s s' := by
  have readied := readied orderly holds fires
  have third := runTransitions_phase readied.orderly changes
  refine ⟨third.now_eq.trans readied.now, third.bestiary.trans readied.bestiary,
    Nat.le_trans readied.next third.next, third.orderly, ?_, ?_,
    fun sound => third.caps (readied.caps sound)⟩
  · intro id track found
    have aged := readied.aged id track found
    obtain ⟨track', after, changed⟩ := third.taken id (mem_ids_of_track? aged) _ aged
    rw [readied.now] at changed
    exact ⟨track', after, changed⟩
  · intro id track absent found
    cases between : fired.track? id with
    | none =>
      obtain ⟨fresh, born⟩ := third.joined id track between found
      rw [readied.bestiary, readied.now] at born
      exact ⟨Nat.le_trans readied.next fresh, track, born, .inl rfl⟩
    | some early =>
      obtain ⟨fresh, born⟩ := readied.joined id early absent between
      obtain ⟨track', after, changed⟩ := third.taken id (mem_ids_of_track? between) early between
      rw [found] at after
      cases after
      rw [readied.now] at changed
      exact ⟨fresh, early, born, .inr changed⟩

theorem Phased.living {s s' : Encounter} (phased : Phased s s')
    (sound : ∀ template ∈ s.bestiary.templates, template.Sound) (living : s.Living) :
    s'.Living := by
  intro id track found
  cases before : s.track? id with
  | some old =>
    obtain ⟨track', after, changed⟩ := phased.aged id old before
    rw [found] at after
    cases after
    rw [changed.health, Track.fire_health, Track.hold_health]
    exact living id old before
  | none =>
    obtain ⟨_, born, newborn, same | changed⟩ := phased.joined id track before found
    · rw [same]
      exact newborn.fit sound
    · rw [changed.health]
      exact newborn.fit sound

/-- An encounter at the beginning of the next tick. -/
def begun (s : Encounter) : Encounter :=
  ({ s with clock := { s.clock with now := ⟨s.now.count + 1⟩ } } : Encounter).record
    (.tick ⟨s.now.count + 1⟩)

theorem begun_board (s : Encounter) : s.begun.board = s.board := rfl

theorem begun_journal (s : Encounter) : s.begun.journal.toList =
    s.journal.toList ++ [⟨⟨s.now.count + 1⟩, .tick ⟨s.now.count + 1⟩⟩] :=
  Array.toList_push ..

theorem begun_turns (s : Encounter) (id : InstanceId) : s.begun.turns id = s.turns id :=
  turns_record_of_none rfl id

theorem begun_track? (s : Encounter) (id : InstanceId) : s.begun.track? id = s.track? id :=
  track?_of_board_eq s.begun_board s.begun_turns id

theorem begun_orderly {s : Encounter} (orderly : Orderly s) : s.begun.Orderly :=
  orderly.of_board_eq s.begun_board s.begun_turns

theorem begun_living {s : Encounter} (living : s.Living) : s.begun.Living := by
  intro id track found
  rw [begun_track?] at found
  exact living id track found

/-- The stations of a tick: passive moves are held, moves fire, moves change, overlays run out;
nobody is dead. -/
structure Stations (s held fired changed s' : Encounter) : Prop where
  running : s.clock.terminated = false
  holds : s.begun.applyPassives = .ok held
  fires : held.fireMoves = .ok fired
  changes : fired.runTransitions = .ok changed
  ends : changed.expire.pruneDead = .ok s'
  nobody : changed.expire.board.dead = []

theorem expire_undisturbed (s : Encounter) : Undisturbed s s.expire :=
  .of_board_eq rfl rfl rfl fun _ => rfl

theorem expire_orderly {s : Encounter} (orderly : Orderly s) : s.expire.Orderly :=
  (show Phase (fun _ _ _ => True) [] _ _ from .of_undisturbed orderly s.expire_undisturbed).orderly

/-- A tick goes through its stations one after another. -/
theorem advance_eq_ok {s s' : Encounter} (success : s.advance = .ok s') :
    s.clock.terminated = false ∧ ∃ held fired changed, s.begun.applyPassives = .ok held ∧
      held.fireMoves = .ok fired ∧ fired.runTransitions = .ok changed ∧
        changed.expire.pruneDead = .ok s' := by
  unfold advance at success
  split at success
  · cases success
  · rename_i clock ticks
    obtain ⟨held, holds, success⟩ := bind_eq_ok.mp success
    obtain ⟨fired, fires, success⟩ := bind_eq_ok.mp success
    obtain ⟨changed, changes, pruned⟩ := bind_eq_ok.mp success
    obtain ⟨running, rfl⟩ : s.clock.terminated = false ∧
        { s.clock with now := ⟨s.clock.now.count + 1⟩ } = clock := by
      rw [Clock.advance?, Option.ite_none_left_eq_some] at ticks
      exact ⟨Bool.eq_false_iff.mpr ticks.1, Option.some.inj ticks.2⟩
    exact ⟨running, held, fired, changed, holds, fires, changes, pruned⟩

theorem advance_stations {s s' : Encounter} (orderly : Orderly s)
    (sound : ∀ template ∈ s.bestiary.templates, template.Sound) (living : s.Living)
    (success : s.advance = .ok s') : ∃ held fired changed, Stations s held fired changed s' := by
  obtain ⟨running, held, fired, changed, holds, fires, changes, pruned⟩ := advance_eq_ok success
  have phases := phased (begun_orderly orderly) holds fires changes
  have alive : changed.Living := phases.living sound (begun_living living)
  have nobody : changed.expire.board.dead = [] :=
    Living.dead_eq_nil alive (expire_orderly phases.orderly)
  exact ⟨held, fired, changed, running, holds, fires, changes, pruned, nobody⟩

/-- Since nobody is dead, the last station only ends the fight if nobody is left. -/
theorem Stations.concluded {s held fired changed s' : Encounter}
    (stations : Stations s held fired changed s') : Concluded changed.expire s' := by
  obtain ⟨after, buried, concluded⟩ := pruneDead_eq_ok stations.ends
  rw [stations.nobody] at buried
  cases buried
  exact concluded

theorem Stations.track?_eq {s held fired changed s' : Encounter}
    (stations : Stations s held fired changed s') (id : InstanceId) :
    s'.track? id = changed.track? id :=
  (stations.concluded.track?_eq id).trans (changed.expire_undisturbed.track?_eq id)

theorem advance_advanced {s s' : Encounter} (orderly : Orderly s)
    (sound : ∀ template ∈ s.bestiary.templates, template.Sound) (living : s.Living)
    (success : s.advance = .ok s') : s.clock.terminated = false ∧ Advanced s s' := by
  obtain ⟨held, fired, changed, stations⟩ := advance_stations orderly sound living success
  have phases := phased (begun_orderly orderly) stations.holds stations.fires stations.changes
  have expired := changed.expire_undisturbed
  have concluded := stations.concluded
  have last := stations.track?_eq
  have time : s'.now = s.begun.now := concluded.now.trans phases.now
  refine ⟨stations.running, time, concluded.bestiary.trans phases.bestiary, ?_,
    concluded.orderly (expire_orderly phases.orderly), ?_, ?_, ?_, concluded.ended⟩
  · rw [concluded.board]
    exact phases.next
  · intro id track found
    rw [last, time]
    exact phases.aged id track ((s.begun_track? id).trans found)
  · intro id track absent found
    rw [last] at found
    rw [time]
    exact phases.joined id track ((s.begun_track? id).trans absent) found
  · intro caps
    exact concluded.caps (expired.caps (phases.caps (caps.of_board_eq s.begun_board)))

end Encounter

end Gremlin
