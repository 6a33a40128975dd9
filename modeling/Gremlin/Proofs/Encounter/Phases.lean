import Gremlin.Encounter.Tick
import Gremlin.Proofs.Encounter.Tracks

set_option autoImplicit false

/-!
Phases of a tick as seen from the tracks. In a phase some gremlins have a turn, each once; the
tracks of all others stay, and whoever joins in the meantime has the track of a newborn.
-/

namespace Gremlin

namespace Encounter

/-- A gremlin without what effects change on it, and the entries and firings of its moves. -/
structure Track where
  gremlin : Instance
  turns : List TimedEvent

/-- The track of the gremlin with an identity. -/
def track? (s : Encounter) (id : InstanceId) : Option Track :=
  (s.board.get? id).map fun gremlin => ⟨gremlin.bare, s.turns id⟩

theorem track?_of_get? {s : Encounter} {id : InstanceId} {gremlin : Instance}
    (found : s.board.get? id = some gremlin) : s.track? id = some ⟨gremlin.bare, s.turns id⟩ := by
  rw [track?, found, Option.map_some]

theorem get?_of_track? {s : Encounter} {id : InstanceId} {track : Track}
    (found : s.track? id = some track) :
    ∃ gremlin, s.board.get? id = some gremlin ∧ track = ⟨gremlin.bare, s.turns id⟩ := by
  obtain ⟨gremlin, present, rfl⟩ := Option.map_eq_some_iff.mp found
  exact ⟨gremlin, present, rfl⟩

theorem track?_eq_none_iff {s : Encounter} {id : InstanceId} :
    s.track? id = none ↔ id ∉ s.board.ids := by
  rw [track?, Option.map_eq_none_iff, Board.get?_eq_none_iff]

theorem mem_ids_of_track? {s : Encounter} {id : InstanceId} {track : Track}
    (found : s.track? id = some track) : id ∈ s.board.ids := by
  obtain ⟨gremlin, present, _⟩ := get?_of_track? found
  exact Board.mem_ids_iff.mpr ⟨gremlin, present⟩

theorem track?_congr {s s' : Encounter} {id : InstanceId}
    (bare : (s'.board.get? id).map Instance.bare = (s.board.get? id).map Instance.bare)
    (turns : s'.turns id = s.turns id) : s'.track? id = s.track? id := by
  have split : ∀ u : Encounter, u.track? id =
      ((u.board.get? id).map Instance.bare).map fun gremlin => ⟨gremlin, u.turns id⟩ := by
    intro u
    rw [Option.map_map]
    rfl
  rw [split, split, bare, turns]

/-- The tracks of gremlins that have just been born. -/
inductive Track.Newborn (bestiary : Bestiary) (now : Ticks) : Track → Prop
  | mk (id : InstanceId) (template : Template) (summoner : Option InstanceId)
      (known : template ∈ bestiary.templates) :
      Newborn bestiary now ⟨(Instance.spawn id template now summoner).bare, []⟩

/-- The board is numbered, and nothing is heard of the moves of gremlins yet to come. -/
structure Orderly (s : Encounter) : Prop where
  numbered : s.board.Numbered
  silent : ∀ id : InstanceId, s.board.next ≤ id.value → s.turns id = []

theorem Orderly.track?_of_le {s : Encounter} (orderly : Orderly s) {id : InstanceId}
    (fresh : s.board.next ≤ id.value) : s.track? id = none := by
  rw [track?, orderly.numbered.get?_of_le fresh, Option.map_none]

/-- A newcomer remembers no caps. -/
theorem CapsSound.spawned {s : Encounter} (sound : s.CapsSound) (numbered : s.board.Numbered)
    (template : Template) (position : SummonPosition) (summoner : Option InstanceId)
    (event : Event) : ({ s with
      board := (s.board.spawn template s.now position summoner).1 }.record event).CapsSound := by
  intro id gremlin found
  change (s.board.spawn template s.now position summoner).1.get? id = some gremlin at found
  by_cases fresh : id = ⟨s.board.next⟩
  · subst fresh
    rw [numbered.get?_spawn_same] at found
    cases found
    exact .spawn _ template s.now summoner
  · rw [Board.Numbered.get?_spawn_other template s.now position summoner fresh] at found
    exact sound id gremlin found

/-- From `s` to `s'` each of some gremlins has had its turn, all at the same tick. -/
structure Phase (turn : Ticks → Track → Track → Prop) (ids : List InstanceId) (s s' : Encounter) :
    Prop where
  clock : s'.clock = s.clock
  bestiary : s'.bestiary = s.bestiary
  next : s.board.next ≤ s'.board.next
  orderly : Orderly s'
  taken : ∀ id ∈ ids, ∀ track, s.track? id = some track →
    ∃ track', s'.track? id = some track' ∧ turn s.now track track'
  kept : ∀ id, id ∉ ids → ∀ track, s.track? id = some track → s'.track? id = some track
  joined : ∀ id track, s.track? id = none → s'.track? id = some track →
    s.board.next ≤ id.value ∧ Track.Newborn s.bestiary s.now track
  caps : s.CapsSound → s'.CapsSound

namespace Phase

variable {turn : Ticks → Track → Track → Prop}

theorem now_eq {ids : List InstanceId} {s s' : Encounter} (phase : Phase turn ids s s') :
    s'.now = s.now :=
  congrArg Clock.now phase.clock

/-- Whoever was there stays. -/
theorem stays {ids : List InstanceId} {s s' : Encounter} (phase : Phase turn ids s s')
    {id : InstanceId} (present : id ∈ s.board.ids) : id ∈ s'.board.ids := by
  obtain ⟨gremlin, found⟩ := Board.mem_ids_iff.mp present
  have before := track?_of_get? found
  by_cases member : id ∈ ids
  · obtain ⟨track', after, _⟩ := phase.taken id member _ before
    exact mem_ids_of_track? after
  · exact mem_ids_of_track? (phase.kept id member _ before)

theorem of_undisturbed {s s' : Encounter} (orderly : Orderly s) (same : Undisturbed s s') :
    Phase turn [] s s' := by
  have tracks : ∀ id, s'.track? id = s.track? id := fun id =>
    track?_congr (same.bare id) (same.turns id)
  refine ⟨same.clock, same.bestiary, Nat.le_of_eq same.next.symm, ⟨?_, ?_⟩, ?_, ?_, ?_, same.caps⟩
  · exact orderly.numbered.of_ids_eq same.ids (Nat.le_of_eq same.next.symm)
  · intro id fresh
    rw [same.turns]
    exact orderly.silent id (same.next ▸ fresh)
  · intro id member
    cases member
  · intro id _ track found
    rw [tracks, found]
  · intro id track absent found
    rw [tracks, absent] at found
    cases found

/-- A gremlin joins the board. -/
theorem of_spawn {s : Encounter} (orderly : Orderly s) {template : Template}
    (known : template ∈ s.bestiary.templates) (position : SummonPosition)
    (summoner : Option InstanceId) {event : Event} (still : event.mover? = none) :
    Phase turn [] s ({ s with
      board := (s.board.spawn template s.now position summoner).1 }.record event) := by
  have turns : ∀ id, ({ s with
      board := (s.board.spawn template s.now position summoner).1 }.record event).turns id =
        s.turns id := turns_record_of_none still
  have others : ∀ id, id ≠ ⟨s.board.next⟩ → ({ s with
      board := (s.board.spawn template s.now position summoner).1 }.record event).board.get? id =
        s.board.get? id :=
    fun id apart => Board.Numbered.get?_spawn_other template s.now position summoner apart
  have joined := orderly.numbered.get?_spawn_same template s.now position summoner
  refine ⟨rfl, rfl, Nat.le_succ _, ⟨?_, ?_⟩, ?_, ?_, ?_, ?_⟩
  · exact orderly.numbered.spawn template s.now position summoner
  · intro id fresh
    rw [turns]
    exact orderly.silent id (Nat.le_of_succ_le fresh)
  · intro id member
    cases member
  · intro id _ track found
    have apart : id ≠ ⟨s.board.next⟩ := by
      rintro rfl
      rw [orderly.track?_of_le (Nat.le_refl _)] at found
      cases found
    rw [track?, others id apart, turns]
    exact found
  · intro id track absent found
    by_cases fresh : id = ⟨s.board.next⟩
    · subst fresh
      rw [track?_of_get? joined, turns, orderly.silent _ (Nat.le_refl _)] at found
      cases found
      exact ⟨Nat.le_refl _, .mk _ template summoner known⟩
    · rw [track?, others id fresh, turns] at found
      rw [track?] at absent
      rw [absent] at found
      cases found
  · exact fun sound => sound.spawned orderly.numbered template position summoner event

theorem trans {ids ids' : List InstanceId} {s s' s'' : Encounter} (first : Phase turn ids s s')
    (second : Phase turn ids' s' s'') (apart : ∀ id ∈ ids, id ∉ ids')
    (present : ∀ id ∈ ids', id ∈ s.board.ids) : Phase turn (ids ++ ids') s s'' := by
  refine ⟨second.clock.trans first.clock, second.bestiary.trans first.bestiary,
    Nat.le_trans first.next second.next, second.orderly, ?_, ?_, ?_,
    fun sound => second.caps (first.caps sound)⟩
  · intro id member track found
    rcases List.mem_append.mp member with early | late
    · obtain ⟨track', after, turned⟩ := first.taken id early track found
      exact ⟨track', second.kept id (apart id early) track' after, turned⟩
    · have waiting : id ∉ ids := fun early => apart id early late
      rw [← first.now_eq]
      exact second.taken id late track (first.kept id waiting track found)
  · intro id outside track found
    rw [List.mem_append, not_or] at outside
    exact second.kept id outside.2 track (first.kept id outside.1 track found)
  · intro id track absent found
    cases between : s'.track? id with
    | none =>
      obtain ⟨fresh, born⟩ := second.joined id track between found
      rw [first.bestiary, first.now_eq] at born
      exact ⟨Nat.le_trans first.next fresh, born⟩
    | some early =>
      have outside : id ∉ ids' := fun member => track?_eq_none_iff.mp absent (present id member)
      rw [second.kept id outside early between] at found
      cases found
      exact first.joined id _ absent between

end Phase

theorem Effected.phase {turn : Ticks → Track → Track → Prop} {s s' : Encounter} (effected : Effected s s')
    (orderly : Orderly s) : Phase turn [] s s' := by
  induction effected with
  | refl => exact .of_undisturbed orderly (.refl s)
  | @tail middle after _ last so_far =>
    have one : Phase turn [] middle after := by
      rcases last with deed | arrival
      · exact .of_undisturbed so_far.orderly deed.undisturbed
      · cases arrival with
        | spawned template known => exact .of_spawn so_far.orderly known .bottom none rfl
        | summoned template position summoner known _ =>
          exact .of_spawn so_far.orderly known position summoner rfl
    exact so_far.trans one (by simp) (by simp)

/-- If each call gives one gremlin its turn, going over different gremlins gives each its turn. -/
theorem foldlM_phase {turn : Ticks → Track → Track → Prop}
    {act : Encounter → InstanceId → Except EncounterError Encounter}
    (each : ∀ {s id s'}, Orderly s → act s id = .ok s' → Phase turn [id] s s')
    {ids : List InstanceId} {s s' : Encounter} (orderly : Orderly s) (distinct : ids.Nodup)
    (present : ∀ id ∈ ids, id ∈ s.board.ids) (success : ids.foldlM act s = .ok s') :
    Phase turn ids s s' := by
  induction ids generalizing s with
  | nil =>
    cases success
    exact .of_undisturbed orderly (.refl _)
  | cons id rest ih =>
    rw [List.foldlM_cons, bind_eq_ok] at success
    obtain ⟨after, acted, success⟩ := success
    rw [List.nodup_cons] at distinct
    have first := each orderly acted
    have others := ih first.orderly distinct.2
      (fun other member => first.stays (present other (List.mem_cons_of_mem _ member))) success
    refine first.trans others ?_ fun other member => present other (List.mem_cons_of_mem _ member)
    intro other single
    rw [List.mem_singleton] at single
    exact single ▸ distinct.1

end Encounter

end Gremlin
