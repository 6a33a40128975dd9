import Gremlin.Proofs.Encounter.Unfolding

set_option autoImplicit false

/-!
The track of a gremlin: the gremlin without what effects change on it, and what the journal holds
of its moves. Deeds leave every track alone, and an arrival adds one, that of a newborn.
-/

namespace Gremlin

namespace Instance

/-- A gremlin without its armor, shields, reflection and remembered caps, which is all that
effects change on a gremlin. -/
def bare (gremlin : Instance) : Instance :=
  { gremlin with armor := 0, shields := 0, reflect := .zero, installedCaps := [] }

/-- Caps alone are remembered, and each once. -/
structure CapsSound (gremlin : Instance) : Prop where
  distinct : gremlin.installedCaps.Nodup
  caps : ∀ effect ∈ gremlin.installedCaps, effect.isCap = true

theorem CapsSound.spawn (id : InstanceId) (template : Template) (now : Ticks)
    (summoner : Option InstanceId) : (Instance.spawn id template now summoner).CapsSound :=
  ⟨List.nodup_nil, fun _ member => by cases member⟩

theorem CapsSound.of_eq {gremlin other : Instance} (sound : gremlin.CapsSound)
    (same : other.installedCaps = gremlin.installedCaps) : other.CapsSound :=
  ⟨same ▸ sound.distinct, same ▸ sound.caps⟩

theorem CapsSound.rememberCap {gremlin : Instance} (sound : gremlin.CapsSound) {effect : Effect}
    (cap : effect.isCap = true) : (gremlin.rememberCap effect).CapsSound := by
  unfold Instance.rememberCap
  split
  · exact sound
  · rename_i absent
    refine ⟨?_, ?_⟩
    · refine List.nodup_append.mpr ⟨sound.distinct, by simp, ?_⟩
      intro old member new single same
      rw [List.mem_singleton] at single
      exact absent (single ▸ same ▸ member)
    · intro other member
      rcases List.mem_append.mp member with old | new
      · exact sound.caps other old
      · rw [List.mem_singleton] at new
        exact new ▸ cap

/-- What does not look at the caps a gremlin remembers stays as it is. -/
theorem rememberCap_view {β : Type} (view : Instance → β) (gremlin : Instance) (effect : Effect)
    (blind : ∀ installedCaps, view { gremlin with installedCaps } = view gremlin) :
    view (gremlin.rememberCap effect) = view gremlin := by
  unfold rememberCap
  split
  · rfl
  · exact blind _

theorem rememberCap_bare (gremlin : Instance) (effect : Effect) :
    (gremlin.rememberCap effect).bare = gremlin.bare :=
  gremlin.rememberCap_view bare effect fun _ => rfl

end Instance

/-- The gremlin an event says has entered or fired a move. -/
def Event.mover? : Event → Option InstanceId
  | moveEntered id _ | moveFired id _ => some id
  | _ => none

namespace Encounter

/-- The entries and firings of a gremlin's moves, the oldest first. -/
def turns (s : Encounter) (id : InstanceId) : List TimedEvent :=
  s.journal.toList.filter (·.event.mover? = some id)

theorem turns_record (s : Encounter) (event : Event) (id : InstanceId) :
    (s.record event).turns id =
      s.turns id ++ if event.mover? = some id then [⟨s.now, event⟩] else [] := by
  by_cases moved : event.mover? = some id <;> simp [turns, record, List.filter_append, moved]

theorem turns_record_of_none {s : Encounter} {event : Event} (still : event.mover? = none)
    (id : InstanceId) : (s.record event).turns id = s.turns id := by
  simp [turns_record, still]

/-- Every gremlin on the board remembers caps alone, and each once. -/
def CapsSound (s : Encounter) : Prop :=
  ∀ id gremlin, s.board.get? id = some gremlin → gremlin.CapsSound

/-- What deeds leave alone. -/
structure Undisturbed (s s' : Encounter) : Prop where
  clock : s'.clock = s.clock
  bestiary : s'.bestiary = s.bestiary
  ids : s'.board.ids = s.board.ids
  next : s'.board.next = s.board.next
  bare : ∀ id, (s'.board.get? id).map Instance.bare = (s.board.get? id).map Instance.bare
  turns : ∀ id, s'.turns id = s.turns id
  caps : s.CapsSound → s'.CapsSound

namespace Undisturbed

theorem of_board_eq {s s' : Encounter} (clock : s'.clock = s.clock)
    (bestiary : s'.bestiary = s.bestiary) (board : s'.board = s.board)
    (turns : ∀ id, s'.turns id = s.turns id) : Undisturbed s s' := by
  refine ⟨clock, bestiary, ?_, ?_, ?_, turns, ?_⟩
  · rw [board]
  · rw [board]
  · intro id
    rw [board]
  · intro sound
    unfold CapsSound
    rw [board]
    exact sound

theorem refl (s : Encounter) : Undisturbed s s := of_board_eq rfl rfl rfl fun _ => rfl

theorem trans {s s' s'' : Encounter} (first : Undisturbed s s') (second : Undisturbed s' s'') :
    Undisturbed s s'' where
  clock := second.clock.trans first.clock
  bestiary := second.bestiary.trans first.bestiary
  ids := second.ids.trans first.ids
  next := second.next.trans first.next
  bare := fun id => (second.bare id).trans (first.bare id)
  turns := fun id => (second.turns id).trans (first.turns id)
  caps := fun sound => second.caps (first.caps sound)

theorem record {event : Event} (still : event.mover? = none) (s : Encounter) :
    Undisturbed s (s.record event) :=
  of_board_eq rfl rfl rfl (turns_record_of_none still)

theorem modify {change : Instance → Instance}
    (bare : ∀ gremlin, (change gremlin).bare = gremlin.bare)
    (caps : ∀ gremlin, gremlin.CapsSound → (change gremlin).CapsSound)
    (s : Encounter) (id : InstanceId) : Undisturbed s (s.modify id change) := by
  have keeps : ∀ gremlin, gremlin.id = id → (change gremlin).id = id :=
    fun gremlin named => (congrArg Instance.id (bare gremlin)).trans named
  refine ⟨rfl, rfl, Board.ids_modify keeps, rfl, ?_, fun _ => rfl, ?_⟩
  · intro other
    by_cases same : other = id
    · subst same
      change ((s.board.modify other change).get? other).map _ = _
      rw [Board.get?_modify_same keeps, Option.map_map]
      congr 1
      funext gremlin
      exact bare gremlin
    · change ((s.board.modify id change).get? other).map _ = _
      rw [Board.get?_modify_other same keeps]
  · intro sound other gremlin found
    change (s.board.modify id change).get? other = some gremlin at found
    by_cases same : other = id
    · subst same
      rw [Board.get?_modify_same keeps] at found
      obtain ⟨old, present, rfl⟩ := Option.map_eq_some_iff.mp found
      exact caps old (sound other old present)
    · rw [Board.get?_modify_other same keeps] at found
      exact sound other gremlin found

theorem takeForce {event : Force → Nat → Event} (still : ∀ force n, (event force n).mover? = none)
    (amount : Nat) (s : Encounter) (force : Force) :
    Undisturbed s (takeForce event amount s force) := by
  have drained : Undisturbed s { s with pool := (s.pool.drain force amount).1 } :=
    of_board_eq rfl rfl rfl fun _ => rfl
  unfold Encounter.takeForce
  dsimp only
  split
  · exact drained
  · exact drained.trans (record (still force _) _)

/-- Gaining armor, shields or reflection. -/
theorem change {change : Instance → Instance} {event : InstanceId → Event}
    (bare : ∀ gremlin, (change gremlin).bare = gremlin.bare)
    (same : ∀ gremlin, (change gremlin).installedCaps = gremlin.installedCaps)
    (still : ∀ id, (event id).mover? = none) (s : Encounter) (id : InstanceId) :
    Undisturbed s (Encounter.change change event s id) :=
  (modify bare (fun gremlin sound => sound.of_eq (same gremlin)) s id).trans (record (still id) _)

end Undisturbed

theorem Deed.undisturbed {s s' : Encounter} (deed : Deed s s') : Undisturbed s s' := by
  cases deed with
  | draw generator => exact .of_board_eq rfl rfl rfl fun _ => rfl
  | notify notice => exact .of_board_eq rfl rfl rfl fun _ => rfl
  | drain source amount force => exact .takeForce (fun _ _ => rfl) amount s force
  | decay source amount force => exact .takeForce (fun _ _ => rfl) amount s force
  | remember source effect cap =>
    cases source with
    | none => exact .refl s
    | some id =>
      exact .modify (fun gremlin => gremlin.rememberCap_bare effect)
        (fun gremlin sound => sound.rememberCap cap) s id
  | hardCap overlay force => exact .of_board_eq rfl rfl rfl (turns_record_of_none rfl)
  | softCap overlay force => exact .of_board_eq rfl rfl rfl (turns_record_of_none rfl)
  | totalCap overlay => exact .of_board_eq rfl rfl rfl (turns_record_of_none rfl)
  | pressure kind overlay => exact .of_board_eq rfl rfl rfl (turns_record_of_none rfl)
  | armor n id => refine .change ?_ ?_ ?_ s id <;> intro _ <;> rfl
  | shields n id => refine .change ?_ ?_ ?_ s id <;> intro _ <;> rfl
  | reflect gain id => refine .change ?_ ?_ ?_ s id <;> intro _ <;> rfl
  | request source request => exact .record rfl s
  | release id => exact .of_board_eq rfl rfl rfl (turns_record_of_none rfl)
  | reinstated id count => exact .record rfl s
  | blocked id spec => exact .record rfl s

theorem Deeds.undisturbed {s s' : Encounter} (deeds : Deeds s s') : Undisturbed s s' := by
  induction deeds with
  | refl => exact .refl s
  | tail _ deed so_far => exact so_far.trans deed.undisturbed

end Encounter

end Gremlin
