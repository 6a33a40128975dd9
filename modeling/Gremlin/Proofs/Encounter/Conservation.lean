import Gremlin.Proofs.Encounter.Amplification
import Gremlin.Proofs.Encounter.Beats
import Gremlin.Proofs.Encounter.Journal

set_option autoImplicit false

/-!
Where the player's forces go in a tick. Whatever effects take is told of as drained or decayed, and
only what is over a new hard cap is lost without a word.
-/

namespace Gremlin

namespace Event

/-- How much of a force an event tells was drained or decayed. -/
def taken (f : Force) : Event → Nat
  | drained _ g n | decayed _ g n => if g = f then n else 0
  | _ => 0

/-- Whether an event tells of a hard cap, on a force or on the total. -/
def isHardCap : Event → Bool
  | capInstalled _ .hard _ _ => true
  | _ => false

end Event

namespace Encounter

/-- How much of a force lines of the journal tell was drained or decayed. -/
def takenOf (f : Force) (lines : List TimedEvent) : Nat := (lines.map (·.event.taken f)).sum

@[simp] theorem takenOf_nil (f : Force) : takenOf f [] = 0 := rfl

@[simp] theorem takenOf_append (f : Force) (lines lines' : List TimedEvent) :
    takenOf f (lines ++ lines') = takenOf f lines + takenOf f lines' := by
  simp [takenOf]

@[simp] theorem takenOf_singleton (f : Force) (now : Ticks) (event : Event) :
    takenOf f [⟨now, event⟩] = event.taken f := by
  simp [takenOf]

/-- From `s` to `s'` no force loses less than what is told, nor more unless there is a hard cap
among what is told. -/
structure Conserves (s s' : Encounter) : Prop where
  now : s'.now = s.now
  lines : ∃ lines, s'.journal.toList = s.journal.toList ++ lines ∧
    (∀ line ∈ lines, line.now = s.now) ∧
    ∀ f, s'.pool.amount f + takenOf f lines ≤ s.pool.amount f ∧
      ((∀ line ∈ lines, line.event.isHardCap = false) →
        s'.pool.amount f + takenOf f lines = s.pool.amount f)

namespace Conserves

variable {s s' s'' : Encounter}

/-- Nothing is told, and no force changes. -/
theorem of_amounts_eq (now : s'.now = s.now) (journal : s'.journal = s.journal)
    (amounts : s'.pool.amounts = s.pool.amounts) : Conserves s s' := by
  refine ⟨now, [], by simp [journal], by simp, fun f => ?_⟩
  have same : s'.pool.amount f = s.pool.amount f := by rw [Pool.amount, amounts, Pool.amount]
  simp [same]

theorem refl (s : Encounter) : Conserves s s := of_amounts_eq rfl rfl rfl

theorem trans (first : Conserves s s') (second : Conserves s' s'') : Conserves s s'' := by
  obtain ⟨early, journal, present, account⟩ := first.lines
  obtain ⟨late, journal', present', account'⟩ := second.lines
  refine ⟨second.now.trans first.now, early ++ late, ?_, ?_, fun f => ?_⟩
  · rw [journal', journal, List.append_assoc]
  · intro line member
    rcases List.mem_append.mp member with before | after
    · exact present line before
    · rw [present' line after, first.now]
  · obtain ⟨least, exact⟩ := account f
    obtain ⟨least', exact'⟩ := account' f
    rw [takenOf_append]
    constructor
    · omega
    · intro free
      have before := exact fun line member => free line (List.mem_append_left late member)
      have after := exact' fun line member => free line (List.mem_append_right early member)
      omega

/-- One event is told, and accounts for what the forces lose unless it is a hard cap. -/
theorem of_record {event : Event} (now : s'.now = s.now)
    (journal : s'.journal = s.journal.push ⟨s.now, event⟩)
    (least : ∀ f, s'.pool.amount f + event.taken f ≤ s.pool.amount f)
    (exact : event.isHardCap = false → ∀ f, s'.pool.amount f + event.taken f = s.pool.amount f) :
    Conserves s s' := by
  refine ⟨now, [⟨s.now, event⟩], by simp [journal], by simp, fun f => ?_⟩
  rw [takenOf_singleton]
  refine ⟨least f, fun free => exact ?_ f⟩
  exact free ⟨s.now, event⟩ List.mem_cons_self

/-- An event that is neither a drain nor a decay is told, and no force changes. -/
theorem of_quiet {event : Event} (now : s'.now = s.now)
    (journal : s'.journal = s.journal.push ⟨s.now, event⟩)
    (amounts : s'.pool.amounts = s.pool.amounts) (quiet : ∀ f, event.taken f = 0) :
    Conserves s s' := by
  have same : ∀ f, s'.pool.amount f + event.taken f = s.pool.amount f := by
    intro f
    rw [quiet, Nat.add_zero, Pool.amount, amounts, Pool.amount]
  exact of_record now journal (fun f => Nat.le_of_eq (same f)) fun _ => same

/-- What is taken of a force is told of it. -/
theorem takeForce {event : Force → Nat → Event}
    (told : ∀ g n f, (event g n).taken f = if g = f then n else 0)
    (amount : Nat) (s : Encounter) (force : Force) :
    Conserves s (takeForce event amount s force) := by
  have account : ∀ f, (s.pool.drain force amount).1.amount f +
      (if force = f then min amount (s.pool.amount force) else 0) = s.pool.amount f := by
    intro f
    by_cases same : force = f
    · subst same
      rw [Pool.amount_drain_same, if_pos rfl]
      omega
    · rw [Pool.amount_drain_other _ _ (Ne.symm same), if_neg same, Nat.add_zero]
  unfold Encounter.takeForce
  dsimp only
  split
  · rename_i nothing
    have nothing : min amount (s.pool.amount force) = 0 := nothing
    refine ⟨rfl, [], by simp, by simp, fun f => ?_⟩
    have same := account f
    rw [nothing, ite_self, Nat.add_zero] at same
    have kept : (s.pool.drain force amount).1.amount f + takenOf f [] = s.pool.amount f := same
    exact ⟨Nat.le_of_eq kept, fun _ => kept⟩
  · have exact : ∀ f, (s.pool.drain force amount).1.amount f +
        (event force (min amount (s.pool.amount force))).taken f = s.pool.amount f := by
      intro f
      rw [told]
      exact account f
    exact of_record rfl rfl (fun f => Nat.le_of_eq (exact f)) fun _ => exact

end Conserves

/-! ### Effects -/

theorem Deed.conserves {s s' : Encounter} (deed : Deed s s') : Conserves s s' := by
  cases deed with
  | draw generator => exact .of_amounts_eq rfl rfl rfl
  | notify notice => exact .of_amounts_eq rfl rfl rfl
  | drain source amount force => exact .takeForce (fun _ _ _ => rfl) amount s force
  | decay source amount force => exact .takeForce (fun _ _ _ => rfl) amount s force
  | remember source effect cap => cases source <;> exact .of_amounts_eq rfl rfl rfl
  | hardCap overlay force =>
    have capped : (Event.capInstalled overlay.source .hard (some force) overlay.value).isHardCap =
      true := rfl
    refine .of_record rfl rfl (fun f => ?_) fun soft => absurd (capped.symm.trans soft) (by decide)
    exact Pool.clamp_amount_le _ f
  | totalCap overlay =>
    have capped : (Event.capInstalled overlay.source .hard none overlay.value).isHardCap =
      true := rfl
    refine .of_record rfl rfl (fun f => ?_) fun soft => absurd (capped.symm.trans soft) (by decide)
    exact Pool.clamp_amount_le _ f
  | softCap overlay force => exact .of_quiet rfl rfl rfl fun _ => rfl
  | pressure kind overlay => exact .of_quiet rfl rfl rfl fun _ => rfl
  | armor n id => exact .of_quiet rfl rfl rfl fun _ => rfl
  | shields n id => exact .of_quiet rfl rfl rfl fun _ => rfl
  | reflect gain id => exact .of_quiet rfl rfl rfl fun _ => rfl
  | request source request => exact .of_quiet rfl rfl rfl fun _ => rfl
  | release id => exact .of_quiet rfl rfl rfl fun _ => rfl
  | reinstated id count => exact .of_quiet rfl rfl rfl fun _ => rfl
  | blocked id spec => exact .of_quiet rfl rfl rfl fun _ => rfl

theorem Arrival.conserves {s s' : Encounter} (arrival : Arrival s s') : Conserves s s' := by
  cases arrival with
  | spawned template known => exact .of_quiet rfl rfl rfl fun _ => rfl
  | summoned template position summoner known allowed => exact .of_quiet rfl rfl rfl fun _ => rfl

theorem Effected.conserves {s s' : Encounter} (effected : Effected s s') : Conserves s s' := by
  induction effected with
  | refl => exact .refl s
  | tail _ last so_far =>
    apply so_far.trans
    rcases last with deed | arrival
    · exact deed.conserves
    · exact arrival.conserves

/-! ### Ticks -/

theorem Beat.conserves {s s' : Encounter} (beat : Beat s s') : Conserves s s' := by
  cases beat with
  | still same => exact .of_amounts_eq (congrArg Clock.now same.clock) same.journal same.amounts
  | @turn id event present mover =>
    have quiet : ∀ f, event.taken f = 0 := by
      intro f
      cases event <;> first | rfl | cases mover
    exact .of_quiet rfl rfl rfl quiet
  | effects present unfolds => exact unfolds.effected.conserves

theorem Beats.conserves {s s' : Encounter} (beats : Beats s s') : Conserves s s' := by
  induction beats with
  | refl => exact .refl s
  | tail _ last so_far => exact so_far.trans last.conserves

theorem terminate_conserves (s : Encounter) : Conserves s s.terminate := by
  unfold terminate
  split
  · exact .refl s
  · exact .of_quiet rfl rfl rfl fun _ => rfl

theorem advance_conserves {s s' : Encounter} (orderly : Orderly s)
    (sound : ∀ template ∈ s.bestiary.templates, template.Sound) (living : s.Living)
    (success : s.advance = .ok s') : Conserves s.begun s' := by
  obtain ⟨_, last, beats, ended⟩ := advance_beats orderly sound living success
  apply beats.conserves.trans
  rw [ended]
  split
  · exact last.terminate_conserves
  · exact .refl last

/-- What was told at the present tick. -/
def told (s : Encounter) : List TimedEvent := s.journal.toList.filter (·.now = s.now)

/-- A tick adds to the journal what it tells at its own time, and nothing else. -/
theorem told_of_append {s s' : Encounter} (chronicle : s.Chronicle) {lines : List TimedEvent}
    (journal : s'.journal.toList = s.journal.toList ++ lines)
    (later : s.now.count < s'.now.count) (present : ∀ line ∈ lines, line.now = s'.now) :
    s'.told = lines := by
  have past : ∀ line ∈ s.journal.toList, ¬ line.now = s'.now := by
    intro line member same
    have bound := chronicle.past line member
    rw [same] at bound
    omega
  rw [told, journal, List.filter_append]
  rw [List.filter_eq_nil_iff.mpr fun line member => by simpa using past line member]
  rw [List.filter_eq_self.mpr fun line member => by simpa using present line member]
  rfl

/-- What a tick tells, the mark of its beginning with it, is the account of its own losses. -/
theorem Reachable.advance_accounted {bestiary : Bestiary}
    (sound : ∀ template ∈ bestiary.templates, template.Sound) {s s' : Encounter}
    (reachable : Reachable bestiary s) (success : s.advance = .ok s') :
    s'.journal.toList = s.journal.toList ++ s'.told ∧
      ∀ f, s'.pool.amount f + takenOf f s'.told ≤ s.pool.amount f ∧
        ((∀ line ∈ s'.told, line.event.isHardCap = false) →
          s'.pool.amount f + takenOf f s'.told = s.pool.amount f) := by
  have standing := reachable.standing sound
  have conserves := advance_conserves standing.orderly (standing.known ▸ sound) standing.living
    success
  obtain ⟨lines, journal, present, account⟩ := conserves.lines
  -- the mark of the tick is told before anything is taken
  have begins : s.begun.journal.toList =
      s.journal.toList ++ [⟨s'.now, .tick ⟨s.now.count + 1⟩⟩] := by
    rw [conserves.now]
    exact Array.toList_push ..
  rw [begins, List.append_assoc] at journal
  have later : s.now.count < s'.now.count := by
    rw [conserves.now]
    exact Nat.lt_succ_self _
  have told : s'.told = [⟨s'.now, .tick ⟨s.now.count + 1⟩⟩] ++ lines := by
    apply told_of_append (reachable.chronicle sound) journal later
    intro line member
    rcases List.mem_append.mp member with mark | after
    · rw [List.mem_singleton.mp mark]
    · rw [present line after, conserves.now]
  have taken : ∀ f, takenOf f s'.told = takenOf f lines := by
    intro f
    rw [told, takenOf_append, takenOf_singleton]
    exact Nat.zero_add _
  refine ⟨told ▸ journal, fun f => ?_⟩
  rw [taken]
  refine ⟨(account f).1, fun free => (account f).2 fun line member => ?_⟩
  apply free
  rw [told]
  exact List.mem_append_right _ member

/-- In a tick no force grows, and each loses at least what the tick tells was drained or decayed of
it. If the tick tells of no hard cap, that is all it loses. -/
theorem forces_conserved {records : List Record} {s s' : Encounter}
    (reachable : Reachable (Bestiary.load records).1 s) (success : s.advance = .ok s') :
    s'.journal.toList = s.journal.toList ++ s'.told ∧
      (∀ f, s'.pool.amount f ≤ s.pool.amount f) ∧
      (∀ f, takenOf f s'.told ≤ s.pool.amount f - s'.pool.amount f) ∧
      ((∀ line ∈ s'.told, line.event.isHardCap = false) →
        ∀ f, s.pool.amount f - s'.pool.amount f = takenOf f s'.told) := by
  have sound : ∀ template ∈ (Bestiary.load records).1.templates, template.Sound :=
    fun _ member => Bestiary.sound_of_mem_load member
  obtain ⟨journal, account⟩ := reachable.advance_accounted sound success
  refine ⟨journal, ?_, ?_, ?_⟩
  · intro f
    have least := (account f).1
    omega
  · intro f
    have least := (account f).1
    omega
  · intro free f
    have exact := (account f).2 free
    omega

/-- Below a choir a leech takes six heat, which is told and is all that is lost. -/
theorem forces_conserved_leech : ∃ s s',
    Operation.runAll (new (Bestiary.load [leech, choir]).1 7)
      [.spawn "choir", .spawn "leech", .gain .heat 20] = .ok s ∧ s.advance = .ok s' ∧
    (∀ line ∈ s'.told, line.event.isHardCap = false) ∧
    takenOf .heat s'.told = 6 ∧ s.pool.amount .heat - s'.pool.amount .heat = 6 := by
  have ran : ((Operation.runAll (new (Bestiary.load [leech, choir]).1 7)
      [.spawn "choir", .spawn "leech", .gain .heat 20]).toOption.map fun s =>
        s.advance.toOption.map fun s' => decide (
          (∀ line ∈ s'.told, line.event.isHardCap = false) ∧ takenOf .heat s'.told = 6)) =
      some (some true) := by
    decide +kernel
  obtain ⟨s, success, shown⟩ := toOption_map_eq_some.mp ran
  obtain ⟨s', advanced, shown⟩ := toOption_map_eq_some.mp shown
  obtain ⟨free, six⟩ := of_decide_eq_true shown
  obtain ⟨_, _, _, exact⟩ := forces_conserved ((Reachable.fresh 7).runAll success) advanced
  refine ⟨s, s', success, advanced, free, six, ?_⟩
  rw [exact free, six]

end Encounter

end Gremlin
