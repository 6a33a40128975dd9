import Gremlin.Proofs.Overlay

set_option autoImplicit false

/-!
How long timed overlays stay. An overlay that is installed for some ticks stays through as many
expiries, one tick less at each, whatever others install and release in the meantime.
-/

namespace Gremlin.OverlaySet

/-- A change to a set of overlays. -/
inductive Change where
  | install (overlay : Overlay)
  | releasePassive (source : InstanceId)
  | releaseAllPassive
  | releaseSource (source : InstanceId)
  | expire
deriving DecidableEq, Repr

/-- The source whose overlay is installed or released by a change, however long it was to stay. -/
def Change.author? : Change → Option (Option InstanceId)
  | install overlay => some overlay.source
  | releaseSource source => some (some source)
  | releasePassive _ | releaseAllPassive | expire => none

/-- Whether a change ends a tick. -/
def Change.isExpire : Change → Bool
  | expire => true
  | _ => false

/-- Makes a change. -/
def change (set : OverlaySet) : Change → OverlaySet
  | .install overlay => set.install overlay
  | .releasePassive source => set.releasePassive source
  | .releaseAllPassive => set.releaseAllPassive
  | .releaseSource source => set.releaseSource source
  | .expire => set.expire

/-- Makes changes in order. -/
def changeAll (set : OverlaySet) (changes : List Change) : OverlaySet := changes.foldl change set

theorem changeAll_append (set : OverlaySet) (first second : List Change) :
    set.changeAll (first ++ second) = (set.changeAll first).changeAll second :=
  List.foldl_append

section Single

variable {set : OverlaySet}

theorem Single.change (single : set.Single) (change : Change) : (set.change change).Single := by
  cases change with
  | install overlay => exact single.install overlay
  | releasePassive source => exact single.releasePassive source
  | releaseAllPassive => exact single.releaseAllPassive
  | releaseSource source => exact single.releaseSource source
  | expire => exact single.expire

theorem Single.changeAll (single : set.Single) (changes : List Change) :
    (set.changeAll changes).Single := by
  induction changes generalizing set with
  | nil => exact single
  | cons change rest ih => exact ih (single.change change)

end Single

/-! ### One change -/

section Change

variable {set : OverlaySet} (single : set.Single) {source : Option InstanceId} {change : Change}
  (foreign : change.author? ≠ some source)

include single foreign

/-- Whoever has no overlay gets none by what others do. -/
theorem of?_change_of_none (none : set.of? source = none) :
    (set.change change).of? source = .none := by
  cases change with
  | install overlay =>
    have apart : source ≠ overlay.source := fun same => foreign (congrArg some same.symm)
    exact (set.of?_install_other overlay apart).trans none
  | releasePassive other =>
    refine (of?_keep single _ _).trans ?_
    rw [none, Option.filter_none]
  | releaseAllPassive => rw [OverlaySet.change, of?_releaseAllPassive single, none, Option.filter_none]
  | releaseSource other =>
    have apart : source ≠ some other := fun same => foreign (congrArg some same.symm)
    exact (of?_releaseSource_other single apart).trans none
  | expire => rw [OverlaySet.change, of?_expire single, none, Option.filter_none, Option.map_none]

/-- A timed overlay is left alone by all that others do but for the end of a tick. -/
theorem of?_change_of_timed {value ticks : Nat}
    (timed : set.of? source = some ⟨value, .ticks ticks, source⟩)
    (endless : change.isExpire = false) :
    (set.change change).of? source = some ⟨value, .ticks ticks, source⟩ := by
  cases change with
  | install overlay =>
    have apart : source ≠ overlay.source := fun same => foreign (congrArg some same.symm)
    exact (set.of?_install_other overlay apart).trans timed
  | releasePassive other =>
    refine (of?_keep single _ _).trans ?_
    rw [timed, Option.filter_some_pos (by simp)]
  | releaseAllPassive =>
    rw [OverlaySet.change, of?_releaseAllPassive single, timed, Option.filter_some_pos (by simp)]
  | releaseSource other =>
    have apart : source ≠ some other := fun same => foreign (congrArg some same.symm)
    exact (of?_releaseSource_other single apart).trans timed
  | expire => cases endless

end Change

theorem of?_expire_elapsed {set : OverlaySet} (single : set.Single) {source : Option InstanceId}
    {value : Nat} (timed : set.of? source = some ⟨value, .ticks 0, source⟩) :
    set.expire.of? source = none := by
  rw [of?_expire single, timed]
  rfl

theorem of?_expire_timed {set : OverlaySet} (single : set.Single) {source : Option InstanceId}
    {value ticks : Nat} (timed : set.of? source = some ⟨value, .ticks (ticks + 1), source⟩) :
    set.expire.of? source = some ⟨value, .ticks ticks, source⟩ := by
  rw [of?_expire single, timed, Option.filter_some_pos (by simp)]
  rfl

/-- No overlay is counted down that has no ticks left. -/
theorem one_more_before_expire {set : OverlaySet} {overlay : Overlay} {left : Nat}
    (member : overlay ∈ set.expire.overlays) (timed : overlay.duration = .ticks left) :
    ⟨overlay.value, .ticks (left + 1), overlay.source⟩ ∈ set.overlays := by
  obtain ⟨⟨value, duration, source⟩, kept, rfl⟩ := List.mem_map.mp member
  obtain ⟨present, stays⟩ := List.mem_filter.mp kept
  cases duration with
  | permanent | passive => cases timed
  | ticks ticks =>
    cases ticks with
    | zero => simp at stays
    | succ ticks =>
      cases timed
      exact present

/-! ### Many changes -/

section Changes

variable {set : OverlaySet} (single : set.Single) {source : Option InstanceId}
  {changes : List Change} (foreign : ∀ change ∈ changes, change.author? ≠ some source)

include single foreign

theorem of?_changeAll_of_none (none : set.of? source = none) :
    (set.changeAll changes).of? source = .none := by
  induction changes generalizing set with
  | nil => exact none
  | cons change rest ih =>
    exact ih (single.change change) (fun other member => foreign other (List.mem_cons_of_mem _ member))
      (of?_change_of_none single (foreign change List.mem_cons_self) none)

/-- A timed overlay stays through as many ends of ticks as it has ticks, whatever others do. -/
theorem of?_changeAll_of_timed {value ticks : Nat}
    (timed : set.of? source = some ⟨value, .ticks ticks, source⟩) :
    (set.changeAll changes).of? source =
      if changes.countP Change.isExpire ≤ ticks then
        some ⟨value, .ticks (ticks - changes.countP Change.isExpire), source⟩
      else none := by
  induction changes generalizing set ticks with
  | nil => exact timed
  | cons change rest ih =>
    have later : ∀ other ∈ rest, other.author? ≠ some source :=
      fun other member => foreign other (List.mem_cons_of_mem _ member)
    change ((set.change change).changeAll rest).of? source = _
    cases ends : change.isExpire with
    | false =>
      rw [List.countP_cons_of_neg (Bool.eq_false_iff.mp ends)]
      exact ih (single.change change) later
        (of?_change_of_timed single (foreign change List.mem_cons_self) timed ends)
    | true =>
      obtain rfl : change = .expire := by cases change <;> first | rfl | cases ends
      rw [List.countP_cons_of_pos ends]
      cases ticks with
      | zero =>
        rw [if_neg (Nat.not_succ_le_zero _)]
        exact of?_changeAll_of_none single.expire later (of?_expire_elapsed single timed)
      | succ ticks =>
        rw [OverlaySet.change, ih single.expire later (of?_expire_timed single timed)]
        simp only [Nat.add_le_add_iff_right, Nat.add_sub_add_right]

end Changes

/-- Whatever was done to a set before, an overlay that is installed for some ticks is the only one of
its source after the installs and releases of others and some ends of ticks, with as many ticks less;
or there is none, if it has had its ticks. -/
theorem overlays_changeAll_install (before after : List Change) (value ticks : Nat)
    {source : Option InstanceId} (foreign : ∀ change ∈ after, change.author? ≠ some source) :
    (((({} : OverlaySet).changeAll before).install ⟨value, .ticks ticks, source⟩).changeAll
        after).overlays.filter (·.source = source) =
      if after.countP Change.isExpire ≤ ticks then
        [⟨value, .ticks (ticks - after.countP Change.isExpire), source⟩]
      else [] := by
  have empty : ({} : OverlaySet).Single := List.nodup_nil
  have single := (empty.changeAll before).install ⟨value, .ticks ticks, source⟩
  rw [overlays_filter_source (single.changeAll after),
    of?_changeAll_of_timed single foreign (of?_install_same _ ⟨value, .ticks ticks, source⟩)]
  split <;> rfl

end Gremlin.OverlaySet
