import Gremlin.Overlay
import Mathlib.Data.List.Nodup

set_option autoImplicit false

/-!
An overlay set as a table from sources to overlays: what each change of the set does to the overlay
of every source. A set is single if no source has two overlays in it; every change keeps it so.
-/

namespace Gremlin.OverlaySet

/-- The overlay of a source. -/
def of? (set : OverlaySet) (source : Option InstanceId) : Option Overlay :=
  set.overlays.find? (·.source = source)

/-- The sources of the overlays, the oldest first. -/
def sources (set : OverlaySet) : List (Option InstanceId) := set.overlays.map (·.source)

/-- No source has two overlays. -/
def Single (set : OverlaySet) : Prop := set.sources.Nodup

section Lookup

variable {set : OverlaySet} {source : Option InstanceId} {overlay : Overlay}

theorem source_of_of? (found : set.of? source = some overlay) : overlay.source = source := by
  simpa using List.find?_some found

theorem mem_of_of? (found : set.of? source = some overlay) : overlay ∈ set.overlays :=
  List.mem_of_find?_eq_some found

theorem of?_eq_none_iff : set.of? source = none ↔ source ∉ set.sources := by
  rw [of?, List.find?_eq_none, sources, List.mem_map]
  simp only [decide_eq_true_eq, not_exists, not_and]

theorem overlays_filter_source (single : set.Single) :
    set.overlays.filter (·.source = source) = (set.of? source).toList := by
  obtain ⟨overlays⟩ := set
  induction overlays with
  | nil => rfl
  | cons first rest ih =>
    obtain ⟨fresh, others⟩ := List.nodup_cons.mp single
    by_cases own : first.source = source
    · have absent : (⟨rest⟩ : OverlaySet).of? source = none := by
        rw [of?_eq_none_iff]
        exact own ▸ fresh
      rw [List.filter_cons_of_pos (by simpa using own), ih others, absent, of?,
        List.find?_cons_of_pos (by simpa using own)]
      rfl
    · rw [List.filter_cons_of_neg (by simpa using own), ih others, of?, of?,
        List.find?_cons_of_neg (by simpa using own)]

theorem mem_overlays_iff (single : set.Single) :
    overlay ∈ set.overlays ↔ set.of? overlay.source = some overlay := by
  have own : overlay ∈ set.overlays ↔ overlay ∈ set.overlays.filter (·.source = overlay.source) := by
    rw [List.mem_filter, and_iff_left (by simp)]
  rw [own, overlays_filter_source single, Option.mem_toList]

/-- Single sets that agree on every source hold the same overlays. -/
theorem perm_of_of?_eq {other : OverlaySet} (single : set.Single) (single' : other.Single)
    (same : ∀ source, set.of? source = other.of? source) :
    set.overlays.Perm other.overlays := by
  refine (List.perm_ext_iff_of_nodup (.of_map _ single) (.of_map _ single')).mpr fun overlay => ?_
  rw [mem_overlays_iff single, mem_overlays_iff single', same]

end Lookup

theorem sumExcluding_some (set : OverlaySet) (source : InstanceId) :
    set.sumExcluding (some source) =
      wrappingSum ((set.overlays.filter (·.source ≠ some source)).map (·.value)) := by
  unfold sumExcluding
  simp

/-! ### What each change does to every source -/

section Install

/-- Keeps the overlays that satisfy a condition. -/
def keep (set : OverlaySet) (condition : Overlay → Bool) : OverlaySet :=
  ⟨set.overlays.filter condition⟩

variable (set : OverlaySet) (overlay : Overlay)

theorem of?_install_same : (set.install overlay).of? overlay.source = some overlay := by
  obtain ⟨overlays⟩ := set
  induction overlays with
  | nil => simp [install, installIn, of?]
  | cons first rest ih =>
    by_cases own : first.source = overlay.source
    · simp [install, installIn, of?, own]
    · simpa [install, installIn, of?, own] using ih

theorem of?_install_other {source : Option InstanceId} (other : source ≠ overlay.source) :
    (set.install overlay).of? source = set.of? source := by
  obtain ⟨overlays⟩ := set
  induction overlays with
  | nil => simp [install, installIn, of?, Ne.symm other]
  | cons first rest ih =>
    by_cases own : first.source = overlay.source
    · simp [install, installIn, of?, own, Ne.symm other]
    · by_cases named : first.source = source
      · simp [install, installIn, of?, named, other]
      · simpa [install, installIn, of?, own, named] using ih

/-- Of two overlays of one source only the later is left. -/
theorem install_install {later : Overlay} (same : later.source = overlay.source) :
    (set.install overlay).install later = set.install later := by
  obtain ⟨overlays⟩ := set
  refine congrArg OverlaySet.mk ?_
  change installIn later (installIn overlay overlays) = installIn later overlays
  induction overlays with
  | nil => simp [installIn, same]
  | cons first rest ih =>
    by_cases own : first.source = overlay.source
    · simp [installIn, own, same]
    · simp [installIn, own, same, ih]

/-- An overlay that is not among the kept ones is installed behind their back. -/
theorem keep_install {condition : Overlay → Bool}
    (dropped : ∀ other : Overlay, other.source = overlay.source → condition other = false) :
    (set.install overlay).keep condition = set.keep condition := by
  obtain ⟨overlays⟩ := set
  refine congrArg OverlaySet.mk ?_
  change (installIn overlay overlays).filter condition = overlays.filter condition
  induction overlays with
  | nil => simp [installIn, dropped overlay rfl]
  | cons first rest ih =>
    by_cases own : first.source = overlay.source
    · simp [installIn, own, dropped overlay rfl, dropped first own]
    · rw [installIn, if_neg own, List.filter_cons, List.filter_cons, ih]

theorem sumExcluding_install {source : InstanceId} (own : overlay.source = some source) :
    (set.install overlay).sumExcluding (some source) = set.sumExcluding (some source) := by
  refine congrArg (fun kept : OverlaySet => wrappingSum (kept.overlays.map (·.value)))
    (set.keep_install overlay fun other same => ?_)
  simp [same, own]

theorem mem_sources_install {source : Option InstanceId} :
    source ∈ (set.install overlay).sources ↔ source = overlay.source ∨ source ∈ set.sources := by
  by_cases own : source = overlay.source
  · have present : (set.install overlay).of? source ≠ none := by
      rw [own, of?_install_same]
      exact Option.some_ne_none overlay
    rw [Ne, of?_eq_none_iff, not_not] at present
    exact iff_of_true present (.inl own)
  · rw [← not_iff_not, ← of?_eq_none_iff, of?_install_other set overlay own, of?_eq_none_iff,
      not_or, and_iff_right own]

variable {set}

theorem Single.install (single : set.Single) : (set.install overlay).Single := by
  obtain ⟨overlays⟩ := set
  induction overlays with
  | nil => exact List.nodup_singleton _
  | cons first rest ih =>
    obtain ⟨fresh, others⟩ := List.nodup_cons.mp single
    by_cases own : first.source = overlay.source
    · rw [OverlaySet.install, installIn, if_pos own]
      have stays : overlay.source ∉ (⟨rest⟩ : OverlaySet).sources := own ▸ fresh
      exact List.nodup_cons.mpr ⟨stays, others⟩
    · rw [OverlaySet.install, installIn, if_neg own]
      refine List.nodup_cons.mpr ⟨fun member => ?_, ih others⟩
      rcases (mem_sources_install ⟨rest⟩ overlay).mp member with same | old
      · exact own same
      · exact fresh old

end Install

section Renew

/-- The overlays with the one that a source keeps up, if it keeps one up. -/
def renew (set : OverlaySet) (source : InstanceId) : Option Nat → OverlaySet
  | some value => set.install ⟨value, .passive, some source⟩
  | none => set

variable (set : OverlaySet) (source : InstanceId)

theorem renew_renew (value : Option Nat) (later : Nat) :
    (set.renew source value).renew source (some later) = set.renew source (some later) := by
  cases value with
  | none => rfl
  | some value => exact set.install_install _ rfl

theorem sumExcluding_renew (value : Option Nat) :
    (set.renew source value).sumExcluding (some source) = set.sumExcluding (some source) := by
  cases value with
  | none => rfl
  | some value => exact set.sumExcluding_install _ rfl

theorem of?_renew_other {other : Option InstanceId} (apart : other ≠ some source)
    (value : Option Nat) : (set.renew source value).of? other = set.of? other := by
  cases value with
  | none => rfl
  | some value => exact set.of?_install_other _ apart

variable {set}

theorem Single.renew (single : set.Single) (value : Option Nat) :
    (set.renew source value).Single := by
  cases value with
  | none => exact single
  | some value => exact single.install _

section Fold

variable (value : InstanceId → Option Nat) {ids : List InstanceId}

theorem Single.foldl_renew (single : set.Single) :
    (ids.foldl (fun set id => set.renew id (value id)) set).Single := by
  induction ids generalizing set with
  | nil => exact single
  | cons id rest ih => exact ih (single.renew id _)

/-- Whoever keeps nothing up is left alone. -/
theorem of?_foldl_renew_idle {source : Option InstanceId}
    (idle : ∀ id ∈ ids, source = some id → value id = none) :
    (ids.foldl (fun set id => set.renew id (value id)) set).of? source = set.of? source := by
  induction ids generalizing set with
  | nil => rfl
  | cons id rest ih =>
    rw [List.foldl_cons, ih fun other member => idle other (List.mem_cons_of_mem _ member)]
    by_cases same : source = some id
    · rw [idle id List.mem_cons_self same]
      rfl
    · exact set.of?_renew_other id same _

theorem of?_foldl_renew_busy {id : InstanceId} (member : id ∈ ids) {n : Nat}
    (busy : value id = some n) :
    (ids.foldl (fun set id => set.renew id (value id)) set).of? (some id) =
      some ⟨n, .passive, some id⟩ := by
  induction ids generalizing set with
  | nil => cases member
  | cons other rest ih =>
    by_cases later : id ∈ rest
    · exact ih later
    · obtain rfl : id = other := (List.mem_cons.mp member).resolve_right later
      rw [List.foldl_cons, of?_foldl_renew_idle value, busy]
      · exact set.of?_install_same ⟨n, .passive, some id⟩
      · intro other present same
        exact absurd (Option.some.inj same ▸ present) later

end Fold

end Renew

section Drop

variable {set : OverlaySet}

theorem Single.keep (single : set.Single) (condition : Overlay → Bool) :
    (set.keep condition).Single :=
  single.sublist (List.filter_sublist.map _)

theorem sources_keep_subset (set : OverlaySet) (condition : Overlay → Bool) :
    (set.keep condition).sources ⊆ set.sources :=
  List.map_subset _ (List.filter_subset_self set.overlays)

theorem of?_keep (single : set.Single) (condition : Overlay → Bool) (source : Option InstanceId) :
    (set.keep condition).of? source = (set.of? source).filter condition := by
  cases found : set.of? source with
  | none =>
    rw [Option.filter_none, of?_eq_none_iff]
    rw [of?_eq_none_iff] at found
    intro member
    obtain ⟨overlay, kept, own⟩ := List.mem_map.mp member
    exact found (List.mem_map.mpr ⟨overlay, (List.mem_filter.mp kept).1, own⟩)
  | some overlay =>
    have own := source_of_of? found
    subst own
    cases holds : condition overlay with
    | true =>
      rw [Option.filter_some, if_pos holds, ← mem_overlays_iff (single.keep condition)]
      exact List.mem_filter.mpr ⟨mem_of_of? found, holds⟩
    | false =>
      rw [Option.filter_some, holds, if_neg Bool.false_ne_true, of?_eq_none_iff]
      intro member
      obtain ⟨other, kept, same⟩ := List.mem_map.mp member
      obtain ⟨present, held⟩ := List.mem_filter.mp kept
      rw [mem_overlays_iff single, same, found, Option.some.injEq] at present
      rw [← present, holds] at held
      cases held

theorem keep_releaseSource {condition : Overlay → Bool} {source : InstanceId}
    (dropped : ∀ other : Overlay, other.source = some source → condition other = false) :
    (set.releaseSource source).keep condition = set.keep condition := by
  refine congrArg OverlaySet.mk ?_
  change (set.overlays.filter _).filter condition = _
  rw [List.filter_filter]
  refine List.filter_congr fun overlay _ => ?_
  by_cases own : overlay.source = some source <;> simp [own, dropped overlay]

theorem Single.releasePassive (single : set.Single) (source : InstanceId) :
    (set.releasePassive source).Single := single.keep _

theorem of?_releasePassive_same (single : set.Single) (source : InstanceId) :
    (set.releasePassive source).of? (some source) =
      (set.of? (some source)).filter (·.duration ≠ .passive) := by
  refine (of?_keep single _ _).trans ?_
  cases found : set.of? (some source) with
  | none => rfl
  | some overlay => simp [Option.filter_some, source_of_of? found]

theorem of?_releasePassive_other (single : set.Single) {source : InstanceId}
    {other : Option InstanceId} (apart : other ≠ some source) :
    (set.releasePassive source).of? other = set.of? other := by
  refine (of?_keep single _ _).trans ?_
  cases found : set.of? other with
  | none => rfl
  | some overlay => simp [Option.filter_some, source_of_of? found, apart]

theorem Single.releaseAllPassive (single : set.Single) : set.releaseAllPassive.Single :=
  single.keep _

theorem of?_releaseAllPassive (single : set.Single) (source : Option InstanceId) :
    set.releaseAllPassive.of? source = (set.of? source).filter (·.duration ≠ .passive) :=
  of?_keep single _ _

theorem Single.releaseSource (single : set.Single) (source : InstanceId) :
    (set.releaseSource source).Single := single.keep _

theorem of?_releaseSource_same (set : OverlaySet) (source : InstanceId) :
    (set.releaseSource source).of? (some source) = none := by
  rw [of?_eq_none_iff]
  simp [sources, OverlaySet.releaseSource]

theorem of?_releaseSource_other (single : set.Single) {source : InstanceId}
    {other : Option InstanceId} (apart : other ≠ some source) :
    (set.releaseSource source).of? other = set.of? other := by
  refine (of?_keep single _ _).trans ?_
  cases found : set.of? other with
  | none => rfl
  | some overlay => simp [Option.filter_some, source_of_of? found, apart]

theorem countDown_source (overlay : Overlay) : (countDown overlay).source = overlay.source := by
  unfold countDown
  split <;> rfl

theorem countDown_value (overlay : Overlay) : (countDown overlay).value = overlay.value := by
  unfold countDown
  split <;> rfl

theorem countDown_passive {overlay : Overlay} :
    (countDown overlay).duration = .passive ↔ overlay.duration = .passive := by
  unfold countDown
  split <;> simp_all

theorem sources_expire (set : OverlaySet) :
    set.expire.sources = (set.keep fun o => o.duration ≠ .ticks 0).sources := by
  simp only [sources, OverlaySet.expire, OverlaySet.keep, List.map_map]
  exact List.map_congr_left fun overlay _ => countDown_source overlay

theorem Single.expire (single : set.Single) : set.expire.Single := by
  rw [Single, sources_expire]
  exact single.keep _

theorem of?_expire (single : set.Single) (source : Option InstanceId) :
    set.expire.of? source =
      ((set.of? source).filter fun o => o.duration ≠ .ticks 0).map countDown := by
  rw [← of?_keep single]
  simp only [of?, OverlaySet.expire, OverlaySet.keep, List.find?_map]
  congr 2
  funext overlay
  simp only [Function.comp_apply, countDown_source]

/-- The end of a tick leaves passive overlays alone, and makes none. -/
theorem of?_expire_passive (single : set.Single) {source : Option InstanceId} {overlay : Overlay}
    (passive : overlay.duration = .passive) :
    set.expire.of? source = some overlay ↔ set.of? source = some overlay := by
  rw [of?_expire single]
  cases found : set.of? source with
  | none => simp
  | some old =>
    constructor
    · intro after
      obtain ⟨kept, held, rfl⟩ := Option.map_eq_some_iff.mp after
      obtain ⟨same, _⟩ := Option.filter_eq_some_iff.mp held
      cases same
      rw [countDown_passive] at passive
      rw [countDown, passive]
    · intro same
      cases same
      simp [Option.filter_some, countDown, passive]

end Drop

end Gremlin.OverlaySet
