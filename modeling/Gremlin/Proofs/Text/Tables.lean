import Gremlin.Proofs.Outcome
import Gremlin.Proofs.Text.Spacing
import Gremlin.ReadError
import Mathlib.Data.List.Forall2

set_option autoImplicit false

/-!
Tables of rules with bars between them, and signs between the parts of a rule. A table is read piece
by piece, each without the blanks at its ends, and the first piece that is no rule is reported.
-/

namespace Gremlin

open Gremlin.Text

namespace Text

section Pieces

variable {sep : Char}

theorem Blanks.append {front back : List Char} (blank : Blanks front) (blank' : Blanks back) :
    Blanks (front ++ back) := List.forall_mem_append.mpr ⟨blank, blank'⟩

theorem exists_trimStart_append (cs : List Char) :
    ∃ lead, Blanks lead ∧ cs = lead ++ trimStart cs :=
  ⟨cs.takeWhile isBlank, fun _ member => List.mem_takeWhile_imp member,
    List.takeWhile_append_dropWhile.symm⟩

theorem exists_padded_trim (cs : List Char) :
    ∃ lead tail, Blanks lead ∧ Blanks tail ∧ cs = lead ++ trim cs ++ tail := by
  obtain ⟨lead, blank, parts⟩ := exists_trimStart_append cs
  obtain ⟨tail, blank', parts'⟩ := exists_trimEnd_append (trimStart cs)
  refine ⟨lead, tail, blank, blank', ?_⟩
  rw [trim, List.append_assoc, ← parts', ← parts]

theorem trim_eq_nil_iff {cs : List Char} : trim cs = [] ↔ Blanks cs := by
  obtain ⟨lead, tail, blank, blank', parts⟩ := exists_padded_trim cs
  constructor
  · intro none
    rw [parts, none, List.append_nil]
    exact blank.append blank'
  · intro all
    have none : trimStart cs = [] := List.dropWhile_eq_nil_iff.mpr all
    rw [trim, none]
    rfl

/-- A text without the separator is one piece, and any other is its first piece and a rest. -/
theorem cut_induction (sep : Char) {motive : List Char → Prop} (whole : ∀ cs, sep ∉ cs → motive cs)
    (cut : ∀ front rest, sep ∉ front → motive rest → motive (front ++ sep :: rest))
    (cs : List Char) : motive cs := by
  induction size : cs.length using Nat.strong_induction_on generalizing cs with
  | _ size ih =>
    subst size
    by_cases member : sep ∈ cs
    · obtain ⟨front, rest, rfl, absent⟩ := List.eq_append_cons_of_mem member
      apply cut front rest absent
      apply ih rest.length _ rest rfl
      simp only [List.length_append, List.length_cons]
      omega
    · exact whole cs member

/-- Blanks in front of a text or behind it are trimmed off its pieces. -/
theorem map_trim_splitOn_padded (solid : isBlank sep = false) {lead tail : List Char}
    (blank : Blanks lead) (blank' : Blanks tail) (cs : List Char) :
    ((lead ++ cs ++ tail).splitOn sep).map trim = (cs.splitOn sep).map trim := by
  have outside {gap : List Char} (blank : Blanks gap) : sep ∉ gap := fun member => by
    rw [blank sep member] at solid
    cases solid
  have trimmed {gap : List Char} (blank : Blanks gap) (inner : List Char) :
      trim (gap ++ inner) = trim inner := by
    rw [trim, trim, trimStart_append blank]
  have behind : ((cs ++ tail).splitOn sep).map trim = (cs.splitOn sep).map trim := by
    induction cs using cut_induction sep with
    | whole cs absent =>
      have absent' : sep ∉ cs ++ tail := by simp [absent, outside blank']
      rw [List.splitOn_eq_singleton absent, List.splitOn_eq_singleton absent', List.map_singleton,
        List.map_singleton, trim_append_blanks blank']
    | cut front rest absent ih =>
      rw [List.append_assoc, List.cons_append, splitOn_append absent, splitOn_append absent,
        List.map_cons, List.map_cons, ih]
  rw [List.append_assoc, ← behind]
  generalize cs ++ tail = back
  induction back using cut_induction sep with
  | whole back absent =>
    have absent' : sep ∉ lead ++ back := by simp [absent, outside blank]
    rw [List.splitOn_eq_singleton absent, List.splitOn_eq_singleton absent', List.map_singleton,
      List.map_singleton, trimmed blank]
  | cut front rest absent _ =>
    have absent' : sep ∉ lead ++ front := by simp [absent, outside blank]
    rw [← List.append_assoc, splitOn_append absent, splitOn_append absent', List.map_cons,
      List.map_cons, trimmed blank]

/-- It does not matter whether a text is trimmed before it is cut, if its pieces are. -/
theorem map_trim_splitOn_trim (solid : isBlank sep = false) (cs : List Char) :
    ((trim cs).splitOn sep).map trim = (cs.splitOn sep).map trim := by
  obtain ⟨lead, tail, blank, blank', parts⟩ := exists_padded_trim cs
  have padded := map_trim_splitOn_padded solid blank blank' (trim cs)
  rw [← parts] at padded
  exact padded.symm

end Pieces

section Signs

/-- Two parts with a sign between them that may have blanks on either side. -/
def Joined (sign front back cs : List Char) : Prop :=
  ∃ before after, Blanks before ∧ Blanks after ∧
    cs = front ++ (before ++ (sign ++ (after ++ back)))

variable {sign front back cs : List Char} {c : Char} {p : Char → Bool}

theorem joined_append (sign front back : List Char) :
    Joined sign front back (front ++ (sign ++ back)) :=
  ⟨[], [], blanks_nil, blanks_nil, rfl⟩

theorem Joined.firm (joined : Joined sign front back cs) (opens : Firm front) (closes : Firm back) :
    Firm cs := by
  obtain ⟨before, after, -, -, rfl⟩ := joined
  have whole := opens.append closes (before ++ (sign ++ after))
  simp only [List.append_assoc] at whole
  exact whole

theorem Joined.bar_not_mem (joined : Joined sign front back cs) (inside : '|' ∉ sign)
    (opens : '|' ∉ front) (closes : '|' ∉ back) : '|' ∉ cs := by
  obtain ⟨before, after, blank, blank', rfl⟩ := joined
  have cut : isSeparator '|' = true := rfl
  simp [inside, opens, closes, not_mem_of_blanks blank cut, not_mem_of_blanks blank' cut]

/-- A sign found behind a run of characters and blanks joins the run to what follows it. -/
theorem joined_of_scan {rest : List Char} (scanned : trimStart (cs.dropWhile p) = sign ++ rest) :
    Joined sign (cs.takeWhile p) (trimStart rest) cs := by
  obtain ⟨before, blank, parts⟩ := exists_trimStart_append (cs.dropWhile p)
  obtain ⟨after, blank', parts'⟩ := exists_trimStart_append rest
  refine ⟨before, after, blank, blank', ?_⟩
  rw [← parts', ← scanned, ← parts]
  exact List.takeWhile_append_dropWhile.symm

/-- A run of characters is taken up to the first that is not one of them. -/
theorem takeWhile_append_of_head {rest : List Char} (run : ∀ c ∈ front, p c = true)
    (stop : ∀ c ∈ rest.head?, p c = false) : (front ++ rest).takeWhile p = front := by
  rw [List.takeWhile_append_of_pos run]
  cases rest with
  | nil => exact List.append_nil front
  | cons c rest => simp [stop c rfl]

theorem dropWhile_append_of_head {rest : List Char} (run : ∀ c ∈ front, p c = true)
    (stop : ∀ c ∈ rest.head?, p c = false) : (front ++ rest).dropWhile p = rest := by
  rw [List.dropWhile_append_of_pos run]
  cases rest with
  | nil => rfl
  | cons c rest => simp [stop c rfl]

/-- Conversely the run and what follows the sign are found again, if the run ends there. -/
theorem Joined.scan (joined : Joined (c :: sign) front back cs) (run : ∀ d ∈ front, p d = true)
    (spaced : ∀ d, isBlank d = true → p d = false) (solid : isBlank c = false) (ends : p c = false)
    (closes : Firm back) :
    cs.takeWhile p = front ∧
      ∃ rest, trimStart (cs.dropWhile p) = c :: (sign ++ rest) ∧ trimStart rest = back := by
  obtain ⟨before, after, blank, blank', rfl⟩ := joined
  have stop : ∀ d ∈ (before ++ (c :: sign ++ (after ++ back))).head?, p d = false := by
    intro d found
    cases before with
    | nil =>
      cases found
      exact ends
    | cons _ before =>
      cases found
      exact spaced d (blank d List.mem_cons_self)
  refine ⟨takeWhile_append_of_head run stop, after ++ back, ?_, ?_⟩
  · rw [dropWhile_append_of_head run stop, trimStart_append blank]
    exact trimStart_cons_of_not_blank _ solid
  · rw [trimStart_append blank']
    exact trimStart_eq_self fun d found => not_blank_of_solid (closes.first d found)

end Signs

end Text

section Reading

variable {α : Type} (cause : ReadCause) (read? : List Char → Option α)

/-- Reads a piece without the blanks at its ends; its place is reported if it is faulty. -/
def readPiece (piece : List Char × Nat) : Except ReadError α :=
  (read? (trim piece.1)).elim (.error ⟨cause, piece.2, String.ofList (trim piece.1)⟩) .ok

/-- Reads a table of rules; a blank text has none. -/
def readTable (cs : List Char) : Except ReadError (List α) :=
  if (trim cs).isEmpty then .ok [] else ((trim cs).splitOn '|').zipIdx.mapM (readPiece cause read?)

variable {cause read?} {rules : List α} {cs : List Char} {e : ReadError}

theorem readPiece_eq_ok_iff {piece : List Char × Nat} {rule : α} :
    readPiece cause read? piece = .ok rule ↔ read? (trim piece.1) = some rule := by
  unfold readPiece
  cases read? (trim piece.1) with
  | none => exact iff_of_false (fun failed => nomatch failed) fun none => nomatch none
  | some _ => exact ⟨fun same => congrArg some (Except.ok.inj same),
      fun same => congrArg Except.ok (Option.some.inj same)⟩

theorem readPiece_eq_error_iff {piece : List Char × Nat} :
    readPiece cause read? piece = .error e ↔
      read? (trim piece.1) = none ∧ e = ⟨cause, piece.2, String.ofList (trim piece.1)⟩ := by
  unfold readPiece
  cases read? (trim piece.1) with
  | none => exact ⟨fun same => ⟨rfl, (Except.error.inj same).symm⟩,
      fun fault => congrArg Except.error fault.2.symm⟩
  | some _ => exact iff_of_false (fun failed => nomatch failed) fun fault => nomatch fault.1

theorem readTable_of_blanks (blank : Blanks cs) : readTable cause read? cs = .ok [] := by
  rw [readTable, trim_eq_nil_iff.mpr blank]
  rfl

theorem readTable_of_not_blanks (given : ¬ Blanks cs) : readTable cause read? cs =
    ((trim cs).splitOn '|').zipIdx.mapM (readPiece cause read?) := by
  rw [readTable, if_neg]
  rw [List.isEmpty_iff, trim_eq_nil_iff]
  exact given

/-- A text that is not blank is read if every piece is, and what is read of a piece does not depend
on the blanks around it. -/
theorem readTable_eq_ok_iff (given : ¬ Blanks cs) : readTable cause read? cs = .ok rules ↔
    List.Forall₂ (fun piece rule => read? (trim piece) = some rule) (cs.splitOn '|') rules := by
  have trimmed (pieces : List (List Char)) :
      List.Forall₂ (fun piece rule => read? (trim piece) = some rule) pieces rules ↔
        List.Forall₂ (fun piece rule => read? piece = some rule) (pieces.map trim) rules :=
    (@List.forall₂_map_left_iff _ _ _ (fun piece rule => read? piece = some rule) ..).symm
  rw [readTable_of_not_blanks given, mapM_eq_ok_iff, trimmed, ← map_trim_splitOn_trim rfl,
    ← trimmed]
  simp only [readPiece_eq_ok_iff]
  rw [← @List.forall₂_map_left_iff _ _ _
    (fun piece rule => read? (trim piece) = some rule) Prod.fst, List.zipIdx_map_fst]

/-- What is true of whatever is read of a piece is true of all rules of a table. -/
theorem forall_of_readTable {motive : α → Prop}
    (each : ∀ {piece rule}, read? piece = some rule → motive rule)
    (read : readTable cause read? cs = .ok rules) : ∀ rule ∈ rules, motive rule := by
  by_cases blank : Blanks cs
  · rw [readTable_of_blanks blank] at read
    cases read
    exact List.forall_mem_nil _
  · have told := (readTable_eq_ok_iff blank).mp read
    clear read
    generalize cs.splitOn '|' = pieces at told
    induction told with
    | nil => exact List.forall_mem_nil _
    | cons here _ ih => exact List.forall_mem_cons.mpr ⟨each here, ih⟩

theorem exists_mapM_readPiece_iff {pieces : List (List Char)} {place : Nat} :
    (∃ rules, (pieces.zipIdx place).mapM (readPiece cause read?) = .ok rules) ↔
      ∀ piece ∈ pieces, ∃ rule, read? (trim piece) = some rule := by
  simp only [exists_mapM_eq_ok_iff, readPiece_eq_ok_iff]
  conv_rhs => rw [← List.zipIdx_map_fst place pieces]
  rw [List.forall_mem_map]

/-- The first piece that is no rule is reported. -/
theorem readTable_eq_error_iff : readTable cause read? cs = .error e ↔
    ¬ Blanks cs ∧ ∃ before piece after, (trim cs).splitOn '|' = before ++ piece :: after ∧
      (∀ other ∈ before, ∃ rule, read? (trim other) = some rule) ∧ read? (trim piece) = none ∧
      e = ⟨cause, before.length, String.ofList (trim piece)⟩ := by
  by_cases blank : Blanks cs
  · rw [readTable_of_blanks blank]
    exact iff_of_false (fun failed => nomatch failed) fun fault => fault.1 blank
  rw [readTable_of_not_blanks blank, and_iff_right blank, mapM_zipIdx_eq_error_iff]
  simp only [exists_mapM_readPiece_iff, readPiece_eq_error_iff, Nat.zero_add]

end Reading

section Tabulates

variable {α : Type} {spells spells' : α → List Char → Prop} {rules : List α} {cs : List Char}

/-- A spelling of a rule with blanks around it. -/
def Padded (spells : α → List Char → Prop) (rule : α) (piece : List Char) : Prop :=
  ∃ lead inner tail, Blanks lead ∧ spells rule inner ∧ Blanks tail ∧ piece = lead ++ inner ++ tail

/-- The text holds the rules in order, each in one of its spellings, with bars between them and any
blanks around them. -/
inductive Tabulates (spells : α → List Char → Prop) : List α → List Char → Prop where
  | none {cs : List Char} (blank : Blanks cs) : Tabulates spells [] cs
  | last {rule : α} {piece : List Char} (here : Padded spells rule piece) :
      Tabulates spells [rule] piece
  | cons {rule next : α} {rest : List α} {piece cs : List Char} (here : Padded spells rule piece)
      (behind : Tabulates spells (next :: rest) cs) :
      Tabulates spells (rule :: next :: rest) (piece ++ '|' :: cs)

theorem padded_self {rule : α} (spelled : spells rule cs) : Padded spells rule cs :=
  ⟨[], cs, [], blanks_nil, spelled, blanks_nil, (List.append_nil cs).symm⟩

/-- Spellings joined by bars are a table. -/
theorem tabulates_intercalate {chars : α → List Char}
    (spelled : ∀ rule ∈ rules, spells rule (chars rule)) :
    Tabulates spells rules (['|'].intercalate (rules.map chars)) := by
  induction rules with
  | nil => exact .none blanks_nil
  | cons rule rest ih =>
    have here := padded_self (spelled rule List.mem_cons_self)
    have behind := ih fun other member => spelled other (List.mem_cons_of_mem _ member)
    cases rest with
    | nil =>
      rw [List.map_singleton, List.intercalate_singleton]
      exact .last here
    | cons next rest =>
      rw [List.map_cons, List.map_cons, List.intercalate_cons_cons, List.append_assoc]
      exact .cons here behind

theorem Tabulates.imp (tabulated : Tabulates spells rules cs)
    (weaker : ∀ rule ∈ rules, ∀ cs, spells rule cs → spells' rule cs) :
    Tabulates spells' rules cs := by
  have padded {rule : α} {piece : List Char} (member : rule ∈ rules)
      (here : Padded spells rule piece) : Padded spells' rule piece := by
    obtain ⟨lead, inner, tail, blank, spelled, blank', rfl⟩ := here
    exact ⟨lead, inner, tail, blank, weaker rule member inner spelled, blank', rfl⟩
  induction tabulated with
  | none blank => exact .none blank
  | last here => exact .last (padded List.mem_cons_self here)
  | cons here _ ih =>
    refine .cons (padded List.mem_cons_self here) (ih ?_ ?_)
    · exact fun other member => weaker other (List.mem_cons_of_mem _ member)
    · exact fun member => padded (List.mem_cons_of_mem _ member)

theorem Tabulates.forall {fits : α → Prop} (tabulated : Tabulates spells rules cs)
    (each : ∀ rule cs, spells rule cs → fits rule) : ∀ rule ∈ rules, fits rule := by
  have padded {rule : α} {piece : List Char} (here : Padded spells rule piece) : fits rule := by
    obtain ⟨_, inner, _, _, spelled, _, _⟩ := here
    exact each rule inner spelled
  induction tabulated with
  | none _ => exact List.forall_mem_nil _
  | last here => exact List.forall_mem_singleton.mpr (padded here)
  | cons here _ ih => exact List.forall_mem_cons.mpr ⟨padded here, ih⟩

/-- What is asked of each rule can be asked apart from the text. -/
theorem tabulates_and_iff {fits : α → Prop} :
    Tabulates (fun rule cs => fits rule ∧ spells rule cs) rules cs ↔
      (∀ rule ∈ rules, fits rule) ∧ Tabulates spells rules cs := by
  constructor
  · intro tabulated
    exact ⟨tabulated.forall fun _ _ both => both.1, tabulated.imp fun _ _ _ both => both.2⟩
  · rintro ⟨each, tabulated⟩
    exact tabulated.imp fun rule member _ spelled => ⟨each rule member, spelled⟩

end Tabulates

section Spelled

variable {α : Type} {cause : ReadCause} {read? : List Char → Option α}
  {spells : α → List Char → Prop} {rule : α} {rules : List α} {cs piece : List Char}

/-- A rule that is read of its spellings and of no other text, and has no bar in them. -/
structure Spelled (read? : List Char → Option α) (spells : α → List Char → Prop) (rule : α) :
    Prop where
  reads : ∀ cs, read? cs = some rule ↔ spells rule cs
  firm : ∀ cs, spells rule cs → Firm cs
  bar : ∀ cs, spells rule cs → '|' ∉ cs

theorem Spelled.not_mem (spelled : Spelled read? spells rule) (here : Padded spells rule piece) :
    '|' ∉ piece := by
  obtain ⟨lead, inner, tail, blank, spelling, blank', rfl⟩ := here
  have cut : isSeparator '|' = true := rfl
  simp [not_mem_of_blanks blank cut, not_mem_of_blanks blank' cut, spelled.bar inner spelling]

theorem Spelled.not_blanks (spelled : Spelled read? spells rule) (here : Padded spells rule piece) :
    ¬ Blanks piece := by
  obtain ⟨lead, inner, tail, -, spelling, -, rfl⟩ := here
  have firm := spelled.firm inner spelling
  obtain ⟨c, rest, rfl⟩ := List.exists_cons_of_ne_nil firm.nonempty
  intro blank
  have solid := not_blank_of_solid (firm.first c rfl)
  rw [blank c (by simp)] at solid
  cases solid

theorem Spelled.padded_iff (spelled : Spelled read? spells rule) :
    Padded spells rule piece ↔ read? (trim piece) = some rule := by
  constructor
  · rintro ⟨lead, inner, tail, blank, spelling, blank', rfl⟩
    have firm := spelled.firm inner spelling
    rw [trim_padded blank blank' (fun c found => not_blank_of_solid (firm.first c found))
      fun c found => not_blank_of_solid (firm.last c found)]
    exact (spelled.reads inner).mpr spelling
  · intro read
    obtain ⟨lead, tail, blank, blank', parts⟩ := exists_padded_trim piece
    exact ⟨lead, trim piece, tail, blank, (spelled.reads _).mp read, blank', parts⟩

/-- By cutting off one piece after the other. -/
theorem tabulates_of_splitOn (spelled : ∀ rule ∈ rules, Spelled read? spells rule)
    (read : List.Forall₂ (fun piece rule => read? (trim piece) = some rule) (cs.splitOn '|')
      rules) : Tabulates spells rules cs := by
  induction cs using cut_induction '|' generalizing rules with
  | whole cs absent =>
    rw [List.splitOn_eq_singleton absent] at read
    cases read with
    | cons here behind =>
      cases behind
      exact .last ((spelled _ List.mem_cons_self).padded_iff.mpr here)
  | cut front rest absent ih =>
    rw [splitOn_append absent] at read
    cases read with
    | @cons _ rule _ others here behind =>
      have front' := (spelled rule List.mem_cons_self).padded_iff.mpr here
      have spelled' := fun other member => spelled other (List.mem_cons_of_mem rule member)
      have tabulated := ih spelled' behind
      cases others with
      | nil => exact absurd (List.forall₂_nil_right_iff.mp behind) (List.splitOn_ne_nil '|' rest)
      | cons next others => exact .cons front' tabulated

theorem Tabulates.splitOn (tabulated : Tabulates spells rules cs) (nonempty : rules ≠ [])
    (spelled : ∀ rule ∈ rules, Spelled read? spells rule) : ¬ Blanks cs ∧
      List.Forall₂ (fun piece rule => read? (trim piece) = some rule) (cs.splitOn '|') rules := by
  induction tabulated with
  | none blank => exact absurd rfl nonempty
  | last here =>
    have rule := spelled _ List.mem_cons_self
    rw [List.splitOn_eq_singleton (rule.not_mem here)]
    exact ⟨rule.not_blanks here, .cons (rule.padded_iff.mp here) .nil⟩
  | cons here _ ih =>
    have rule := spelled _ List.mem_cons_self
    have behind := ih (List.cons_ne_nil _ _) fun other member =>
      spelled other (List.mem_cons_of_mem _ member)
    rw [splitOn_append (rule.not_mem here)]
    refine ⟨?_, .cons (rule.padded_iff.mp here) behind.2⟩
    exact fun blank => rule.not_blanks here fun c member => blank c (List.mem_append_left _ member)

/-- Rules are read of the texts that hold them, and of no others. -/
theorem readTable_eq_ok_iff_tabulates (spelled : ∀ rule ∈ rules, Spelled read? spells rule) :
    readTable cause read? cs = .ok rules ↔ Tabulates spells rules cs := by
  constructor
  · intro read
    by_cases blank : Blanks cs
    · rw [readTable_of_blanks blank] at read
      cases read
      exact .none blank
    · exact tabulates_of_splitOn spelled ((readTable_eq_ok_iff blank).mp read)
  · intro tabulated
    cases rules with
    | nil =>
      cases tabulated with
      | none blank => exact readTable_of_blanks blank
    | cons rule rest =>
      obtain ⟨given, read⟩ := tabulated.splitOn (List.cons_ne_nil rule rest) spelled
      exact (readTable_eq_ok_iff given).mpr read

/-- A table of one rule is read of the text that the rule itself is read of. -/
theorem readTable_eq_ok_singleton_iff (spelled : Spelled read? spells rule) :
    readTable cause read? cs = .ok [rule] ↔ read? (trim cs) = some rule := by
  rw [← spelled.padded_iff, readTable_eq_ok_iff_tabulates (List.forall_mem_singleton.mpr spelled)]
  constructor
  · intro tabulated
    cases tabulated with
    | last here => exact here
  · exact .last

end Spelled

end Gremlin
