import Gremlin.Adaptive
import Gremlin.Proofs.Text.Numerals
import Gremlin.Proofs.Text.Tables

set_option autoImplicit false

/-!
Texts of decision tables. A table is read of its own text and of every spacing of it. A text that is
not read is blamed at its first rule that cannot be read alone.
-/

namespace Gremlin

open Gremlin.Text

namespace Counter

theorem ofChars?_eq_some_iff {counter : Counter} {cs : List Char} :
    ofChars? cs = some counter ↔ cs = counter.name.toList := by
  constructor
  · intro found
    exact (name_of_named? found).symm
  · rintro rfl
    apply ofChars?_name
    cases counter with
    | damage force => cases force <;> decide
    | totalDamage | executionAttempts | kills | cardsPlayed => decide

theorem isCounterChar_name (counter : Counter) :
    ∀ c ∈ counter.name.toList, AdaptiveRule.isCounterChar c = true := by
  apply List.all_eq_true.mp
  cases counter with
  | damage force => cases force <;> decide +kernel
  | totalDamage | executionAttempts | kills | cardsPlayed => decide

theorem name_ne_nil (counter : Counter) : counter.name.toList ≠ [] := by
  cases counter with
  | damage force => cases force <;> decide +kernel
  | totalDamage | executionAttempts | kills | cardsPlayed => decide

end Counter

namespace AdaptiveRule

/-- Thresholds and moves are numbers of 64 bits. -/
structure Fits (rule : AdaptiveRule) : Prop where
  threshold : rule.threshold < longBound
  move : rule.move < longBound

/-- The text of a rule with any blanks put in beside its signs. -/
def Spaced (rule : AdaptiveRule) (cs : List Char) : Prop :=
  ∃ rest, Joined ['>', '='] rule.counter.name.toList rest cs ∧
    Joined [':'] (decimal rule.threshold) (decimal rule.move) rest

/-- The texts of a rule: zeros may stand before its numbers as well. -/
def Spells (rule : AdaptiveRule) (cs : List Char) : Prop :=
  ∃ threshold move rest, Joined ['>', '='] rule.counter.name.toList rest cs ∧
    Joined [':'] threshold move rest ∧ Written rule.threshold threshold ∧ Written rule.move move

section Reading

variable {rule : AdaptiveRule} {cs : List Char} {c : Char}

theorem solid_of_isCounterChar (inside : isCounterChar c = true) : isSolid c = true := by
  rw [isCounterChar, Bool.or_eq_true, decide_eq_true_eq] at inside
  rcases inside with lower | rfl
  · exact solid_of_isLower lower
  · rfl

theorem word_name (counter : Counter) : Word counter.name.toList :=
  ⟨counter.name_ne_nil, fun c member =>
    solid_of_isCounterChar (counter.isCounterChar_name c member)⟩

theorem isCounterChar_of_isBlank (blank : isBlank c = true) : isCounterChar c = false := by
  by_contra inside
  rw [Bool.not_eq_false] at inside
  rw [not_blank_of_solid (solid_of_isCounterChar inside)] at blank
  cases blank

/-- A rule is a counter and two numbers with the signs between them. -/
theorem readTrimmed?_eq_some_iff : readTrimmed? cs = some rule ↔ rule.Fits ∧ rule.Spells cs := by
  constructor
  · intro read
    unfold readTrimmed? at read
    dsimp only at read
    split at read
    · next rest arrow =>
      split at read
      · next rest' colon =>
        split at read
        · next counter first second =>
          cases read
          obtain ⟨small, threshold⟩ := readBelow?_eq_some_iff_written.mp first
          obtain ⟨small', move⟩ := readBelow?_eq_some_iff_written.mp second
          have joined := @joined_of_scan ['>', '='] cs isCounterChar rest arrow
          rw [Counter.ofChars?_eq_some_iff.mp counter] at joined
          exact ⟨⟨small, small'⟩, _, _, _, joined, joined_of_scan colon, threshold, move⟩
        · cases read
      · cases read
    · cases read
  · rintro ⟨⟨small, small'⟩, threshold, move, rest, arrow, colon, first, second⟩
    have spaced (c : Char) := @isCounterChar_of_isBlank c
    have spaced' (c : Char) := @isDecimalDigit_of_isBlank c
    obtain ⟨counter, back, arrow', rest'⟩ := arrow.scan (Counter.isCounterChar_name _) spaced rfl
      (by decide) (colon.firm first.word.firm second.word.firm)
    obtain ⟨threshold', back', colon', move'⟩ := colon.scan first.isDecimalDigit spaced' rfl
      (by decide) second.word.firm
    have named : Counter.ofChars? rule.counter.name.toList = some rule.counter :=
      Counter.ofChars?_eq_some_iff.mpr rfl
    rw [List.singleton_append] at arrow'
    rw [List.nil_append] at colon'
    unfold readTrimmed?
    simp only [counter, arrow', rest', threshold', colon', move', named,
      readBelow?_eq_some_iff_written.mpr ⟨small, first⟩,
      readBelow?_eq_some_iff_written.mpr ⟨small', second⟩]

theorem Spells.firm (spelled : rule.Spells cs) : Firm cs := by
  obtain ⟨threshold, move, rest, arrow, colon, first, second⟩ := spelled
  exact arrow.firm (word_name _).firm (colon.firm first.word.firm second.word.firm)

theorem Spells.bar_not_mem (spelled : rule.Spells cs) : '|' ∉ cs := by
  obtain ⟨threshold, move, rest, arrow, colon, first, second⟩ := spelled
  have word {cs : List Char} (word : Word cs) : '|' ∉ cs := not_mem_of_word word rfl
  apply arrow.bar_not_mem (by decide) (word (word_name _))
  exact colon.bar_not_mem (by decide) (word first.word) (word second.word)

theorem spelled (rule : AdaptiveRule) :
    Spelled readTrimmed? (fun rule cs => rule.Fits ∧ rule.Spells cs) rule where
  reads _ := readTrimmed?_eq_some_iff
  firm _ given := given.2.firm
  bar _ given := given.2.bar_not_mem

theorem Spaced.spells (spaced : rule.Spaced cs) : rule.Spells cs := by
  obtain ⟨rest, arrow, colon⟩ := spaced
  exact ⟨_, _, rest, arrow, colon, written_decimal _, written_decimal _⟩

theorem spaced_chars (rule : AdaptiveRule) : rule.Spaced rule.chars :=
  ⟨_, joined_append ['>', '='] _ _, joined_append [':'] _ _⟩

end Reading

theorem readRules_eq_mapM (index : Nat) (pieces : List (List Char)) : readRules index pieces =
    (pieces.zipIdx index).mapM (readPiece .invalidAdaptiveRule readTrimmed?) := by
  apply eq_mapM_zipIdx
  · exact fun _ => rfl
  · intro index piece rest
    rw [readRules, readPiece]
    cases readTrimmed? (trim piece) with
    | none => rfl
    | some rule => cases readRules (index + 1) rest <;> rfl

end AdaptiveRule

namespace AdaptiveTable

variable {interval : Nat} {cs piece : List Char} {rule : AdaptiveRule} {rules : List AdaptiveRule}
  {e : ReadError}

theorem readChars_eq_map_readTable : readChars interval cs =
    (readTable .invalidAdaptiveRule AdaptiveRule.readTrimmed? cs).map fun rules =>
      ⟨interval, rules⟩ := by
  rw [readChars, readTable, AdaptiveRule.readRules_eq_mapM]
  split
  · rfl
  · cases List.mapM (readPiece .invalidAdaptiveRule AdaptiveRule.readTrimmed?)
      ((trim cs).splitOn '|').zipIdx <;> rfl

/-- The numbers of every rule fit. -/
def Fits (table : AdaptiveTable) : Prop := ∀ rule ∈ table.rules, rule.Fits

/-- A text of which a table of one rule is read. -/
def ReadsAlone (piece : List Char) : Prop :=
  ∃ interval rule, readChars interval piece = .ok ⟨interval, [rule]⟩

theorem readsAlone_iff :
    ReadsAlone piece ↔ ∃ rule, AdaptiveRule.readTrimmed? (trim piece) = some rule := by
  have alone (interval : Nat) (rule : AdaptiveRule) :
      readChars interval piece = .ok ⟨interval, [rule]⟩ ↔
        AdaptiveRule.readTrimmed? (trim piece) = some rule := by
    rw [readChars_eq_map_readTable, map_eq_ok,
      ← @readTable_eq_ok_singleton_iff _ .invalidAdaptiveRule _ _ _ _ (AdaptiveRule.spelled rule)]
    constructor
    · rintro ⟨rules, read, same⟩
      cases same
      exact read
    · exact fun read => ⟨_, read, rfl⟩
  constructor
  · rintro ⟨interval, rule, read⟩
    exact ⟨rule, (alone interval rule).mp read⟩
  · rintro ⟨rule, read⟩
    exact ⟨0, rule, (alone 0 rule).mpr read⟩

/-- A table is read of the texts that hold its rules in order, and of no others. -/
theorem readChars_eq_ok_iff {table : AdaptiveTable} : readChars interval cs = .ok table ↔
    table.interval = interval ∧ table.Fits ∧ Tabulates AdaptiveRule.Spells table.rules cs := by
  rw [readChars_eq_map_readTable, map_eq_ok, Fits, ← tabulates_and_iff]
  have read_iff (rules : List AdaptiveRule) :=
    @readTable_eq_ok_iff_tabulates _ .invalidAdaptiveRule _ _ rules cs
      fun rule _ => AdaptiveRule.spelled rule
  constructor
  · rintro ⟨rules, read, rfl⟩
    exact ⟨rfl, (read_iff rules).mp read⟩
  · rintro ⟨rfl, tabulated⟩
    exact ⟨table.rules, (read_iff table.rules).mpr tabulated, rfl⟩

theorem readChars_eq_error_iff : readChars interval cs = .error e ↔
    ¬ Blanks cs ∧ ∃ before piece after, (trim cs).splitOn '|' = before ++ piece :: after ∧
      (∀ other ∈ before, ReadsAlone other) ∧ ¬ ReadsAlone piece ∧
      e = ⟨.invalidAdaptiveRule, before.length, String.ofList (trim piece)⟩ := by
  have mapped (outcome : Except ReadError (List AdaptiveRule)) :
      (outcome.map fun rules => (⟨interval, rules⟩ : AdaptiveTable)) = .error e ↔
        outcome = .error e := by
    cases outcome <;> simp [Except.map]
  have refused (piece : List Char) :
      AdaptiveRule.readTrimmed? (trim piece) = none ↔ ¬ ReadsAlone piece := by
    rw [readsAlone_iff, Option.eq_none_iff_forall_ne_some, not_exists]
  rw [readChars_eq_map_readTable, mapped, readTable_eq_error_iff]
  simp only [readsAlone_iff, refused]

/-- A table whose numbers fit is read of its own text, and of every text with blanks put in beside
the signs and bars or at the ends. Whatever text a table is read of, its own text is read as the same
table. A text that is not read is blamed at its first rule that cannot be read alone, by the place of
that rule. -/
theorem spaced_round_trip :
    (∀ table : AdaptiveTable, table.Fits → read table.interval table.text = .ok table ∧
      ∀ spaced : String, Tabulates AdaptiveRule.Spaced table.rules spaced.toList →
        read table.interval spaced = .ok table) ∧
    (∀ (interval : Nat) (s : String) (table : AdaptiveTable),
      (read interval s = .ok table ↔ table.interval = interval ∧ table.Fits ∧
        Tabulates AdaptiveRule.Spells table.rules s.toList) ∧
      (read interval s = .ok table → read interval table.text = .ok table)) ∧
    ∀ (interval : Nat) (s : String) (e : ReadError), read interval s = .error e ↔
      ¬ Blanks s.toList ∧
        ∃ before piece after, (trim s.toList).splitOn '|' = before ++ piece :: after ∧
          (∀ other ∈ before, ReadsAlone other) ∧ ¬ ReadsAlone piece ∧
          e = ⟨.invalidAdaptiveRule, before.length, String.ofList (trim piece)⟩ := by
  have spaced {table : AdaptiveTable} (fits : table.Fits) {spaced : String}
      (tabulated : Tabulates AdaptiveRule.Spaced table.rules spaced.toList) :
      read table.interval spaced = .ok table :=
    readChars_eq_ok_iff.mpr ⟨rfl, fits, tabulated.imp fun _ _ _ given => given.spells⟩
  have own {table : AdaptiveTable} (fits : table.Fits) :
      read table.interval table.text = .ok table := by
    apply spaced fits
    rw [text, String.toList_ofList]
    exact tabulates_intercalate fun rule _ => rule.spaced_chars
  refine ⟨fun table fits => ⟨own fits, fun _ => spaced fits⟩, ?_, fun _ _ _ =>
    readChars_eq_error_iff⟩
  intro interval s table
  refine ⟨readChars_eq_ok_iff, ?_⟩
  intro given
  obtain ⟨rfl, fits, -⟩ := readChars_eq_ok_iff.mp given
  exact own fits

theorem spaced_round_trip_heat :
    read 4 " damage_total>=10:1 |damage_heat >= 5:\t2" =
      .ok ⟨4, [⟨.totalDamage, 10, 1⟩, ⟨.damage .heat, 5, 2⟩]⟩ := by
  have fits : Fits ⟨4, [⟨.totalDamage, 10, 1⟩, ⟨.damage .heat, 5, 2⟩]⟩ := by
    intro rule member
    rcases List.mem_pair.mp member with rfl | rfl <;> exact ⟨by decide, by decide⟩
  have total : AdaptiveRule.Spaced ⟨.totalDamage, 10, 1⟩ "damage_total>=10:1".toList :=
    AdaptiveRule.spaced_chars _
  have heat : AdaptiveRule.Spaced ⟨.damage .heat, 5, 2⟩ "damage_heat >= 5:\t2".toList :=
    ⟨"5:\t2".toList, ⟨[' '], [' '], by decide, by decide, by decide +kernel⟩,
      ⟨[], ['\t'], by decide, by decide, by decide +kernel⟩⟩
  apply (spaced_round_trip.1 _ fits).2
  exact @Tabulates.cons _ _ _ _ _ " damage_total>=10:1 ".toList "damage_heat >= 5:\t2".toList
    ⟨[' '], _, [' '], by decide, total, by decide, by decide +kernel⟩ (.last (padded_self heat))

end AdaptiveTable

end Gremlin
