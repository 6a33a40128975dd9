import Gremlin.Proofs.Text.Numerals
import Gremlin.Proofs.Text.Tables
import Gremlin.Transition

set_option autoImplicit false

/-!
Transitions on counts. A table whose conditions count triggers or ticks, or need one firing, is read
of every text that holds its rules, and its own text is one of them.
-/

namespace Gremlin

open Gremlin.Text

namespace Condition

/-- No condition on health. -/
def Counted (condition : Condition) : Prop := ∀ threshold, condition ≠ .atHealth threshold

/-- A count is a number of 32 bits. -/
def Fits : Condition → Prop
  | afterTriggers count | afterTicks count => count < wordBound
  | atHealth _ | automatic => True

/-- A condition on a count. -/
def countChars (unit : String) (digits plural : List Char) : List Char :=
  "after_".toList ++ (digits ++ '_' :: (unit.toList ++ plural))

/-- The texts of conditions on counts: zeros may stand before the digits, and the unit may be in the
singular. -/
inductive Spells : Condition → List Char → Prop where
  | triggers {count : Nat} {digits plural : List Char} (written : Written count digits)
      (ending : plural = [] ∨ plural = ['s']) :
      Spells (.afterTriggers count) (countChars "trigger" digits plural)
  | ticks {count : Nat} {digits plural : List Char} (written : Written count digits)
      (ending : plural = [] ∨ plural = ['s']) :
      Spells (.afterTicks count) (countChars "tick" digits plural)
  | automatic : Spells .automatic "automatic".toList
  | cycle : Spells .automatic "cycle".toList

section Reading

variable {condition : Condition} {digits cs : List Char} {count : Nat}

theorem readCount_eq_ok_iff :
    readCount digits = .ok count ↔ count < wordBound ∧ Written count digits := by
  rw [← readDecimal?_eq_some_iff]
  by_cases ascii : ∀ c ∈ digits, c.isDigit = true
  · have all : digits.all Char.isDigit = true := List.all_eq_true.mpr ascii
    have whole : digits.takeWhile Char.isDigit = digits := List.takeWhile_eq_self_iff.mpr ascii
    unfold readCount
    rw [whole]
    cases readDecimal? digits with
    | none => simp
    | some n =>
      by_cases large : wordBound ≤ n
      · simp only [large, ↓reduceIte, reduceCtorEq, Option.some.injEq, false_iff, not_and]
        omega
      · simp only [large, ↓reduceIte, all, Except.ok.injEq, Option.some.injEq]
        omega
  · have foreign : digits.all Char.isDigit = false := by
      rw [← Bool.not_eq_true, List.all_eq_true]
      exact ascii
    have none : readDecimal? digits = none := by simp [readDecimal?, foreign]
    unfold readCount
    rw [none]
    split
    · simp
    · split <;> simp [foreign]

/-- The digits end at the underscore, and the unit must be the one that is looked for. -/
theorem countBefore?_of_written (written : Written count digits) (unit : String)
    (ending : List Char) :
    countBefore? unit ("after_".toList ++ (digits ++ '_' :: ending)) =
      if ending = unit.toList ∨ ending = unit.toList ++ ['s'] then some digits else none := by
  have stop : ∀ c ∈ ('_' :: ending).head?, isDecimalDigit c = false := by
    intro c found
    cases found
    decide
  have opened : dropStart? "after_".toList ("after_".toList ++ (digits ++ '_' :: ending)) =
      some (digits ++ '_' :: ending) := dropStart?_eq_some.mpr rfl
  have run := written.isDecimalDigit
  have given : digits.isEmpty = false := List.isEmpty_eq_false_iff.mpr written.ne_nil
  unfold countBefore?
  simp only [opened, takeWhile_append_of_head run stop,
    dropWhile_append_of_head run stop, given, List.cons.injEq, true_and, Bool.not_false,
    Bool.true_and, Bool.or_eq_true, decide_eq_true_eq]

theorem eq_countChars_of_countBefore? {unit : String} (found : countBefore? unit cs = some digits) :
    ∃ plural, (plural = [] ∨ plural = ['s']) ∧ cs = countChars unit digits plural := by
  unfold countBefore? at found
  split at found
  · cases found
  · next rest opened =>
    rw [dropStart?_eq_some.mp opened]
    simp only [Option.ite_none_right_eq_some, Bool.and_eq_true, Bool.or_eq_true,
      decide_eq_true_eq, Option.some.injEq] at found
    obtain ⟨⟨-, ending⟩, rfl⟩ := found
    have whole := @List.takeWhile_append_dropWhile _ isDecimalDigit rest
    rcases ending with singular | plural
    · refine ⟨[], .inl rfl, ?_⟩
      unfold countChars
      rw [List.append_nil, ← singular, whole]
    · refine ⟨['s'], .inr rfl, ?_⟩
      unfold countChars
      rw [← plural, whole]

theorem countBefore?_countChars {plural : List Char} (written : Written count digits)
    (ending : plural = [] ∨ plural = ['s']) (unit : String) :
    countBefore? unit (countChars unit digits plural) = some digits := by
  unfold countChars
  rw [countBefore?_of_written written, if_pos]
  rcases ending with rfl | rfl
  · exact .inl (List.append_nil _)
  · exact .inr rfl

theorem countChars_not_named (unit : String) (digits plural : List Char) :
    ¬ (countChars unit digits plural = "automatic".toList ||
      countChars unit digits plural = "cycle".toList) = true := by
  rw [Bool.or_eq_true, decide_eq_true_eq, decide_eq_true_eq]
  rintro (same | same)
  · cases (dropStart?_eq_some.mpr same.symm : dropStart? "after_".toList "automatic".toList = _)
  · cases (dropStart?_eq_some.mpr same.symm : dropStart? "after_".toList "cycle".toList = _)

/-- Of the conditions not on health, one that fits is read of its texts and of no other. -/
theorem readChars_eq_ok_iff (counted : condition.Counted) :
    readChars cs = .ok condition ↔ condition.Fits ∧ condition.Spells cs := by
  constructor
  · intro read
    unfold readChars at read
    split at read
    · next named =>
      cases read
      rw [Bool.or_eq_true, decide_eq_true_eq, decide_eq_true_eq] at named
      rcases named with rfl | rfl
      · exact ⟨trivial, .automatic⟩
      · exact ⟨trivial, .cycle⟩
    split at read
    · next digits found =>
      obtain ⟨count, number, rfl⟩ := map_eq_ok.mp read
      obtain ⟨small, written⟩ := readCount_eq_ok_iff.mp number
      obtain ⟨plural, ending, rfl⟩ := eq_countChars_of_countBefore? found
      exact ⟨small, .triggers written ending⟩
    split at read
    · next digits found =>
      obtain ⟨count, number, rfl⟩ := map_eq_ok.mp read
      obtain ⟨small, written⟩ := readCount_eq_ok_iff.mp number
      obtain ⟨plural, ending, rfl⟩ := eq_countChars_of_countBefore? found
      exact ⟨small, .ticks written ending⟩
    -- what is left is a condition on health
    split at read
    · cases read
    split at read
    · cases read
    split at read
    · cases read
    · cases read
      exact absurd rfl (counted _)
  · rintro ⟨fits, spelled⟩
    cases spelled with
    | @triggers count digits plural written ending =>
      have found := countBefore?_countChars written ending "trigger"
      have number : readCount digits = .ok count := readCount_eq_ok_iff.mpr ⟨fits, written⟩
      rw [readChars, if_neg (countChars_not_named "trigger" digits plural)]
      simp only [found, number]
      rfl
    | @ticks count digits plural written ending =>
      have other : countBefore? "trigger" (countChars "tick" digits plural) = none := by
        unfold countChars
        rw [countBefore?_of_written written, if_neg]
        rcases ending with rfl | rfl <;> decide
      have found := countBefore?_countChars written ending "tick"
      have number : readCount digits = .ok count := readCount_eq_ok_iff.mpr ⟨fits, written⟩
      rw [readChars, if_neg (countChars_not_named "tick" digits plural)]
      simp only [other, found, number]
      rfl
    | automatic => rfl
    | cycle => rfl

theorem fits_of_readChars (read : readChars cs = .ok condition) : condition.Fits := by
  by_cases counted : condition.Counted
  · exact ((readChars_eq_ok_iff counted).mp read).1
  · cases condition with
    | atHealth | automatic => trivial
    | afterTriggers | afterTicks => exact absurd (fun _ => Condition.noConfusion) counted

theorem Spells.ne_nil (spelled : condition.Spells cs) : cs ≠ [] := by
  cases spelled with
  | triggers | ticks => exact List.append_ne_nil_of_left_ne_nil (by decide) _
  | automatic | cycle => decide

theorem Spells.isConditionChar (spelled : condition.Spells cs) :
    ∀ c ∈ cs, TransitionRule.isConditionChar c = true := by
  have counts (unit : String) {count : Nat} {digits plural : List Char}
      (written : Written count digits) (ending : plural = [] ∨ plural = ['s'])
      (letters : unit.toList.all TransitionRule.isConditionChar = true) :
      (countChars unit digits plural).all TransitionRule.isConditionChar = true := by
    have start : "after_".toList.all TransitionRule.isConditionChar = true := by decide
    have line : TransitionRule.isConditionChar '_' = true := by decide
    have plural : plural.all TransitionRule.isConditionChar = true := by
      rcases ending with rfl | rfl <;> decide
    have number : digits.all TransitionRule.isConditionChar = true := by
      apply List.all_eq_true.mpr
      intro c member
      simp [TransitionRule.isConditionChar, continuesIdentifier, written.isDigit c member]
    unfold countChars
    rw [List.all_append, List.all_append, List.all_cons, List.all_append, start, number, line,
      letters, plural]
    rfl
  apply List.all_eq_true.mp
  cases spelled with
  | triggers written ending => exact counts "trigger" written ending (by decide)
  | ticks written ending => exact counts "tick" written ending (by decide)
  | automatic | cycle => decide

theorem solid_of_isConditionChar {c : Char} (inside : TransitionRule.isConditionChar c = true) :
    isSolid c = true := by
  simp only [TransitionRule.isConditionChar, continuesIdentifier, Bool.or_eq_true,
    decide_eq_true_eq] at inside
  rcases inside with ((lower | digit) | rfl) | rfl
  · exact solid_of_isLower lower
  · exact solid_of_isDigit digit
  · rfl
  · rfl

theorem Spells.word (spelled : condition.Spells cs) : Word cs :=
  ⟨spelled.ne_nil, fun c member => solid_of_isConditionChar (spelled.isConditionChar c member)⟩

theorem spells_chars (counted : condition.Counted) : condition.Spells condition.chars := by
  cases condition with
  | afterTriggers count =>
    have unit : "_triggers".toList = '_' :: ("trigger".toList ++ ['s']) := rfl
    have text : chars (.afterTriggers count) = countChars "trigger" (decimal count) ['s'] := by
      unfold chars countChars
      dsimp only
      rw [List.append_assoc, unit]
    rw [text]
    exact .triggers (written_decimal count) (.inr rfl)
  | afterTicks count =>
    have unit : "_ticks".toList = '_' :: ("tick".toList ++ ['s']) := rfl
    have text : chars (.afterTicks count) = countChars "tick" (decimal count) ['s'] := by
      unfold chars countChars
      dsimp only
      rw [List.append_assoc, unit]
    rw [text]
    exact .ticks (written_decimal count) (.inr rfl)
  | atHealth threshold => exact absurd rfl (counted threshold)
  | automatic => exact .automatic

end Reading

end Condition

namespace TransitionRule

/-- Moves are numbered with 64 bits. -/
structure Fits (rule : TransitionRule) : Prop where
  source : rule.source < longBound
  next : rule.transition.next < longBound
  condition : rule.transition.condition.Fits

/-- The texts of a rule with a counted condition: zeros may stand before its numbers, and blanks on
either side of its signs. -/
inductive Spells (rule : TransitionRule) (cs : List Char) : Prop where
  | intro {source next condition rest : List Char} (arrow : Joined ['>'] source rest cs)
      (colon : Joined [':'] next condition rest) (first : Written rule.source source)
      (second : Written rule.transition.next next)
      (given : rule.transition.condition.Spells condition)

section Reading

variable {rule : TransitionRule} {cs : List Char}

/-- A rule is two numbers and a condition with the signs between them. -/
theorem readTrimmed?_eq_some_iff : readTrimmed? cs = some rule ↔
    ∃ source next condition rest, Joined ['>'] source rest cs ∧ Joined [':'] next condition rest ∧
      readBelow? longBound source = some rule.source ∧
      readBelow? longBound next = some rule.transition.next ∧
      condition ≠ [] ∧ (∀ c ∈ condition, isConditionChar c = true) ∧
      Condition.readChars condition = .ok rule.transition.condition := by
  constructor
  · intro read
    unfold readTrimmed? digitsThen at read
    dsimp only at read
    split at read
    · next rest arrow =>
      split at read
      · next rest' colon =>
        split at read
        · cases read
        · next accepted =>
          split at read
          · next first second given =>
            cases read
            rw [Bool.or_eq_true, Bool.not_eq_true', List.isEmpty_iff, not_or,
              Bool.not_eq_false, List.all_eq_true] at accepted
            exact ⟨_, _, _, _, joined_of_scan arrow, joined_of_scan colon, first, second,
              accepted.1, accepted.2, given⟩
          · cases read
      · cases read
    · cases read
  · rintro ⟨source, next, condition, rest, arrow, colon, first, second, given, inside, read⟩
    have written := (readBelow?_eq_some_iff_written.mp first).2
    have written' := (readBelow?_eq_some_iff_written.mp second).2
    have word : Word condition := ⟨given, fun c member =>
      Condition.solid_of_isConditionChar (inside c member)⟩
    have spaced (c : Char) := @isDecimalDigit_of_isBlank c
    obtain ⟨source', back, arrow', rest'⟩ := arrow.scan written.isDecimalDigit spaced rfl
      (by decide) (colon.firm written'.word.firm word.firm)
    obtain ⟨next', back', colon', condition'⟩ := colon.scan written'.isDecimalDigit spaced rfl
      (by decide) word.firm
    rw [List.nil_append] at arrow' colon'
    have accepted : (condition.isEmpty || !condition.all isConditionChar) = false := by
      rw [List.isEmpty_eq_false_iff.mpr given, List.all_eq_true.mpr inside]
      rfl
    unfold readTrimmed? digitsThen
    simp only [source', arrow', rest', next', colon', condition', accepted, first, second, read,
      Bool.false_eq_true, ↓reduceIte]

/-- A rule that is not on health and fits is read of its texts and of no other. -/
theorem readTrimmed?_eq_some_iff_spells (counted : rule.transition.condition.Counted) :
    readTrimmed? cs = some rule ↔ rule.Fits ∧ rule.Spells cs := by
  simp only [readTrimmed?_eq_some_iff, readBelow?_eq_some_iff_written,
    Condition.readChars_eq_ok_iff counted]
  constructor
  · rintro ⟨source, next, condition, rest, arrow, colon, ⟨small, first⟩, ⟨small', second⟩, -, -,
      fits, spelled⟩
    exact ⟨⟨small, small', fits⟩, .intro arrow colon first second spelled⟩
  · rintro ⟨⟨small, small', fits⟩, ⟨arrow, colon, first, second, spelled⟩⟩
    exact ⟨_, _, _, _, arrow, colon, ⟨small, first⟩, ⟨small', second⟩, spelled.ne_nil,
      spelled.isConditionChar, fits, spelled⟩

theorem Spells.firm (spelled : rule.Spells cs) : Firm cs := by
  obtain ⟨arrow, colon, first, second, given⟩ := spelled
  exact arrow.firm first.word.firm (colon.firm second.word.firm given.word.firm)

theorem Spells.bar_not_mem (spelled : rule.Spells cs) : '|' ∉ cs := by
  obtain ⟨arrow, colon, first, second, given⟩ := spelled
  have word {cs : List Char} (word : Word cs) : '|' ∉ cs := not_mem_of_word word rfl
  apply arrow.bar_not_mem (by decide) (word first.word)
  exact colon.bar_not_mem (by decide) (word second.word) (word given.word)

theorem spelled (counted : rule.transition.condition.Counted) :
    Spelled readTrimmed? (fun rule cs => rule.Fits ∧ rule.Spells cs) rule where
  reads _ := readTrimmed?_eq_some_iff_spells counted
  firm _ given := given.2.firm
  bar _ given := given.2.bar_not_mem

theorem spells_chars (counted : rule.transition.condition.Counted) : rule.Spells rule.chars :=
  .intro (joined_append ['>'] _ _) (joined_append [':'] _ _) (written_decimal _) (written_decimal _)
    (Condition.spells_chars counted)

end Reading

section Tables

variable {rules : List TransitionRule}

theorem readRules_eq_mapM (index : Nat) (pieces : List (List Char)) : readRules index pieces =
    (pieces.zipIdx index).mapM (readPiece .invalidTransition readTrimmed?) := by
  apply eq_mapM_zipIdx
  · exact fun _ => rfl
  · intro index piece rest
    rw [readRules, readPiece]
    cases readTrimmed? (trim piece) with
    | none => rfl
    | some rule => cases readRules (index + 1) rest <;> rfl

theorem readChars_eq_readTable (cs : List Char) :
    readChars cs = readTable .invalidTransition readTrimmed? cs := by
  rw [readChars, readTable, readRules_eq_mapM]

theorem condition_fits_of_readList {s : String} (read : readList s = .ok rules) :
    ∀ rule ∈ rules, rule.transition.condition.Fits := by
  rw [readList, readChars_eq_readTable] at read
  refine forall_of_readTable (fun {piece rule} here => ?_) read
  obtain ⟨_, _, _, _, _, _, _, _, _, _, told⟩ := readTrimmed?_eq_some_iff.mp here
  exact Condition.fits_of_readChars told

/-- A table whose conditions are not on health is read of its own text, if its numbers fit. It is
read of the texts that hold its rules in order, and of no others, with zeros before numbers, units in
the singular, `cycle` for one firing, and blanks around rules and signs. Whatever text it is read of,
its own text is read as the same table. -/
theorem counted_round_trip (counted : ∀ rule ∈ rules, rule.transition.condition.Counted) :
    ((∀ rule ∈ rules, rule.Fits) → readList (listText rules) = .ok rules) ∧
    (∀ s : String, readList s = .ok rules ↔
      (∀ rule ∈ rules, rule.Fits) ∧ Tabulates Spells rules s.toList) ∧
    ∀ s : String, readList s = .ok rules → readList (listText rules) = .ok rules := by
  have read_iff (s : String) : readList s = .ok rules ↔
      (∀ rule ∈ rules, rule.Fits) ∧ Tabulates Spells rules s.toList := by
    rw [readList, readChars_eq_readTable, ← tabulates_and_iff]
    exact readTable_eq_ok_iff_tabulates fun rule member => spelled (counted rule member)
  have own (fits : ∀ rule ∈ rules, rule.Fits) : readList (listText rules) = .ok rules := by
    rw [read_iff, listText, String.toList_ofList]
    exact ⟨fits, tabulates_intercalate fun rule member => spells_chars (counted rule member)⟩
  exact ⟨own, read_iff, fun s read => own ((read_iff s).mp read).1⟩

theorem counted_round_trip_cycle :
    readList "0>1:after_3_triggers|1>0:automatic" =
      .ok [⟨0, 1, .afterTriggers 3⟩, ⟨1, 0, .automatic⟩] ∧
    readList " 00 >1: after_003_trigger|\t1>0 : cycle\n" =
      readList "0>1:after_3_triggers|1>0:automatic" := by
  have counted : ∀ rule ∈ [(⟨0, 1, .afterTriggers 3⟩ : TransitionRule), ⟨1, 0, .automatic⟩],
      rule.transition.condition.Counted := by
    intro rule member threshold
    rcases List.mem_pair.mp member with rfl | rfl <;> exact Condition.noConfusion
  have fits : ∀ rule ∈ [(⟨0, 1, .afterTriggers 3⟩ : TransitionRule), ⟨1, 0, .automatic⟩],
      rule.Fits := by
    intro rule member
    rcases List.mem_pair.mp member with rfl | rfl
    · exact ⟨by decide, by decide, (by decide : 3 < wordBound)⟩
    · exact ⟨by decide, by decide, trivial⟩
  have text : listText [⟨0, 1, .afterTriggers 3⟩, ⟨1, 0, .automatic⟩] =
      "0>1:after_3_triggers|1>0:automatic" := by
    decide +kernel
  have ran : (readList " 00 >1: after_003_trigger|\t1>0 : cycle\n").toOption.map id =
      some [⟨0, 1, .afterTriggers 3⟩, ⟨1, 0, .automatic⟩] := by
    decide +kernel
  obtain ⟨rules, read, same⟩ := toOption_map_eq_some.mp ran
  cases (same : rules = _)
  have own := (counted_round_trip counted).1 fits
  have again := (counted_round_trip counted).2.2 _ read
  rw [text] at own again
  exact ⟨own, read.trans again.symm⟩

end Tables

end TransitionRule

end Gremlin
