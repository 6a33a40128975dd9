import Gremlin.Proofs.Effect.Magnitude
import Gremlin.Proofs.Text.Spacing

set_option autoImplicit false

/-!
Effects that were read are read back from their canonical clause, however it is spaced: the words
it is made of have no blank and no separator in them, and every keyword has one name.
-/

namespace Gremlin

open Gremlin.Text Gremlin.Decimal

section Words

theorem word_decimal (n : Nat) : Word (decimal n) where
  nonempty := decimal_ne_nil n
  solid _ member := solid_of_isDigit (isDigit_of_mem_decimal member)

theorem word_positional {digits : List Char} (word : Word digits) (exponent : Int) :
    Word (positional digits exponent) := by
  have zero : isSolid '0' = true := by decide
  have point : isSolid '.' = true := by decide
  have zeros : ∀ count, ∀ c ∈ List.replicate count '0', isSolid c = true := by
    intro count c member
    rw [List.eq_of_mem_replicate member]
    exact zero
  have solid := word.solid
  unfold positional
  dsimp only
  split
  · refine ⟨by simp [word.nonempty], ?_⟩
    simp only [List.forall_mem_append]
    exact ⟨solid, zeros _⟩
  · split
    · refine ⟨List.cons_ne_nil _ _, ?_⟩
      simp only [List.forall_mem_cons, List.forall_mem_append]
      exact ⟨zero, point, zeros _, solid⟩
    · refine ⟨by simp, ?_⟩
      simp only [List.forall_mem_append, List.forall_mem_cons]
      exact ⟨fun c member => solid c (List.mem_of_mem_take member), point,
        fun c member => solid c (List.mem_of_mem_drop member)⟩

theorem word_plain (d : Digits) : Word d.plain := by
  unfold Digits.plain
  split
  · decide
  · exact word_positional (word_decimal d.digits) d.exponent

theorem word_of_isIdentifier {cs : List Char} (given : isIdentifier cs = true) : Word cs := by
  cases cs with
  | nil => cases given
  | cons c rest =>
    obtain ⟨first, behind⟩ := Bool.and_eq_true_iff.mp given
    refine ⟨List.cons_ne_nil _ _, ?_⟩
    rw [List.forall_mem_cons]
    refine ⟨solid_of_isLower first, ?_⟩
    intro d member
    have later := List.all_eq_true.mp behind d member
    simp only [continuesIdentifier, Bool.or_eq_true, decide_eq_true_eq] at later
    rcases later with (lower | digit) | rfl
    · exact solid_of_isLower lower
    · exact solid_of_isDigit digit
    · decide

theorem word_name {keyword : Keyword} (member : keyword ∈ Keyword.all) :
    Word keyword.name.toList := by
  have all : ∀ k ∈ Keyword.all, Word k.name.toList := by decide +kernel
  exact all keyword member

end Words

theorem Keyword.mem_all_of_ofChars? {cs : List Char} {keyword : Keyword}
    (found : Keyword.ofChars? cs = some keyword) : keyword ∈ Keyword.all := by
  unfold Keyword.ofChars? at found
  split at found
  · next named =>
    cases found
    exact List.mem_of_find?_eq_some named
  · obtain ⟨entry, listed, rfl⟩ := Option.map_eq_some_iff.mp found
    have all : ∀ entry ∈ Keyword.aliases, entry.2 ∈ Keyword.all := by decide
    exact all entry (List.mem_of_find?_eq_some listed)

namespace SummonSpec

/-- What was read as a name is not written as a size. -/
theorem read?_chars {cs : List Char} {spec : SummonSpec} (read : read? cs = some spec) :
    read? spec.chars = some spec ∧ Word spec.chars := by
  have original := read
  unfold read? at read
  split at read
  · next size _ =>
    cases read
    have dropped : dropStart? "random_".toList ("random_".toList ++ size.name.toList) =
        some size.name.toList := dropStart?_eq_some.mpr rfl
    constructor
    · unfold read? chars
      rw [dropped, Option.bind_some, Size.ofChars?_name]
    · cases size <;> decide
  · split at read
    · next identifier =>
      cases read
      have same : (named (String.ofList cs)).chars = cs := String.toList_ofList
      rw [same]
      exact ⟨original, word_of_isIdentifier identifier⟩
    · cases read

end SummonSpec

namespace Magnitude

theorem readAmount?_percent (cs : List Char) : readAmount? (cs ++ ['%']) = none := by
  have percent : (cs ++ ['%']).all Char.isDigit = false := by
    rw [List.all_append]
    simp [show Char.isDigit '%' = false from rfl]
  unfold readAmount? readBelow? readDecimal?
  simp [percent]

theorem read?_chars {cs : List Char} {magnitude : Magnitude} (read : read? cs = some magnitude) :
    read? magnitude.chars = some magnitude ∧ Word magnitude.chars := by
  unfold read? at read
  split at read
  · next n number =>
    cases read
    refine ⟨?_, word_decimal n⟩
    unfold read? chars
    rw [readAmount?_decimal number]
  · obtain ⟨points, percent, rfl⟩ := Option.map_eq_some_iff.mp read
    obtain ⟨d, written, -⟩ := exists_digits_of_readPercent? percent
    have word := word_plain d
    constructor
    · unfold read? chars
      rw [readAmount?_percent, readPercent?_plain percent]
      rfl
    · refine ⟨by simp [chars], ?_⟩
      change ∀ c ∈ Decimal.plain points ++ ['%'], isSolid c = true
      rw [written]
      simp only [List.forall_mem_append, List.forall_mem_singleton]
      exact ⟨word.solid, by decide⟩

end Magnitude

namespace ValueShape

variable {value : Option (List Char)} {result : Effect}

/-- A flag is read from its bare keyword. -/
theorem eq_of_read_flag {effect : Effect} (read : (flag effect).read value = .ok result) :
    effect = result ∧ (flag effect).read none = .ok result := by
  cases value with
  | none =>
    cases read
    exact ⟨rfl, rfl⟩
  | some cs => cases read

theorem read_amount_eq_ok {effect : Nat → Effect} :
    (amount effect).read value = .ok result ↔
      ∃ cs, value = some cs ∧ ∃ n, Magnitude.readAmount? cs = some n ∧ effect n = result := by
  cases value with
  | none => simp [ValueShape.read]
  | some cs => cases given : Magnitude.readAmount? cs <;> simp [ValueShape.read, given]

theorem read_magnitude_eq_ok {effect : Magnitude → Effect} :
    (magnitude effect).read value = .ok result ↔
      ∃ cs, value = some cs ∧ ∃ m, Magnitude.read? cs = some m ∧ effect m = result := by
  cases value with
  | none => simp [ValueShape.read]
  | some cs => cases given : Magnitude.read? cs <;> simp [ValueShape.read, given]

theorem read_spec_eq_ok {effect : SummonSpec → Effect} :
    (spec effect).read value = .ok result ↔
      ∃ cs, value = some cs ∧ ∃ s, SummonSpec.read? cs = some s ∧ effect s = result := by
  cases value with
  | none => simp [ValueShape.read]
  | some cs => cases given : SummonSpec.read? cs <;> simp [ValueShape.read, given]

end ValueShape

/-- An effect whose canonical clause reads back to it. -/
structure Effect.Legible (effect : Effect) : Prop where
  keyword : effect.keyword ∈ Keyword.all
  value : effect.keyword.shape.read effect.valueChars? = .ok effect
  word : ∀ cs ∈ effect.valueChars?, Word cs

/-- What a keyword makes of a value is written with the keyword and reads back. -/
theorem Keyword.legible_of_read {keyword : Keyword} (member : keyword ∈ Keyword.all)
    {value : Option (List Char)} {effect : Effect}
    (read : keyword.shape.read value = .ok effect) : effect.Legible := by
  cases keyword with
  | drain _ | decay _ | hardCap _ | softCap _ | totalCap | gainArmor _ | gainShields _
  | amplifyDrains | forceDiscard | raiseCardCost | limitHand =>
    obtain ⟨cs, -, n, given, rfl⟩ := ValueShape.read_amount_eq_ok.mp read
    have again := Magnitude.readAmount?_decimal given
    refine ⟨member, ValueShape.read_amount_eq_ok.mpr ⟨_, rfl, n, again, rfl⟩, ?_⟩
    rintro _ ⟨⟩
    exact word_decimal n
  | raiseReflect =>
    obtain ⟨cs, -, m, given, rfl⟩ := ValueShape.read_magnitude_eq_ok.mp read
    obtain ⟨again, word⟩ := Magnitude.read?_chars given
    refine ⟨member, ValueShape.read_magnitude_eq_ok.mpr ⟨_, rfl, m, again, rfl⟩, ?_⟩
    rintro _ ⟨⟩
    exact word
  | summon =>
    obtain ⟨cs, -, s, given, rfl⟩ := ValueShape.read_spec_eq_ok.mp read
    obtain ⟨again, word⟩ := SummonSpec.read?_chars given
    refine ⟨member, ValueShape.read_spec_eq_ok.mpr ⟨_, rfl, s, again, rfl⟩, ?_⟩
    rintro _ ⟨⟩
    exact word
  | lockDraw | shuffleHand | copyLastCard | removeConstraints | reinstateConstraints =>
    obtain ⟨rfl, again⟩ := ValueShape.eq_of_read_flag read
    refine ⟨member, again, ?_⟩
    rintro _ ⟨⟩

namespace Effect

/-- A keyword's text and the value written for it. -/
def clause (key : String) (value : Option (List Char)) : List Char :=
  key.toList ++
    match value with
    | some cs => '=' :: cs
    | none => []

theorem chars_eq_clause (effect : Effect) :
    effect.chars = clause effect.keyword.name effect.valueChars? := rfl

theorem legible_of_readTrimmed {cs : List Char} {effect : Effect}
    (read : readTrimmed cs = .ok effect) : effect.Legible := by
  unfold readTrimmed at read
  dsimp only at read
  split at read
  · cases read
  · split at read
    · cases read
    · next keyword found =>
      exact Keyword.legible_of_read (Keyword.mem_all_of_ofChars? found) read

theorem readTrimmed_of_keyAndValue {keyword : Keyword} (member : keyword ∈ Keyword.all)
    {cs : List Char} {value : Option (List Char)} (word : ∀ given ∈ value, Word given)
    (parts : keyAndValue cs = (keyword.name.toList, value)) :
    readTrimmed cs = keyword.shape.read value := by
  have key : keyword.name.toList.isEmpty = false :=
    List.isEmpty_eq_false_iff.mpr (word_name member).nonempty
  have given : value.any (·.isEmpty) = false := by
    cases value with
    | none => rfl
    | some cs => exact List.isEmpty_eq_false_iff.mpr (word cs rfl).nonempty
  unfold readTrimmed
  simp only [parts, key, given, Bool.or_self, Bool.false_eq_true, ↓reduceIte,
    Keyword.ofChars?_name keyword member]

/-- A clause that is spaced differently reads as the effect it was written for. -/
theorem Legible.readTrimmed_loosened {effect : Effect} (legible : effect.Legible)
    {spaced : List Char} (loose : Loosened effect.chars spaced) :
    readTrimmed spaced = .ok effect := by
  have name := word_name legible.keyword
  have word := legible.word
  have value := legible.value
  rw [chars_eq_clause] at loose
  cases shown : effect.valueChars? with
  | none =>
    rw [shown] at loose value word
    have plain : ∀ c ∈ clause effect.keyword.name none, isSeparator c = false := by
      intro c member
      rw [clause, List.append_nil] at member
      exact not_separator_of_solid (name.solid c member)
    have same := loose.of_plain plain
    rw [clause, List.append_nil] at same
    have whole : keyAndValue spaced = (effect.keyword.name.toList, none) := by
      unfold keyAndValue
      rw [same, splitFirst_of_not_mem (not_mem_of_word name rfl)]
    rw [readTrimmed_of_keyAndValue legible.keyword word whole, value]
  | some cs =>
    rw [shown] at loose value word
    obtain ⟨before, after, parts, key, rest⟩ := loose.splitFirst_clause name (word cs rfl)
    have whole : keyAndValue spaced = (effect.keyword.name.toList, some cs) := by
      unfold keyAndValue
      rw [parts]
      simp only [key, rest]
    rw [readTrimmed_of_keyAndValue legible.keyword word whole, value]

theorem Legible.firm {effect : Effect} (legible : effect.Legible) : Firm effect.chars := by
  have name := (word_name legible.keyword).firm
  have word := legible.word
  rw [chars_eq_clause]
  cases shown : effect.valueChars? with
  | none =>
    rw [clause, List.append_nil]
    exact name
  | some cs =>
    rw [shown] at word
    have joined := name.append (word cs rfl).firm ['=']
    rw [List.append_assoc] at joined
    exact joined

/-- The only separators of a clause are equals signs. -/
theorem Legible.not_mem_chars {effect : Effect} (legible : effect.Legible) {sep : Char}
    (cut : isSeparator sep = true) (other : sep ≠ '=') : sep ∉ effect.chars := by
  have name := not_mem_of_word (word_name legible.keyword) cut
  have word := legible.word
  rw [chars_eq_clause]
  cases shown : effect.valueChars? with
  | none =>
    rw [clause, List.append_nil]
    exact name
  | some cs =>
    rw [shown] at word
    have value := not_mem_of_word (word cs rfl) cut
    simp [clause, name, other, value]

theorem readTrimmed_clause {key : String} {keyword : Keyword} (word : Word key.toList)
    (found : Keyword.ofChars? key.toList = some keyword) (value : Option (List Char)) :
    readTrimmed (clause key value) =
      if (value.map trim).any (·.isEmpty) then .error .malformedClause
      else keyword.shape.read (value.map trim) := by
  have present : key.toList.isEmpty = false := List.isEmpty_eq_false_iff.mpr word.nonempty
  have absent : '=' ∉ key.toList := not_mem_of_word word rfl
  have parts : keyAndValue (clause key value) = (key.toList, value.map trim) := by
    unfold keyAndValue clause
    cases value with
    | none =>
      rw [List.append_nil, splitFirst_of_not_mem absent]
      rfl
    | some cs =>
      have bare : trim ([] ++ key.toList ++ []) = key.toList :=
        trim_word word blanks_nil blanks_nil
      rw [List.nil_append, List.append_nil] at bare
      rw [splitFirst_append absent]
      simp only [bare, Option.map_some]
  unfold readTrimmed
  simp only [parts, present, Bool.false_or, found]

theorem spelling_of_alias {entry : String × Keyword} (listed : entry ∈ Keyword.aliases) :
    Keyword.ofChars? entry.1.toList = some entry.2 ∧ entry.2 ∈ Keyword.all ∧
      Word entry.1.toList ∧ entry.2.name ≠ entry.1 := by
  have spellings : ∀ entry ∈ Keyword.aliases, Keyword.ofChars? entry.1.toList = some entry.2 ∧
      entry.2 ∈ Keyword.all ∧ Word entry.1.toList ∧ entry.2.name ≠ entry.1 := by
    decide +kernel
  exact spellings entry listed

/-- A second spelling of a keyword makes the same effects and the same faults. -/
theorem readTrimmed_alias {entry : String × Keyword} (listed : entry ∈ Keyword.aliases)
    (value : Option (List Char)) :
    readTrimmed (clause entry.1 value) = readTrimmed (clause entry.2.name value) := by
  obtain ⟨found, member, word, -⟩ := spelling_of_alias listed
  rw [readTrimmed_clause word found,
    readTrimmed_clause (word_name member) (Keyword.ofChars?_name entry.2 member)]

/-- No effect is written with a second spelling: it would be that of another name. -/
theorem Legible.name_ne_alias {effect : Effect} (legible : effect.Legible)
    {entry : String × Keyword} (listed : entry ∈ Keyword.aliases) :
    effect.keyword.name ≠ entry.1 := by
  obtain ⟨found, -, -, other⟩ := spelling_of_alias listed
  intro same
  have own := Keyword.ofChars?_name effect.keyword legible.keyword
  rw [same, found, Option.some.injEq] at own
  rw [own] at other
  exact other same

end Effect

end Gremlin
