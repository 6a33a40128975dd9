import Gremlin.Proofs.Effect.Clauses
import Gremlin.Proofs.Move.Reading
import Gremlin.Proofs.Outcome

set_option autoImplicit false

/-!
Moves that were read are read back from their canonical text, whatever blanks are put in at its
ends and beside its separators. Text and moves that were read thus determine each other.
-/

namespace Gremlin

open Gremlin.Text

namespace Move

/-- A move as a reader makes it of the phase with this number. -/
structure Legible (phase : Nat) (move : Move) : Prop where
  index : move.index = phase
  interval : move.interval < wordBound
  triggerLimit : move.triggerLimit = 0
  transition : move.transition = none
  effects : ∀ effect ∈ move.effects, effect.Legible

/-- Moves as a reader makes them of phases counted from this number. -/
def AllLegible (phase : Nat) (moves : List Move) : Prop :=
  ∀ (place : Nat) (move : Move), moves[place]? = some move → move.Legible (phase + place)

/-- The written form of the clause that opens a phase. -/
def openingChars (move : Move) : List Char := "ticks".toList ++ '=' :: decimal move.interval

theorem Legible.eq_mk {phase : Nat} {move : Move} (legible : move.Legible phase) :
    ⟨phase, move.interval, 0, move.effects, none⟩ = move := by
  obtain ⟨index, interval, triggerLimit, effects, transition⟩ := move
  obtain ⟨rfl, -, rfl, rfl, -⟩ := legible
  rfl

section Reading

variable {phase : Nat}

theorem legible_of_readClauses {clauses : List (List Char)} {effects : List Effect}
    (read : Effect.readClauses phase clauses = .ok effects) :
    ∀ effect ∈ effects, effect.Legible := by
  induction clauses generalizing effects with
  | nil =>
    cases read
    intro effect member
    cases member
  | cons clause rest ih =>
    unfold Effect.readClauses at read
    split at read
    · cases read
    · next first here =>
      split at read
      · cases read
      · next others behind =>
        cases read
        have legible : first.Legible := by
          unfold Effect.readClause at here
          split at here
          · next same =>
            cases here
            exact Effect.legible_of_readTrimmed same
          · cases here
        intro effect member
        rcases List.mem_cons.mp member with rfl | member
        · exact legible
        · exact ih behind effect member

theorem interval_of_readInterval {clause : List Char} {interval : Nat}
    (read : readInterval phase clause = .ok interval) : interval < wordBound := by
  unfold readInterval at read
  dsimp only at read
  split at read
  · cases read
  · split at read
    · cases read
    · split at read
      · cases read
      · next number =>
        cases read
        exact of_decide_eq_true (Option.filter_eq_some_iff.mp number).2

theorem legible_of_readPhase {segment : List Char} {move : Move}
    (read : readPhase phase segment = .ok move) : move.Legible phase := by
  unfold readPhase at read
  dsimp only at read
  split at read
  · cases read
  · next opened =>
    split at read
    · cases read
    · next clauses =>
      cases read
      exact ⟨rfl, interval_of_readInterval opened, rfl, rfl, legible_of_readClauses clauses⟩

theorem legible_of_readList {s : String} {moves : List Move} (read : readList s = .ok moves) :
    AllLegible 0 moves := by
  intro place move found
  rw [Nat.zero_add]
  exact forall_of_readList (fun _ _ _ read => legible_of_readPhase read) read found

end Reading

section Writing

variable {phase : Nat} {move : Move}

theorem word_ticks : Word "ticks".toList := by decide

theorem chars_eq_intercalate (move : Move) :
    move.chars = [','].intercalate (move.openingChars :: move.effects.map Effect.chars) := by
  have opening : "ticks=".toList ++ decimal move.interval = move.openingChars := rfl
  unfold chars
  rw [opening]
  generalize move.openingChars = front
  induction move.effects generalizing front with
  | nil => simp [List.intercalate_singleton]
  | cons effect rest ih =>
    rw [List.map_cons, List.intercalate_cons_cons, ← ih effect.chars]
    simp

theorem firm_opening (move : Move) : Firm move.openingChars := by
  have firm := word_ticks.firm.append (word_decimal move.interval).firm ['=']
  rw [List.append_assoc] at firm
  exact firm

theorem not_mem_opening {sep : Char} (cut : isSeparator sep = true) (other : sep ≠ '=') :
    sep ∉ move.openingChars := by
  have key := not_mem_of_word word_ticks cut
  have value := not_mem_of_word (word_decimal move.interval) cut
  unfold openingChars
  rw [List.mem_append, List.mem_cons]
  rintro (member | same | member)
  · exact key member
  · exact other same
  · exact value member

/-- The clauses of a move hold no separator but equals signs. -/
theorem Legible.not_mem_clause (legible : move.Legible phase) {sep : Char}
    (cut : isSeparator sep = true) (other : sep ≠ '=') :
    ∀ clause ∈ move.openingChars :: move.effects.map Effect.chars, sep ∉ clause := by
  intro clause member
  rcases List.mem_cons.mp member with rfl | member
  · exact not_mem_opening cut other
  · obtain ⟨effect, listed, rfl⟩ := List.mem_map.mp member
    exact (legible.effects effect listed).not_mem_chars cut other

theorem Legible.firm (legible : move.Legible phase) : Firm move.chars := by
  rw [chars_eq_intercalate]
  apply firm_intercalate (List.cons_ne_nil _ _)
  intro clause member
  rcases List.mem_cons.mp member with rfl | member
  · exact firm_opening move
  · obtain ⟨effect, listed, rfl⟩ := List.mem_map.mp member
    exact (legible.effects effect listed).firm

theorem Legible.bar_not_mem (legible : move.Legible phase) : '|' ∉ move.chars := by
  rw [chars_eq_intercalate]
  intro member
  rcases mem_intercalate member with same | ⟨clause, listed, member⟩
  · exact absurd same (by decide)
  · exact legible.not_mem_clause rfl (by decide) clause listed member

end Writing

section RoundTrip

variable {phase : Nat}

theorem readInterval_respaced {move : Move} (legible : move.Legible phase) {clause : List Char}
    (spacing : Respaced move.openingChars clause) :
    readInterval phase clause = .ok move.interval := by
  have loose := spacing.trim (firm_opening move)
  obtain ⟨before, after, parts, key, value⟩ :=
    loose.splitFirst_clause word_ticks (word_decimal move.interval)
  unfold readInterval
  simp only [parts, key, value, ne_eq, not_true_eq_false, ↓reduceIte,
    readBelow?_decimal legible.interval]

theorem readClauses_respaced {effects : List Effect}
    (legible : ∀ effect ∈ effects, effect.Legible) {clauses : List (List Char)}
    (spacing : List.Forall₂ Respaced (effects.map Effect.chars) clauses) :
    Effect.readClauses phase clauses = .ok effects := by
  induction effects generalizing clauses with
  | nil =>
    cases spacing
    rfl
  | cons effect rest ih =>
    cases spacing with
    | cons here behind =>
      have first := legible effect List.mem_cons_self
      have read := first.readTrimmed_loosened (here.trim first.firm)
      have others := ih (fun other member => legible other (List.mem_cons_of_mem _ member)) behind
      unfold Effect.readClauses Effect.readClause
      simp only [read, others]

theorem readPhase_respaced {move : Move} (legible : move.Legible phase) {segment : List Char}
    (spacing : Respaced move.chars segment) : readPhase phase segment = .ok move := by
  rw [chars_eq_intercalate] at spacing
  have clauses := spacing.splitOn_intercalate rfl (List.cons_ne_nil _ _)
    (legible.not_mem_clause rfl (by decide))
  unfold readPhase
  generalize segment.splitOn ',' = pieces at clauses
  cases clauses with
  | cons here behind =>
    simp only [List.headD_cons, List.drop_one, List.tail_cons, readInterval_respaced legible here,
      readClauses_respaced legible.effects behind]
    rw [legible.eq_mk]

theorem AllLegible.head {move : Move} {rest : List Move}
    (legible : AllLegible phase (move :: rest)) : move.Legible phase :=
  legible 0 move rfl

theorem AllLegible.tail {move : Move} {rest : List Move}
    (legible : AllLegible phase (move :: rest)) : AllLegible (phase + 1) rest := by
  intro place other found
  rw [Nat.add_assoc, Nat.add_comm 1]
  exact legible (place + 1) other found

theorem AllLegible.exists_phase {moves : List Move} (legible : AllLegible phase moves) {move : Move}
    (member : move ∈ moves) : ∃ number, move.Legible number := by
  obtain ⟨place, found⟩ := List.mem_iff_getElem?.mp member
  exact ⟨phase + place, legible place move found⟩

theorem readPhases_respaced {moves : List Move} (legible : AllLegible phase moves)
    {segments : List (List Char)} (spacing : List.Forall₂ Respaced (moves.map chars) segments) :
    readPhases phase segments = .ok moves := by
  induction moves generalizing phase segments with
  | nil =>
    cases spacing
    rfl
  | cons move rest ih =>
    cases spacing with
    | cons here behind =>
      unfold readPhases
      simp only [readPhase_respaced legible.head here, ih legible.tail behind]

/-- Legible moves are read from every spacing of their text. -/
theorem readChars_respaced {moves : List Move} (legible : AllLegible 0 moves) {spaced : List Char}
    (spacing : Respaced (listChars moves) spaced) : readChars spaced = .ok moves := by
  unfold readChars
  cases moves with
  | nil =>
    have blank : trim spaced = [] := spacing.trim_nil
    simp [blank]
  | cons first rest =>
    have some : (first :: rest).map chars ≠ [] := by simp
    have firm : Firm (listChars (first :: rest)) := by
      apply firm_intercalate some
      intro segment member
      obtain ⟨move, listed, rfl⟩ := List.mem_map.mp member
      obtain ⟨number, move⟩ := legible.exists_phase listed
      exact move.firm
    have bars : ∀ segment ∈ (first :: rest).map chars, '|' ∉ segment := by
      intro segment member
      obtain ⟨move, listed, rfl⟩ := List.mem_map.mp member
      obtain ⟨number, move⟩ := legible.exists_phase listed
      exact move.bar_not_mem
    have loose := spacing.trim firm
    have present : (trim spaced).isEmpty = false := by
      rw [List.isEmpty_eq_false_iff]
      intro none
      exact firm.nonempty (loose.eq_nil_iff.mp none)
    simp only [present, Bool.false_eq_true, ↓reduceIte]
    exact readPhases_respaced legible (loose.respaced.splitOn_intercalate rfl some bars)

theorem readList_respaced {s : String} {moves : List Move} (read : readList s = .ok moves)
    {spaced : String} (spacing : Respaced (listText moves).toList spaced.toList) :
    readList spaced = .ok moves := by
  have written : (listText moves).toList = listChars moves := String.toList_ofList
  rw [written] at spacing
  exact readChars_respaced (legible_of_readList read) spacing

/-- The text of moves that were read is read as these moves. -/
theorem readList_listText {s : String} {moves : List Move} (read : readList s = .ok moves) :
    readList (listText moves) = .ok moves :=
  readList_respaced read (Loosened.refl _).respaced

/-- Moves that were read are read from every spacing of their text, and no other moves that can be
read have that text. A second spelling makes the same effects, and it is not written again. -/
theorem round_trip {s : String} {moves : List Move} (read : readList s = .ok moves) :
    (∀ spaced : String, Respaced (listText moves).toList spaced.toList →
      readList spaced = .ok moves) ∧
    (∀ (other : String) (others : List Move), readList other = .ok others →
      listText others = listText moves → others = moves) ∧
    (readList (listText moves)).map listText = .ok (listText moves) ∧
    ∀ entry ∈ Keyword.aliases,
      (∀ value : Option (List Char), Effect.readTrimmed (Effect.clause entry.1 value) =
        Effect.readTrimmed (Effect.clause entry.2.name value)) ∧
      ∀ move ∈ moves, ∀ effect ∈ move.effects, effect.keyword.name ≠ entry.1 := by
  have fixed := readList_listText read
  refine ⟨fun spaced spacing => readList_respaced read spacing, ?_, ?_, ?_⟩
  · intro other others given same
    have back := readList_listText given
    rw [same, fixed] at back
    cases back
    rfl
  · rw [fixed]
    rfl
  · intro entry listed
    refine ⟨Effect.readTrimmed_alias listed, ?_⟩
    intro move member effect held
    obtain ⟨number, legible⟩ := (legible_of_readList read).exists_phase member
    exact (legible.effects effect held).name_ne_alias listed

theorem round_trip_no_draw :
    readList "\tticks=8,no_card_draw,reflect_increase=12.5% |  ticks=0,summon=random_rat\n" =
      readList " ticks = 08,no_draw,reflect_increase=12.50%|ticks=0,summon=random_rat" := by
  have ran : (readList " ticks = 08,no_draw,reflect_increase=12.50%|ticks=0,summon=random_rat"
      ).toOption.map listText =
        some "ticks=8,no_card_draw,reflect_increase=12.5%|ticks=0,summon=random_rat" := by
    decide +kernel
  obtain ⟨moves, read, text⟩ := toOption_map_eq_some.mp ran
  have loose : Loosened ("ticks=8,no_card_draw,reflect_increase=12.5%".toList ++
      '|' :: "ticks=0,summon=random_rat".toList)
      ("ticks=8,no_card_draw,reflect_increase=12.5%".toList ++
        ([' '] ++ '|' :: ([' ', ' '] ++ "ticks=0,summon=random_rat".toList))) :=
    (Loosened.refl _).append (.separator rfl (by decide) (by decide) (.refl _))
  rw [read]
  apply (round_trip read).1
  rw [text]
  exact ⟨['\t'], _, ['\n'], by decide, by decide, loose, by decide +kernel⟩

end RoundTrip

end Move

end Gremlin
