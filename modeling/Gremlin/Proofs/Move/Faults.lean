import Gremlin.Proofs.Move.Reading
import Gremlin.Proofs.Outcome
import Gremlin.Proofs.Text.Numerals
import Gremlin.Proofs.Text.Spacing

set_option autoImplicit false

/-!
Faulty texts are blamed at their first fault. Moves are read if every segment is read on its own.
Otherwise the first segment that is not read is named, and in it the opening clause if that gives
no interval, or else the first effect that is rejected.
-/

namespace Gremlin

open Gremlin.Text

namespace Text

theorem readBelow?_eq_some_iff {bound n : Nat} {cs : List Char} :
    readBelow? bound cs = some n ↔
      cs ≠ [] ∧ (∀ c ∈ cs, c.isDigit = true) ∧ Nat.ofDigitChars 10 cs 0 = n ∧ n < bound := by
  rw [readBelow?_eq_some_iff_written]
  constructor
  · rintro ⟨small, written⟩
    exact ⟨written.ne_nil, written.isDigit, written.value, small⟩
  · rintro ⟨given, digits, rfl, small⟩
    exact ⟨small, written_ofDigitChars given digits⟩

end Text

namespace Effect

variable {phase : Nat} {clauses : List (List Char)}

theorem readClause_eq_ok_iff {clause : List Char} {effect : Effect} :
    readClause phase clause = .ok effect ↔ readTrimmed (trim clause) = .ok effect := by
  unfold readClause
  cases readTrimmed (trim clause) with
  | ok _ => exact ⟨fun same => congrArg Except.ok (Except.ok.inj same),
      fun same => congrArg Except.ok (Except.ok.inj same)⟩
  | error _ => exact iff_of_false (fun failed => nomatch failed) fun failed => nomatch failed

/-- A rejected clause is named by its phase and its trimmed text. -/
theorem located_of_readClause {clause : List Char} {e : ReadError}
    (rejected : readClause phase clause = .error e) :
    e.phase = phase ∧ e.token = String.ofList (trim clause) := by
  unfold readClause at rejected
  split at rejected
  · cases rejected
  · cases rejected
    exact ⟨rfl, rfl⟩

/-- The first of the clauses that is rejected, with its own fault. -/
def FirstRejected (phase : Nat) (clauses : List (List Char)) (e : ReadError) : Prop :=
  ∃ before clause after, clauses = before ++ clause :: after ∧
    (∀ other ∈ before, ∃ effect, readClause phase other = .ok effect) ∧
    readClause phase clause = .error e ∧
    e.phase = phase ∧ e.token = String.ofList (trim clause)

theorem readClauses_eq_mapM : readClauses phase clauses = clauses.mapM (readClause phase) := by
  induction clauses with
  | nil => rfl
  | cons clause rest ih =>
    rw [List.mapM_cons, readClauses, ← ih]
    cases readClause phase clause with
    | error _ => rfl
    | ok effect => cases readClauses phase rest <;> rfl

theorem readClauses_eq_ok_iff {effects : List Effect} :
    readClauses phase clauses = .ok effects ↔
      List.Forall₂ (fun clause effect => readTrimmed (trim clause) = .ok effect) clauses
        effects := by
  rw [readClauses_eq_mapM, mapM_eq_ok_iff]
  simp only [readClause_eq_ok_iff]

theorem exists_readClauses_iff : (∃ effects, readClauses phase clauses = .ok effects) ↔
    ∀ clause ∈ clauses, ∃ effect, readClause phase clause = .ok effect := by
  rw [readClauses_eq_mapM]
  exact exists_mapM_eq_ok_iff

theorem readClauses_eq_error_iff {e : ReadError} :
    readClauses phase clauses = .error e ↔ FirstRejected phase clauses e := by
  rw [readClauses_eq_mapM, mapM_eq_error_iff]
  constructor
  · rintro ⟨before, clause, after, parts, accepted, rejected⟩
    exact ⟨before, clause, after, parts, accepted, rejected, located_of_readClause rejected⟩
  · rintro ⟨before, clause, after, parts, accepted, rejected, -⟩
    exact ⟨before, clause, after, parts, accepted, rejected⟩

/-- A list of effects is read if it is blank or each clause is read on its own. -/
theorem exists_readList_iff {cs : List Char} : (∃ effects, readList phase cs = .ok effects) ↔
    trim cs = [] ∨ ∀ clause ∈ cs.splitOn ',', ∃ effect, readClause phase clause = .ok effect := by
  unfold readList
  by_cases blank : trim cs = []
  · rw [blank]
    exact iff_of_true ⟨[], rfl⟩ (.inl rfl)
  · rw [if_neg (List.isEmpty_iff.not.mpr blank), exists_readClauses_iff, or_iff_right blank]

/-- Otherwise the first rejected clause is reported. -/
theorem readList_eq_error_iff {cs : List Char} {e : ReadError} :
    readList phase cs = .error e ↔ trim cs ≠ [] ∧ FirstRejected phase (cs.splitOn ',') e := by
  unfold readList
  by_cases blank : trim cs = []
  · rw [blank]
    exact iff_of_false (fun failed => nomatch failed) fun fault => fault.1 rfl
  · rw [if_neg (List.isEmpty_iff.not.mpr blank), readClauses_eq_error_iff, and_iff_right blank]

end Effect

namespace Move

section Opening

variable {phase interval : Nat} {clause key value : List Char} {e : ReadError}

/-- A clause with the key `ticks`, whatever its value. -/
def Keyed (clause : List Char) : Prop :=
  ∃ key value, clause = key ++ '=' :: value ∧ trim key = "ticks".toList

/-- A clause that gives an interval: the key `ticks`, and ASCII digits for a number of 32 bits. -/
def Opens (clause : List Char) (interval : Nat) : Prop :=
  ∃ key value, clause = key ++ '=' :: value ∧ trim key = "ticks".toList ∧ trim value ≠ [] ∧
    (∀ c ∈ trim value, c.isDigit = true) ∧ Nat.ofDigitChars 10 (trim value) 0 = interval ∧
    interval < wordBound

/-- The key ends at the first equals sign: there is none in it. -/
theorem splitFirst_keyed (ticks : trim key = "ticks".toList) :
    splitFirst '=' (key ++ '=' :: value) = some (key, value) := by
  apply splitFirst_append
  intro member
  obtain ⟨front, back, rfl⟩ := List.append_of_mem member
  rw [trim_append_cons rfl] at ticks
  have inside : '=' ∈ "ticks".toList := ticks ▸ List.mem_append_right _ List.mem_cons_self
  exact absurd inside (by decide)

theorem readInterval_keyed (ticks : trim key = "ticks".toList) :
    readInterval phase (key ++ '=' :: value) =
      (readBelow? wordBound (trim value)).elim
        (.error ⟨.invalidMagnitude, phase, String.ofList (trim (key ++ '=' :: value))⟩) .ok := by
  have solid : isBlank '=' = false := rfl
  unfold readInterval
  simp only [splitFirst_trim solid, splitFirst_keyed ticks, Option.map_some,
    trim_trimStart, trim_trimEnd, ticks, ne_eq, not_true_eq_false, ↓reduceIte]
  cases readBelow? wordBound (trim value) <;> rfl

theorem readInterval_of_not_keyed (other : ¬ Keyed clause) :
    readInterval phase clause = .error ⟨.missingTicks, phase, String.ofList (trim clause)⟩ := by
  have solid : isBlank '=' = false := rfl
  unfold readInterval
  simp only [splitFirst_trim solid]
  cases found : splitFirst '=' clause with
  | none => rfl
  | some parts =>
    have unlike : trim parts.1 ≠ "ticks".toList := fun ticks =>
      other ⟨parts.1, parts.2, (splitFirst_eq_some_iff.mp found).1, ticks⟩
    simp only [Option.map_some, trim_trimStart, ne_eq, unlike, not_false_eq_true, ↓reduceIte]

theorem readInterval_eq_ok_iff :
    readInterval phase clause = .ok interval ↔ Opens clause interval := by
  constructor
  · intro read
    by_cases keyed : Keyed clause
    · obtain ⟨key, value, rfl, ticks⟩ := keyed
      rw [readInterval_keyed ticks] at read
      cases number : readBelow? wordBound (trim value) with
      | none =>
        rw [number] at read
        cases read
      | some n =>
        rw [number] at read
        cases read
        exact ⟨key, value, rfl, ticks, readBelow?_eq_some_iff.mp number⟩
    · rw [readInterval_of_not_keyed keyed] at read
      cases read
  · rintro ⟨key, value, rfl, ticks, number⟩
    rw [readInterval_keyed ticks, readBelow?_eq_some_iff.mpr number]
    rfl

/-- The fault of an opening clause that gives no interval: its value is blamed if it has the
key. -/
structure Shut (phase : Nat) (clause : List Char) (e : ReadError) : Prop where
  closed : ∀ interval, ¬ Opens clause interval
  cause : Keyed clause ∧ e.cause = .invalidMagnitude ∨ ¬ Keyed clause ∧ e.cause = .missingTicks
  place : e.phase = phase
  token : e.token = String.ofList (trim clause)

theorem shut_of_readInterval (failed : readInterval phase clause = .error e) :
    Shut phase clause e := by
  have closed : ∀ interval, ¬ Opens clause interval := by
    intro interval opens
    rw [readInterval_eq_ok_iff.mpr opens] at failed
    cases failed
  by_cases keyed : Keyed clause
  · obtain ⟨key, value, rfl, ticks⟩ := keyed
    rw [readInterval_keyed ticks] at failed
    cases number : readBelow? wordBound (trim value) with
    | some n =>
      rw [number] at failed
      cases failed
    | none =>
      rw [number] at failed
      cases failed
      exact ⟨closed, .inl ⟨⟨key, value, rfl, ticks⟩, rfl⟩, rfl, rfl⟩
  · rw [readInterval_of_not_keyed keyed] at failed
    cases failed
    exact ⟨closed, .inr ⟨keyed, rfl⟩, rfl, rfl⟩

theorem Shut.unique {e' : ReadError} (shut : Shut phase clause e) (shut' : Shut phase clause e') :
    e = e' := by
  have same : e.cause = e'.cause := by
    rcases shut.cause with ⟨keyed, cause⟩ | ⟨other, cause⟩ <;>
      rcases shut'.cause with ⟨keyed', cause'⟩ | ⟨other', cause'⟩
    · rw [cause, cause']
    · exact absurd keyed other'
    · exact absurd keyed' other
    · rw [cause, cause']
  have place := shut.place.trans shut'.place.symm
  have token := shut.token.trans shut'.token.symm
  obtain ⟨cause, number, text⟩ := e
  obtain ⟨cause', number', text'⟩ := e'
  cases same
  cases place
  cases token
  rfl

theorem readInterval_eq_error_iff :
    readInterval phase clause = .error e ↔ Shut phase clause e := by
  refine ⟨shut_of_readInterval, ?_⟩
  intro shut
  cases read : readInterval phase clause with
  | ok interval => exact absurd (readInterval_eq_ok_iff.mp read) (shut.closed interval)
  | error e' => rw [shut.unique (shut_of_readInterval read)]

end Opening

section Phases

variable {phase : Nat} {segment : List Char} {move : Move} {e : ReadError}

/-- A segment that is read as a phase by itself. -/
def ReadsAlone (segment : List Char) : Prop := ∃ move, readPhase 0 segment = .ok move

/-- The first clause of a segment that is at fault: the opening clause if it gives no interval,
and else the first later clause that is rejected. -/
inductive FirstFault (phase : Nat) (segment : List Char) (e : ReadError) : Prop where
  | opening {first : List Char} {rest : List (List Char)}
      (clauses : segment.splitOn ',' = first :: rest) (shut : Shut phase first e)
  | effect {first : List Char} {rest : List (List Char)}
      (clauses : segment.splitOn ',' = first :: rest) (opened : ∃ interval, Opens first interval)
      (rejected : Effect.FirstRejected phase rest e)

theorem FirstFault.place (fault : FirstFault phase segment e) : e.phase = phase := by
  cases fault with
  | opening _ shut => exact shut.place
  | effect _ _ rejected =>
    obtain ⟨before, clause, after, -, -, -, place, -⟩ := rejected
    exact place

theorem readPhase_of_splitOn {first : List Char} {rest : List (List Char)}
    (clauses : segment.splitOn ',' = first :: rest) :
    readPhase phase segment = readInterval phase first >>= fun interval =>
      Effect.readClauses phase rest >>= fun effects =>
        .ok ⟨phase, interval, 0, effects, none⟩ := by
  unfold readPhase
  simp only [clauses, List.headD_cons, List.drop_one, List.tail_cons]
  cases readInterval phase first with
  | error _ => rfl
  | ok interval => cases Effect.readClauses phase rest <;> rfl

theorem readPhase_eq_ok_iff {first : List Char} {rest : List (List Char)}
    (clauses : segment.splitOn ',' = first :: rest) :
    readPhase phase segment = .ok move ↔
      ∃ interval effects, Opens first interval ∧
        List.Forall₂ (fun clause effect => Effect.readTrimmed (trim clause) = .ok effect) rest
          effects ∧
        move = ⟨phase, interval, 0, effects, none⟩ := by
  simp only [← @readInterval_eq_ok_iff phase, ← @Effect.readClauses_eq_ok_iff phase]
  rw [readPhase_of_splitOn clauses]
  constructor
  · intro read
    obtain ⟨interval, opened, read⟩ := bind_eq_ok.mp read
    obtain ⟨effects, behind, same⟩ := bind_eq_ok.mp read
    exact ⟨interval, effects, opened, behind, (Except.ok.inj same).symm⟩
  · rintro ⟨interval, effects, opened, behind, rfl⟩
    exact bind_eq_ok.mpr ⟨interval, opened, bind_eq_ok.mpr ⟨effects, behind, rfl⟩⟩

/-- What is read of a segment does not depend on its number. -/
theorem readPhase_eq_ok_iff_alone : readPhase phase segment = .ok move ↔
    move.index = phase ∧ readPhase 0 segment = .ok { move with index := 0 } := by
  obtain ⟨first, rest, clauses⟩ := List.exists_cons_of_ne_nil (List.splitOn_ne_nil ',' segment)
  rw [readPhase_eq_ok_iff clauses, readPhase_eq_ok_iff clauses]
  constructor
  · rintro ⟨interval, effects, opened, behind, rfl⟩
    exact ⟨rfl, interval, effects, opened, behind, rfl⟩
  · rintro ⟨rfl, interval, effects, opened, behind, same⟩
    obtain ⟨index, interval', triggerLimit, effects', transition⟩ := move
    cases same
    exact ⟨interval', effects', opened, behind, rfl⟩

theorem readsAlone_iff : ReadsAlone segment ↔ ∃ move, readPhase phase segment = .ok move := by
  constructor
  · rintro ⟨move, read⟩
    refine ⟨{ move with index := phase }, readPhase_eq_ok_iff_alone.mpr ⟨rfl, ?_⟩⟩
    exact (readPhase_eq_ok_iff_alone.mp read).2
  · rintro ⟨move, read⟩
    exact ⟨_, (readPhase_eq_ok_iff_alone.mp read).2⟩

theorem readPhase_eq_error_iff :
    readPhase phase segment = .error e ↔ FirstFault phase segment e := by
  constructor
  · intro failed
    obtain ⟨first, rest, clauses⟩ := List.exists_cons_of_ne_nil (List.splitOn_ne_nil ',' segment)
    rw [readPhase_of_splitOn clauses] at failed
    obtain shut | ⟨interval, opened, failed⟩ := bind_eq_error.mp failed
    · exact .opening clauses (readInterval_eq_error_iff.mp shut)
    obtain rejected | ⟨_, _, failed⟩ := bind_eq_error.mp failed
    · exact .effect clauses ⟨interval, readInterval_eq_ok_iff.mp opened⟩
        (Effect.readClauses_eq_error_iff.mp rejected)
    · cases failed
  · intro fault
    cases fault with
    | opening clauses shut =>
      rw [readPhase_of_splitOn clauses]
      exact bind_eq_error.mpr (.inl (readInterval_eq_error_iff.mpr shut))
    | effect clauses opened rejected =>
      obtain ⟨interval, opened⟩ := opened
      rw [readPhase_of_splitOn clauses]
      exact bind_eq_error.mpr (.inr ⟨interval, readInterval_eq_ok_iff.mpr opened,
        bind_eq_error.mpr (.inl (Effect.readClauses_eq_error_iff.mpr rejected))⟩)

theorem FirstFault.not_readsAlone (fault : FirstFault phase segment e) : ¬ ReadsAlone segment := by
  intro alone
  obtain ⟨move, read⟩ := readsAlone_iff.mp alone
  rw [readPhase_eq_error_iff.mpr fault] at read
  cases read

theorem readPhases_eq_mapM {segments : List (List Char)} :
    readPhases phase segments =
      (segments.zipIdx phase).mapM fun numbered => readPhase numbered.2 numbered.1 := by
  apply eq_mapM_zipIdx
  · exact fun _ => rfl
  · intro place segment rest
    rw [readPhases]
    cases readPhase place segment with
    | error _ => rfl
    | ok move => cases readPhases (place + 1) rest <;> rfl

theorem exists_readPhases_iff {segments : List (List Char)} :
    (∃ moves, readPhases phase segments = .ok moves) ↔
      ∀ segment ∈ segments, ReadsAlone segment := by
  rw [readPhases_eq_mapM, exists_mapM_eq_ok_iff]
  conv_rhs => rw [← List.zipIdx_map_fst phase segments]
  rw [List.forall_mem_map]
  apply forall₂_congr
  intro numbered _
  exact readsAlone_iff.symm

/-- One move is made of each segment, in order. -/
theorem moves_of_readPhases {segments : List (List Char)} {moves : List Move}
    (read : readPhases phase segments = .ok moves) :
    moves.length = segments.length ∧ ∀ (place : Nat) (move : Move), moves[place]? = some move →
      ∃ segment, segments[place]? = some segment ∧
        readPhase (phase + place) segment = .ok move := by
  rw [readPhases_eq_mapM, mapM_eq_ok_iff, List.forall₂_iff_get] at read
  obtain ⟨same, each⟩ := read
  rw [List.length_zipIdx] at same
  refine ⟨same.symm, ?_⟩
  intro place move found
  obtain ⟨inside, rfl⟩ := List.getElem?_eq_some_iff.mp found
  have here := each place (by rw [List.length_zipIdx, same]; exact inside) inside
  rw [List.get_eq_getElem, List.get_eq_getElem, List.getElem_zipIdx] at here
  exact ⟨_, List.getElem?_eq_getElem (same ▸ inside), here⟩

/-- The first segment that is not read is blamed, for its first fault. -/
theorem readPhases_eq_error_iff {segments : List (List Char)} :
    readPhases phase segments = .error e ↔
      ∃ before segment after, segments = before ++ segment :: after ∧
        (∀ other ∈ before, ReadsAlone other) ∧
        FirstFault (phase + before.length) segment e := by
  rw [readPhases_eq_mapM, mapM_zipIdx_eq_error_iff]
  simp only [← readPhases_eq_mapM, exists_readPhases_iff, readPhase_eq_error_iff]

end Phases

section Texts

variable {cs : List Char} {e : ReadError}

theorem readChars_of_blank (blank : trim cs = []) : readChars cs = .ok [] := by
  unfold readChars
  rw [blank]
  rfl

theorem readChars_of_not_blank (given : trim cs ≠ []) :
    readChars cs = readPhases 0 ((trim cs).splitOn '|') := by
  unfold readChars
  rw [if_neg (List.isEmpty_iff.not.mpr given)]

theorem exists_readChars_iff : (∃ moves, readChars cs = .ok moves) ↔
    trim cs = [] ∨ ∀ segment ∈ (trim cs).splitOn '|', ReadsAlone segment := by
  by_cases blank : trim cs = []
  · exact iff_of_true ⟨[], readChars_of_blank blank⟩ (.inl blank)
  · rw [readChars_of_not_blank blank, exists_readPhases_iff, or_iff_right blank]

theorem readChars_eq_error_iff : readChars cs = .error e ↔
    trim cs ≠ [] ∧ ∃ before segment after, (trim cs).splitOn '|' = before ++ segment :: after ∧
      (∀ other ∈ before, ReadsAlone other) ∧ FirstFault before.length segment e := by
  by_cases blank : trim cs = []
  · rw [readChars_of_blank blank]
    exact iff_of_false (fun failed => nomatch failed) fun fault => fault.1 blank
  · rw [readChars_of_not_blank blank, readPhases_eq_error_iff, and_iff_right blank]
    simp only [Nat.zero_add]

/-- Moves are read if the text is blank or every segment is read on its own, and then one move is
made of each segment, numbered by its place. Otherwise the fault names the place of the first
segment that is not read, and the trimmed text of the first clause at fault in it. In a list of
effects it is the first rejected clause as well. -/
theorem first_fault_located (s : String) :
    ((∃ moves, readList s = .ok moves) ↔
      trim s.toList = [] ∨ ∀ segment ∈ (trim s.toList).splitOn '|', ReadsAlone segment) ∧
    (trim s.toList = [] → readList s = .ok []) ∧
    (∀ moves, trim s.toList ≠ [] → readList s = .ok moves →
      moves.length = ((trim s.toList).splitOn '|').length ∧
      ∀ (place : Nat) (move : Move), moves[place]? = some move → move.index = place ∧
        ∃ segment, ((trim s.toList).splitOn '|')[place]? = some segment ∧
          readPhase 0 segment = .ok { move with index := 0 }) ∧
    (∀ e, readList s = .error e ↔ trim s.toList ≠ [] ∧
      ∃ before segment after, (trim s.toList).splitOn '|' = before ++ segment :: after ∧
        (∀ other ∈ before, ReadsAlone other) ∧ ¬ ReadsAlone segment ∧ e.phase = before.length ∧
        FirstFault before.length segment e) ∧
    ∀ (phase : Nat) (cs : List Char),
      ((∃ effects, Effect.readList phase cs = .ok effects) ↔
        trim cs = [] ∨
          ∀ clause ∈ cs.splitOn ',', ∃ effect, Effect.readClause phase clause = .ok effect) ∧
      ∀ e, Effect.readList phase cs = .error e ↔
        trim cs ≠ [] ∧ Effect.FirstRejected phase (cs.splitOn ',') e := by
  refine ⟨exists_readChars_iff, readChars_of_blank, ?_, ?_, fun phase cs =>
    ⟨Effect.exists_readList_iff, fun e => Effect.readList_eq_error_iff⟩⟩
  · intro moves given read
    have made : readPhases 0 ((trim s.toList).splitOn '|') = .ok moves :=
      readChars_of_not_blank given ▸ read
    obtain ⟨count, each⟩ := moves_of_readPhases made
    refine ⟨count, ?_⟩
    intro place move found
    obtain ⟨segment, here, alone⟩ := each place move found
    rw [Nat.zero_add] at alone
    obtain ⟨index, alone⟩ := readPhase_eq_ok_iff_alone.mp alone
    exact ⟨index, segment, here, alone⟩
  · intro e
    unfold readList
    rw [readChars_eq_error_iff]
    apply and_congr_right
    intro _
    constructor
    · rintro ⟨before, segment, after, parts, read, fault⟩
      exact ⟨before, segment, after, parts, read, fault.not_readsAlone, fault.place, fault⟩
    · rintro ⟨before, segment, after, parts, read, -, -, fault⟩
      exact ⟨before, segment, after, parts, read, fault⟩

/-- Digits of other scripts give no interval. -/
example : readList "ticks=4 | ticks=٤ ,drain_heat" =
    .error ⟨.invalidMagnitude, 1, "ticks=٤"⟩ := by
  cbv

end Texts

end Move

end Gremlin
