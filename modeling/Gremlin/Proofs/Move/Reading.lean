import Gremlin.Move

set_option autoImplicit false

/-!
What holds of every phase read on its own holds of the moves of a text, each in its place.
-/

namespace Gremlin.Move

variable {motive : Nat → Move → Prop}

theorem forall_of_readPhases (each : ∀ phase segment move,
      readPhase phase segment = .ok move → motive phase move)
    {phase : Nat} {segments : List (List Char)} {moves : List Move}
    (read : readPhases phase segments = .ok moves) {place : Nat} {move : Move}
    (found : moves[place]? = some move) : motive (phase + place) move := by
  induction segments generalizing phase moves place with
  | nil =>
    cases read
    cases found
  | cons segment rest ih =>
    simp only [readPhases] at read
    split at read
    · cases read
    · rename_i first firstRead
      split at read
      · cases read
      · rename_i others othersRead
        cases read
        cases place with
        | zero =>
          cases found
          exact each phase segment move firstRead
        | succ place =>
          rw [List.getElem?_cons_succ] at found
          have later := ih othersRead found
          rw [show phase + 1 + place = phase + (place + 1) by omega] at later
          exact later

theorem forall_of_readList (each : ∀ phase segment move,
      readPhase phase segment = .ok move → motive phase move)
    {s : String} {moves : List Move} (read : readList s = .ok moves) {place : Nat} {move : Move}
    (found : moves[place]? = some move) : motive place move := by
  rw [readList, readChars] at read
  split at read
  · cases read
    cases found
  · have held := forall_of_readPhases each read found
    rw [Nat.zero_add] at held
    exact held

theorem index_of_readPhase {phase : Nat} {segment : List Char} {move : Move}
    (read : readPhase phase segment = .ok move) : move.index = phase := by
  simp only [readPhase] at read
  split at read
  · cases read
  · split at read
    · cases read
    · cases read
      rfl

/-- Moves are numbered by their place. -/
theorem index_of_readList {s : String} {moves : List Move} (read : readList s = .ok moves)
    {place : Nat} {move : Move} (found : moves[place]? = some move) : move.index = place :=
  forall_of_readList (motive := fun phase move => move.index = phase)
    (fun _ _ _ read => index_of_readPhase read) read found

end Gremlin.Move
