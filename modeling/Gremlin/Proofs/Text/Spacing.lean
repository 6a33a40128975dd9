import Gremlin.Text.Blank
import Gremlin.Text.Split
import Mathlib.Data.List.DropRight
import Mathlib.Data.List.Forall2

set_option autoImplicit false

/-!
Texts that differ in the blanks at their ends and beside their separators. Cutting such a text
gives the same pieces but for blanks at the ends, and trimming a piece takes those away.
-/

namespace Gremlin.Text

/-- The characters that part moves from each other, clauses, and keys from their values. -/
def isSeparator (c : Char) : Bool := c = '|' || c = ',' || c = '='

/-- Nothing but blanks. -/
def Blanks (cs : List Char) : Prop := ∀ c ∈ cs, isBlank c = true

instance : DecidablePred Blanks := fun _ => decidable_of_iff _ List.all_eq_true

/-- The second text is the first with blanks put in on either side of separators. -/
inductive Loosened : List Char → List Char → Prop where
  | nil : Loosened [] []
  | plain {c : Char} {text spaced : List Char} (inner : isSeparator c = false)
      (rest : Loosened text spaced) : Loosened (c :: text) (c :: spaced)
  | separator {c : Char} {text spaced before after : List Char} (cut : isSeparator c = true)
      (left : Blanks before) (right : Blanks after) (rest : Loosened text spaced) :
      Loosened (c :: text) (before ++ c :: (after ++ spaced))

/-- The second text is the first with blanks put in at both ends and on either side of
separators. -/
def Respaced (text spaced : List Char) : Prop :=
  ∃ lead inner tail, Blanks lead ∧ Blanks tail ∧ Loosened text inner ∧
    spaced = lead ++ inner ++ tail

/-- A character of a word: no blank and no separator. -/
def isSolid (c : Char) : Bool := !isBlank c && !isSeparator c

/-- A nonempty run of characters that no blank is ever put into. -/
structure Word (cs : List Char) : Prop where
  nonempty : cs ≠ []
  solid : ∀ c ∈ cs, isSolid c = true

instance : DecidablePred Word := fun cs =>
  decidable_of_iff (cs ≠ [] ∧ cs.all isSolid = true) ⟨fun given =>
    ⟨given.1, List.all_eq_true.mp given.2⟩, fun word =>
    ⟨word.nonempty, List.all_eq_true.mpr word.solid⟩⟩

section Solid

variable {c : Char}

theorem not_blank_of_solid (solid : isSolid c = true) : isBlank c = false := by
  simp only [isSolid, Bool.and_eq_true, Bool.not_eq_true'] at solid
  exact solid.1

theorem not_separator_of_solid (solid : isSolid c = true) : isSeparator c = false := by
  simp only [isSolid, Bool.and_eq_true, Bool.not_eq_true'] at solid
  exact solid.2

theorem not_blank_of_separator (cut : isSeparator c = true) : isBlank c = false := by
  simp only [isSeparator, Bool.or_eq_true, decide_eq_true_eq] at cut
  rcases cut with (rfl | rfl) | rfl <;> rfl

theorem not_mem_of_word {sep : Char} {cs : List Char} (word : Word cs)
    (cut : isSeparator sep = true) : sep ∉ cs := by
  intro member
  have inner := not_separator_of_solid (word.solid sep member)
  rw [cut] at inner
  cases inner

theorem not_mem_of_blanks {sep : Char} {cs : List Char} (blank : Blanks cs)
    (cut : isSeparator sep = true) : sep ∉ cs := by
  intro member
  have solid := not_blank_of_separator cut
  rw [blank sep member] at solid
  cases solid

theorem blanks_nil : Blanks [] := fun _ member => nomatch member

theorem solid_of_toNat (low : 0x2E ≤ c.toNat) (high : c.toNat < 0x7B) (inner : c ≠ '=') :
    isSolid c = true := by
  have bar : c ≠ '|' := by
    rintro rfl
    exact absurd high (by decide)
  have comma : c ≠ ',' := by
    rintro rfl
    exact absurd low (by decide)
  have solid : isBlank c = false := by
    unfold isBlank
    simp only [Bool.or_eq_false_iff, Bool.and_eq_false_iff, decide_eq_false_iff_not,
      beq_eq_false_iff_ne]
    omega
  simp [isSolid, isSeparator, bar, comma, inner, solid]

theorem solid_of_isDigit (digit : c.isDigit = true) : isSolid c = true := by
  obtain ⟨low, high⟩ := Char.isDigit_iff_toNat.mp digit
  change 0x30 ≤ c.toNat at low
  change c.toNat ≤ 0x39 at high
  apply solid_of_toNat (by omega) (by omega)
  rintro rfl
  exact absurd high (by decide)

theorem solid_of_isLower (lower : c.isLower = true) : isSolid c = true := by
  obtain ⟨first, last⟩ := Bool.and_eq_true_iff.mp lower
  have low : 0x61 ≤ c.toNat := of_decide_eq_true first
  have high : c.toNat ≤ 0x7A := of_decide_eq_true last
  apply solid_of_toNat (by omega) (by omega)
  rintro rfl
  exact absurd low (by decide)

end Solid

section Trim

/-- A text with neither a blank nor a separator at its ends. -/
structure Firm (cs : List Char) : Prop where
  nonempty : cs ≠ []
  first : ∀ c ∈ cs.head?, isSolid c = true
  last : ∀ c ∈ cs.getLast?, isSolid c = true

theorem Word.firm {cs : List Char} (word : Word cs) : Firm cs where
  nonempty := word.nonempty
  first c member := word.solid c (List.mem_of_mem_head? member)
  last c member := word.solid c (List.mem_of_mem_getLast? member)

/-- What stands between two such texts is inside. -/
theorem Firm.append {front back : List Char} (firm : Firm front) (firm' : Firm back)
    (middle : List Char) : Firm (front ++ middle ++ back) where
  nonempty := by simp [firm.nonempty]
  first := by
    rw [List.append_assoc, List.head?_append_of_ne_nil _ firm.nonempty]
    exact firm.first
  last := by
    rw [List.getLast?_append_of_ne_nil _ firm'.nonempty]
    exact firm'.last

theorem trimStart_append {lead rest : List Char} (blank : Blanks lead) :
    trimStart (lead ++ rest) = trimStart rest := by
  unfold trimStart
  rw [List.dropWhile_append_of_pos blank]

theorem trimStart_eq_self {cs : List Char} (first : ∀ c ∈ cs.head?, isBlank c = false) :
    trimStart cs = cs := by
  cases cs with
  | nil => rfl
  | cons c rest => exact trimStart_cons_of_not_blank rest (first c rfl)

/-- Blanks around a text are trimmed off it, and nothing else. -/
theorem trim_padded {lead inner tail : List Char} (blank : Blanks lead) (blank' : Blanks tail)
    (first : ∀ c ∈ inner.head?, isBlank c = false)
    (last : ∀ c ∈ inner.getLast?, isBlank c = false) :
    trim (lead ++ inner ++ tail) = inner := by
  have behind : Blanks tail.reverse := fun c member => blank' c (List.mem_reverse.mp member)
  have ended : ∀ c ∈ inner.reverse.head?, isBlank c = false := by
    rw [List.head?_reverse]
    exact last
  cases inner with
  | nil =>
    have all : Blanks (lead ++ [] ++ tail) := by
      intro c member
      rw [List.append_nil, List.mem_append] at member
      rcases member with member | member
      · exact blank c member
      · exact blank' c member
    unfold trim
    rw [← List.append_nil (lead ++ [] ++ tail), trimStart_append all]
    rfl
  | cons c rest =>
    have opened : trimStart (c :: rest ++ tail) = c :: rest ++ tail := trimStart_eq_self first
    unfold trim trimEnd
    rw [List.append_assoc, trimStart_append blank, opened, List.reverse_append,
      trimStart_append behind, trimStart_eq_self ended, List.reverse_reverse]

theorem blanks_of_trimStart_eq_nil {cs : List Char} (none : trimStart cs = []) : Blanks cs :=
  List.dropWhile_eq_nil_iff.mp none

theorem trim_trimStart (cs : List Char) : trim (trimStart cs) = trim cs := by
  unfold trim trimStart
  rw [List.dropWhile_idempotent]

theorem trim_append_blanks {cs tail : List Char} (blank : Blanks tail) :
    trim (cs ++ tail) = trim cs := by
  have behind : Blanks tail.reverse := fun c member => blank c (List.mem_reverse.mp member)
  cases opened : trimStart cs with
  | nil =>
    have none : trimStart tail = [] := List.dropWhile_eq_nil_iff.mpr blank
    unfold trim
    rw [trimStart_append (blanks_of_trimStart_eq_nil opened), none, opened]
  | cons c rest =>
    have kept : trimStart (cs ++ tail) = trimStart cs ++ tail := by
      unfold trimStart at opened ⊢
      rw [List.dropWhile_append, opened]
      rfl
    unfold trim trimEnd
    rw [kept, List.reverse_append, trimStart_append behind]

theorem exists_trimEnd_append (cs : List Char) : ∃ tail, Blanks tail ∧ cs = trimEnd cs ++ tail := by
  refine ⟨(cs.reverse.takeWhile isBlank).reverse, ?_, ?_⟩
  · intro c member
    exact List.mem_takeWhile_imp (List.mem_reverse.mp member)
  · unfold trimEnd trimStart
    rw [← List.reverse_append, List.takeWhile_append_dropWhile, List.reverse_reverse]

theorem trim_trimEnd (cs : List Char) : trim (trimEnd cs) = trim cs := by
  obtain ⟨tail, blank, parts⟩ := exists_trimEnd_append cs
  have padded : trim (trimEnd cs ++ tail) = trim (trimEnd cs) := trim_append_blanks blank
  rw [← parts] at padded
  exact padded.symm

/-- A text with something solid in it is trimmed on either side of that. -/
theorem trim_append_cons {sep : Char} (solid : isBlank sep = false) (front back : List Char) :
    trim (front ++ sep :: back) = trimStart front ++ sep :: trimEnd back := by
  have opened (lead rest : List Char) :
      trimStart (lead ++ sep :: rest) = trimStart lead ++ sep :: rest := by
    cases left : trimStart lead with
    | nil =>
      rw [trimStart_append (blanks_of_trimStart_eq_nil left), trimStart_cons_of_not_blank _ solid]
      rfl
    | cons c others =>
      unfold trimStart at left ⊢
      rw [List.dropWhile_append, left]
      rfl
  unfold trim trimEnd
  rw [opened, List.reverse_append, List.reverse_cons, List.append_assoc, List.singleton_append,
    opened, List.reverse_append, List.reverse_cons, List.reverse_reverse, List.append_assoc,
    List.singleton_append]

theorem trim_word {lead word tail : List Char} (given : Word word) (blank : Blanks lead)
    (blank' : Blanks tail) : trim (lead ++ word ++ tail) = word :=
  trim_padded blank blank' (fun c member => not_blank_of_solid (given.firm.first c member))
    (fun c member => not_blank_of_solid (given.firm.last c member))

end Trim

section Loosened

variable {sep : Char} {text spaced : List Char}

@[simp] theorem Loosened.refl (text : List Char) : Loosened text text := by
  induction text with
  | nil => exact .nil
  | cons c text ih =>
    cases cut : isSeparator c with
    | false => exact .plain cut ih
    | true => exact .separator cut blanks_nil blanks_nil ih

theorem Loosened.append {front back spaced' : List Char} (loose : Loosened front spaced)
    (loose' : Loosened back spaced') : Loosened (front ++ back) (spaced ++ spaced') := by
  induction loose with
  | nil => exact loose'
  | plain inner rest ih => exact .plain inner ih
  | separator cut left right rest ih =>
    simp only [List.append_assoc, List.cons_append]
    exact .separator cut left right ih

theorem Loosened.of_plain (loose : Loosened text spaced)
    (plain : ∀ c ∈ text, isSeparator c = false) : spaced = text := by
  induction loose with
  | nil => rfl
  | plain inner rest ih =>
    rw [ih fun c member => plain c (List.mem_cons_of_mem _ member)]
  | separator cut left right rest ih =>
    rw [plain _ List.mem_cons_self] at cut
    cases cut

theorem Loosened.mem_of_separator (loose : Loosened text spaced) (cut : isSeparator sep = true)
    (member : sep ∈ spaced) : sep ∈ text := by
  induction loose with
  | nil => exact member
  | plain inner rest ih =>
    rcases List.mem_cons.mp member with rfl | member
    · exact List.mem_cons_self
    · exact List.mem_cons_of_mem _ (ih member)
  | separator found left right rest ih =>
    rcases List.mem_append.mp member with member | member
    · exact absurd member (not_mem_of_blanks left cut)
    · rcases List.mem_cons.mp member with rfl | member
      · exact List.mem_cons_self
      · rcases List.mem_append.mp member with member | member
        · exact absurd member (not_mem_of_blanks right cut)
        · exact List.mem_cons_of_mem _ (ih member)

/-- What stands before and after a separator is loosened on its own. -/
theorem Loosened.cut {front rest : List Char} (loose : Loosened (front ++ sep :: rest) spaced)
    (cut : isSeparator sep = true) :
    ∃ front' before after rest', Loosened front front' ∧ Blanks before ∧ Blanks after ∧
      Loosened rest rest' ∧ spaced = front' ++ before ++ sep :: (after ++ rest') := by
  induction front generalizing spaced with
  | nil =>
    cases loose with
    | plain inner _ =>
      rw [cut] at inner
      cases inner
    | separator _ left right rest => exact ⟨[], _, _, _, .nil, left, right, rest, rfl⟩
  | cons c front ih =>
    cases loose with
    | plain inner loose =>
      obtain ⟨front', before, after, rest', inside, left, right, behind, rfl⟩ := ih loose
      exact ⟨_, before, after, rest', .plain inner inside, left, right, behind, rfl⟩
    | separator found left' right' loose =>
      obtain ⟨front', before, after, rest', inside, left, right, behind, rfl⟩ := ih loose
      refine ⟨_, before, after, rest', .separator found left' right' inside, left, right, behind,
        ?_⟩
      simp only [List.append_assoc, List.cons_append]

theorem Loosened.head? (loose : Loosened text spaced)
    (plain : ∀ c ∈ text.head?, isSeparator c = false) : spaced.head? = text.head? := by
  cases loose with
  | nil => rfl
  | plain inner rest => rfl
  | separator cut left right rest =>
    rw [plain _ rfl] at cut
    cases cut

theorem Loosened.eq_nil_iff (loose : Loosened text spaced) : spaced = [] ↔ text = [] := by
  cases loose <;> simp

theorem Loosened.getLast? (loose : Loosened text spaced)
    (plain : ∀ c ∈ text.getLast?, isSeparator c = false) : spaced.getLast? = text.getLast? := by
  induction loose with
  | nil => rfl
  | @plain c text spaced inner rest ih =>
    cases text with
    | nil => rw [rest.eq_nil_iff.mpr rfl]
    | cons d text =>
      obtain ⟨e, spaced, rfl⟩ := List.exists_cons_of_ne_nil
        (fun none => List.cons_ne_nil d text (rest.eq_nil_iff.mp none))
      rw [List.getLast?_cons_cons] at plain ⊢
      rw [List.getLast?_cons_cons]
      exact ih plain
  | @separator c text spaced before after cut left right rest ih =>
    cases text with
    | nil =>
      rw [plain c rfl] at cut
      cases cut
    | cons d text =>
      obtain ⟨e, spaced, rfl⟩ := List.exists_cons_of_ne_nil
        (fun none => List.cons_ne_nil d text (rest.eq_nil_iff.mp none))
      rw [List.getLast?_cons_cons] at plain ⊢
      rw [← ih plain, ← List.cons_append, ← List.append_assoc, List.getLast?_append]
      rfl

theorem Loosened.respaced (loose : Loosened text spaced) : Respaced text spaced :=
  ⟨[], spaced, [], blanks_nil, blanks_nil, loose, by rw [List.nil_append, List.append_nil]⟩

theorem Respaced.trim_nil (spacing : Respaced [] spaced) : trim spaced = [] := by
  obtain ⟨lead, inner, tail, blank, blank', loose, rfl⟩ := spacing
  cases loose
  exact trim_padded blank blank' (fun _ member => nomatch member) (fun _ member => nomatch member)

/-- Trimming takes the blanks at the ends away and leaves those beside separators. -/
theorem Respaced.trim (spacing : Respaced text spaced) (firm : Firm text) :
    Loosened text (trim spaced) := by
  obtain ⟨lead, inner, tail, blank, blank', loose, rfl⟩ := spacing
  have first := loose.head? fun c member => not_separator_of_solid (firm.first c member)
  have last := loose.getLast? fun c member => not_separator_of_solid (firm.last c member)
  rw [trim_padded blank blank']
  · exact loose
  · rw [first]
    exact fun c member => not_blank_of_solid (firm.first c member)
  · rw [last]
    exact fun c member => not_blank_of_solid (firm.last c member)

end Loosened

section Cutting

variable {sep : Char}

theorem splitOn_append {front : List Char} (absent : sep ∉ front) (rest : List Char) :
    (front ++ sep :: rest).splitOn sep = front :: rest.splitOn sep := by
  rw [List.splitOn_append_cons_self, List.splitOn_eq_singleton absent]
  rfl

theorem splitFirst_append {front : List Char} (absent : sep ∉ front) (rest : List Char) :
    splitFirst sep (front ++ sep :: rest) = some (front, rest) := by
  induction front with
  | nil => simp [splitFirst]
  | cons c front ih =>
    obtain ⟨other, absent⟩ := not_or.mp (List.mem_cons.not.mp absent)
    rw [List.cons_append, splitFirst, if_neg (Ne.symm other), ih absent]
    rfl

theorem splitFirst_of_not_mem {cs : List Char} (absent : sep ∉ cs) : splitFirst sep cs = none := by
  induction cs with
  | nil => rfl
  | cons c rest ih =>
    obtain ⟨other, absent⟩ := not_or.mp (List.mem_cons.not.mp absent)
    rw [splitFirst, if_neg (Ne.symm other), ih absent]
    rfl

/-- A text is cut at the first separator it has. -/
theorem splitFirst_eq_some_iff {cs front back : List Char} :
    splitFirst sep cs = some (front, back) ↔ cs = front ++ sep :: back ∧ sep ∉ front := by
  constructor
  · intro found
    by_cases member : sep ∈ cs
    · obtain ⟨before, after, rfl, absent⟩ := List.eq_append_cons_of_mem member
      rw [splitFirst_append absent] at found
      cases found
      exact ⟨rfl, absent⟩
    · rw [splitFirst_of_not_mem member] at found
      cases found
  · rintro ⟨rfl, absent⟩
    exact splitFirst_append absent back

theorem mem_of_mem_trim {c : Char} {cs : List Char} (member : c ∈ trim cs) : c ∈ cs := by
  have inside := (List.dropWhile_suffix isBlank).subset (List.mem_reverse.mp member)
  exact (List.dropWhile_suffix isBlank).subset (List.mem_reverse.mp inside)

/-- Trimming before the cut takes nothing but the blanks at the outer ends. -/
theorem splitFirst_trim (solid : isBlank sep = false) (cs : List Char) :
    splitFirst sep (trim cs) =
      (splitFirst sep cs).map fun parts => (trimStart parts.1, trimEnd parts.2) := by
  by_cases member : sep ∈ cs
  · obtain ⟨front, back, rfl, absent⟩ := List.eq_append_cons_of_mem member
    have absent' : sep ∉ trimStart front := fun inside =>
      absent ((List.dropWhile_suffix isBlank).subset inside)
    rw [trim_append_cons solid, splitFirst_append absent, splitFirst_append absent']
    rfl
  · rw [splitFirst_of_not_mem member, splitFirst_of_not_mem fun inside =>
      member (mem_of_mem_trim inside)]
    rfl

theorem mem_intercalate {c : Char} {pieces : List (List Char)}
    (member : c ∈ [sep].intercalate pieces) : c = sep ∨ ∃ piece ∈ pieces, c ∈ piece := by
  induction pieces with
  | nil => cases member
  | cons piece pieces ih =>
    cases pieces with
    | nil =>
      rw [List.intercalate_singleton] at member
      exact Or.inr ⟨piece, List.mem_cons_self, member⟩
    | cons next pieces =>
      rw [List.intercalate_cons_cons, List.mem_append, List.mem_append, List.mem_singleton] at member
      rcases member with (member | found) | member
      · exact Or.inr ⟨piece, List.mem_cons_self, member⟩
      · exact Or.inl found
      · rcases ih member with found | ⟨other, held, member⟩
        · exact Or.inl found
        · exact Or.inr ⟨other, List.mem_cons_of_mem _ held, member⟩

theorem firm_intercalate {pieces : List (List Char)} (some : pieces ≠ [])
    (firm : ∀ piece ∈ pieces, Firm piece) : Firm ([sep].intercalate pieces) := by
  induction pieces with
  | nil => exact absurd rfl some
  | cons piece pieces ih =>
    have here := firm piece List.mem_cons_self
    cases pieces with
    | nil =>
      rw [List.intercalate_singleton]
      exact here
    | cons next pieces =>
      have behind := ih (List.cons_ne_nil _ _) fun other member =>
        firm other (List.mem_cons_of_mem _ member)
      rw [List.intercalate_cons_cons]
      exact here.append behind [sep]

/-- Cutting a joined text gives the pieces joined, each with blanks put in. -/
theorem Respaced.splitOn_intercalate (cut : isSeparator sep = true) {pieces : List (List Char)}
    (some : pieces ≠ []) (absent : ∀ piece ∈ pieces, sep ∉ piece) {spaced : List Char}
    (spacing : Respaced ([sep].intercalate pieces) spaced) :
    List.Forall₂ Respaced pieces (spaced.splitOn sep) := by
  induction pieces generalizing spaced with
  | nil => exact absurd rfl some
  | cons piece pieces ih =>
    obtain ⟨lead, inner, tail, blank, blank', loose, rfl⟩ := spacing
    have here := absent piece List.mem_cons_self
    have outside := not_mem_of_blanks blank cut
    have outside' := not_mem_of_blanks blank' cut
    cases pieces with
    | nil =>
      rw [List.intercalate_singleton] at loose
      have inside : sep ∉ inner := fun member => here (loose.mem_of_separator cut member)
      rw [List.splitOn_eq_singleton (by simp [outside, outside', inside])]
      exact .cons ⟨lead, inner, tail, blank, blank', loose, rfl⟩ .nil
    | cons next pieces =>
      rw [List.intercalate_cons_cons, List.append_assoc, List.singleton_append] at loose
      obtain ⟨front, before, after, rest, piece', left, right, loose', rfl⟩ := loose.cut cut
      have inside : sep ∉ front := fun member => here (piece'.mem_of_separator cut member)
      have beside := not_mem_of_blanks left cut
      have shape : lead ++ (front ++ before ++ sep :: (after ++ rest)) ++ tail =
          (lead ++ front ++ before) ++ sep :: (after ++ rest ++ tail) := by
        simp only [List.append_assoc, List.cons_append]
      rw [shape, splitOn_append (by simp [outside, inside, beside])]
      refine .cons ⟨lead, front, before, blank, left, piece', rfl⟩ ?_
      have absent' : ∀ other ∈ next :: pieces, sep ∉ other := fun other member =>
        absent other (List.mem_cons_of_mem _ member)
      exact ih (List.cons_ne_nil _ _) absent' ⟨after, rest, tail, right, blank', loose', rfl⟩

/-- A key and a value come out of a loosened clause as they went in. -/
theorem Loosened.splitFirst_clause {key value spaced : List Char} (word : Word key)
    (word' : Word value) (loose : Loosened (key ++ '=' :: value) spaced) :
    ∃ before after, splitFirst '=' spaced = some (before, after) ∧ trim before = key ∧
      trim after = value := by
  obtain ⟨front, before, after, rest, front', left, right, rest', rfl⟩ := loose.cut rfl
  have same := front'.of_plain fun c member => not_separator_of_solid (word.solid c member)
  have same' := rest'.of_plain fun c member => not_separator_of_solid (word'.solid c member)
  subst same same'
  have equals : isSeparator '=' = true := rfl
  have absent : '=' ∉ front ++ before := by
    simp [not_mem_of_word word equals, not_mem_of_blanks left equals]
  have key : trim ([] ++ front ++ before) = front := trim_word word blanks_nil left
  have value : trim (after ++ rest ++ []) = rest := trim_word word' right blanks_nil
  rw [List.append_nil] at value
  exact ⟨_, _, splitFirst_append absent _, key, value⟩

end Cutting

end Gremlin.Text
