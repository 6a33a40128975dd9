import Gremlin.CommandLine.Program
import Gremlin.Proofs.Outcome
import Mathlib.Algebra.Order.Ring.Nat
import Mathlib.Data.List.Nodup
import Mathlib.Data.List.Perm.Basic
import Mathlib.Logic.Relation

set_option autoImplicit false

/-!
Campaigns do not depend on their workers. The runs are dealt out without loss, the workers send
their reports over one channel in whatever order they get to it, and the sorted reports are those of
the runs done one after the other.
-/

namespace Gremlin

namespace Campaign

/-! ### Dealing out -/

theorem jobsFrom_map_index (index count : Nat) (g : Random.Generator) :
    (jobsFrom index count g).map (·.index) = List.range' index count := by
  induction count generalizing index g with
  | zero => rfl
  | succ count ih => rw [jobsFrom, List.map_cons, ih, List.range'_succ]

theorem jobs_map_index (seed count : Nat) :
    (jobs seed count).map (·.index) = List.range count := by
  rw [jobs, jobsFrom_map_index, List.range_eq_range']

theorem length_jobs (seed count : Nat) : (jobs seed count).length = count := by
  rw [← List.length_map (·.index), jobs_map_index, List.length_range]

theorem workerCount_pos (asked : Nat) {runs : Nat} (several : 0 < runs) :
    0 < workerCount asked runs :=
  Nat.lt_min.mpr ⟨Nat.lt_of_lt_of_le Nat.zero_lt_one (Nat.le_max_right ..), several⟩

theorem workerCount_le (asked runs : Nat) : workerCount asked runs ≤ runs := Nat.min_le_right ..

/-- The workers share what does not divide evenly, one run each. -/
theorem sum_shares (each rest count : Nat) :
    ((List.range count).map fun i => each + if i < rest then 1 else 0).sum =
      count * each + min rest count := by
  induction count with
  | zero => simp
  | succ count ih =>
    rw [List.range_succ, List.map_append, List.sum_append_nat, ih, Nat.succ_mul]
    simp only [List.map_cons, List.map_nil, List.sum_cons, List.sum_nil]
    split <;> omega

theorem sum_chunkSizes (runs : Nat) {workers : Nat} (some : 0 < workers) :
    (chunkSizes runs workers).sum = runs := by
  rw [chunkSizes, sum_shares, Nat.min_eq_left (Nat.le_of_lt (Nat.mod_lt runs some))]
  exact Nat.div_add_mod runs workers

theorem chunkSizes_pos {runs workers : Nat} (some : 0 < workers) (enough : workers ≤ runs) :
    ∀ size ∈ chunkSizes runs workers, 0 < size := by
  intro size member
  obtain ⟨i, _, rfl⟩ := List.mem_map.mp member
  exact Nat.add_pos_left (Nat.div_pos enough some) _

section Chunks

variable {α : Type}

theorem chunks_flatten (sizes : List Nat) (items : List α) :
    (chunks sizes items).flatten = items.take sizes.sum := by
  induction sizes generalizing items with
  | nil => rfl
  | cons size sizes ih => rw [chunks, List.flatten_cons, ih, List.sum_cons, List.take_add]

theorem chunks_ne_nil {sizes : List Nat} {items : List α} (positive : ∀ size ∈ sizes, 0 < size)
    (fits : sizes.sum ≤ items.length) : ∀ chunk ∈ chunks sizes items, chunk ≠ [] := by
  induction sizes generalizing items with
  | nil => exact fun _ member => absurd member List.not_mem_nil
  | cons size sizes ih =>
    rw [List.sum_cons] at fits
    have here := positive size List.mem_cons_self
    intro chunk member
    rcases List.mem_cons.mp member with rfl | later
    · refine List.ne_nil_of_length_pos ?_
      rw [List.length_take]
      omega
    · refine ih (fun other among => positive other (List.mem_cons_of_mem _ among)) ?_ chunk later
      rw [List.length_drop]
      omega

end Chunks

/-- What the workers are given. -/
def dealt (seed runs asked : Nat) : List (List Job) :=
  chunks (chunkSizes runs (workerCount asked runs)) (jobs seed runs)

theorem dealt_flatten (seed asked : Nat) {runs : Nat} (several : 0 < runs) :
    (dealt seed runs asked).flatten = jobs seed runs := by
  rw [dealt, chunks_flatten, sum_chunkSizes runs (workerCount_pos asked several)]
  exact List.take_of_length_le (Nat.le_of_eq (length_jobs seed runs))

theorem dealt_ne_nil (seed asked : Nat) {runs : Nat} (several : 0 < runs) :
    ∀ chunk ∈ dealt seed runs asked, chunk ≠ [] := by
  have some := workerCount_pos asked several
  refine chunks_ne_nil (chunkSizes_pos some (workerCount_le asked runs)) ?_
  exact Nat.le_of_eq ((sum_chunkSizes runs some).trans (length_jobs seed runs).symm)

/-! ### Sorting -/

/-- Reports in any order are sorted into the one order in which their numbers rise. -/
theorem inOrder_of_perm {reports sorted : List (Nat × RunResult)} (same : reports.Perm sorted)
    (rising : (sorted.map (·.1)).Pairwise (· < ·)) : inOrder reports = sorted.map (·.2) := by
  let before := fun a b : Nat × RunResult => decide (a.1 ≤ b.1)
  have rearranged : (reports.mergeSort before).Perm sorted :=
    (List.mergeSort_perm reports before).trans same
  have ascending : (reports.mergeSort before).Pairwise fun a b => before a b = true := by
    apply List.pairwise_mergeSort
    · intro a b c first second
      exact decide_eq_true (Nat.le_trans (of_decide_eq_true first) (of_decide_eq_true second))
    · intro a b
      rw [Bool.or_eq_true]
      exact (Nat.le_total a.1 b.1).imp decide_eq_true decide_eq_true
  have ordered : sorted.Pairwise fun a b => before a b = true :=
    (List.pairwise_map.mp rising).imp fun below => decide_eq_true (Nat.le_of_lt below)
  have numbered : (sorted.map (·.1)).Nodup := rising.imp Nat.ne_of_lt
  rw [inOrder, rearranged.eq_of_pairwise _ ascending ordered]
  intro a b here there first second
  exact List.inj_on_of_nodup_map numbered (rearranged.mem_iff.mp here) there
    (Nat.le_antisymm (of_decide_eq_true first) (of_decide_eq_true second))

/-! ### One after the other -/

/-- The results of a campaign's runs, done one after the other. -/
def sequential (s : Encounter) (seed runs : Nat) : Except EncounterError (List RunResult) :=
  (jobs seed runs).mapM fun job => s.runOnceWith (.ofSeed job.seed)

/-- A run is reported by a report. -/
def Reports (s : Encounter) (job : Job) (report : Nat × RunResult) : Prop :=
  runJob s job = .ok report

theorem reports_iff {s : Encounter} {job : Job} {report : Nat × RunResult} :
    Reports s job report ↔
      report.1 = job.index ∧ s.runOnceWith (.ofSeed job.seed) = .ok report.2 := by
  rw [Reports, runJob, map_eq_ok]
  constructor
  · rintro ⟨result, ran, rfl⟩
    exact ⟨rfl, ran⟩
  · rintro ⟨index, ran⟩
    exact ⟨report.2, ran, Prod.ext index.symm rfl⟩

theorem map_index_of_reports {s : Encounter} {done : List Job} {reports : List (Nat × RunResult)}
    (told : List.Forall₂ (Reports s) done reports) : reports.map (·.1) = done.map (·.index) := by
  induction told with
  | nil => rfl
  | cons first _ ih => rw [List.map_cons, List.map_cons, ih, (reports_iff.mp first).1]

/-- Reports of all runs, in whatever order, give the results of the runs one after the other. -/
theorem sequential_eq_ok {s : Encounter} {seed runs : Nat} {done : List Job}
    {reports : List (Nat × RunResult)} (all : done.Perm (jobs seed runs))
    (told : List.Forall₂ (Reports s) done reports) :
    sequential s seed runs = .ok (inOrder reports) := by
  obtain ⟨sorted, inTurn, same⟩ : ∃ sorted, List.Forall₂ (Reports s) (jobs seed runs) sorted ∧
      sorted.Perm reports := by
    have both : Relation.Comp List.Perm (List.Forall₂ (Reports s)) (jobs seed runs) reports :=
      ⟨done, all.symm, told⟩
    rw [← List.forall₂_comp_perm_eq_perm_comp_forall₂] at both
    exact both
  have rising : (sorted.map (·.1)).Pairwise (· < ·) := by
    rw [map_index_of_reports inTurn, jobs_map_index]
    exact List.pairwise_lt_range
  rw [inOrder_of_perm same.symm rising, sequential, mapM_eq_ok_iff, List.forall₂_map_right_iff]
  exact inTurn.imp fun _ _ told => (reports_iff.mp told).2

/-! ### Workers -/

/-- Workers in the middle of a campaign, and who waits for them. -/
structure Crew where
  /-- What each worker has still to run. -/
  queues : List (List Job)
  /-- The reports that are sent and not yet received. -/
  channel : List (Nat × RunResult)
  received : List (Nat × RunResult)

namespace Crew

/-- A crew that has its chunks and has not begun. -/
def start (seed runs asked : Nat) : Crew := ⟨dealt seed runs asked, [], []⟩

/-- A worker does its next run and sends the report, or the oldest report is received. A worker
that is not yet up, or is slow, takes no step. -/
inductive Step (s : Encounter) : Crew → Crew → Prop
  | send {before after : List (List Job)} {job : Job} {rest : List Job}
      {report : Nat × RunResult} {channel received : List (Nat × RunResult)}
      (told : Reports s job report) :
      Step s ⟨before ++ (job :: rest) :: after, channel, received⟩
        ⟨before ++ rest :: after, channel ++ [report], received⟩
  | receive {queues : List (List Job)} {report : Nat × RunResult}
      {channel received : List (Nat × RunResult)} :
      Step s ⟨queues, report :: channel, received⟩ ⟨queues, channel, received ++ [report]⟩

/-- Steps of anybody, in any order. -/
abbrev Steps (s : Encounter) : Crew → Crew → Prop := Relation.ReflTransGen (Step s)

/-- Every worker is through with its chunk and nothing is left to be received. -/
def Done (crew : Crew) : Prop := (∀ queue ∈ crew.queues, queue = []) ∧ crew.channel = []

/-- Every run is in a queue or reported, and no run is in two places. -/
def Accounts (s : Encounter) (all : List Job) (crew : Crew) : Prop :=
  ∃ done, (done ++ crew.queues.flatten).Perm all ∧
    List.Forall₂ (Reports s) done (crew.received ++ crew.channel)

variable {s : Encounter} {all : List Job} {crew crew' : Crew}

theorem Step.accounts (step : Step s crew crew') (accounts : Accounts s all crew) :
    Accounts s all crew' := by
  obtain ⟨done, whole, told⟩ := accounts
  cases step with
  | @send before after job rest report channel received here =>
    refine ⟨done ++ [job], ?_, ?_⟩
    · refine .trans ?_ whole
      rw [List.append_assoc]
      refine .append_left done ?_
      rw [List.flatten_append, List.flatten_append, List.flatten_cons, List.flatten_cons,
        List.singleton_append, List.cons_append]
      exact List.perm_middle.symm
    · rw [← List.append_assoc]
      exact List.rel_append told (.cons here .nil)
  | receive =>
    refine ⟨done, whole, ?_⟩
    rw [List.append_assoc]
    exact told

theorem Steps.accounts (steps : Steps s crew crew') (accounts : Accounts s all crew) :
    Accounts s all crew' := by
  induction steps with
  | refl => exact accounts
  | tail _ step ih => exact step.accounts ih

theorem accounts_start (s : Encounter) (seed asked : Nat) {runs : Nat} (several : 0 < runs) :
    Accounts s (jobs seed runs) (start seed runs asked) :=
  ⟨[], .of_eq (dealt_flatten seed asked several), .nil⟩

/-- How many steps a crew has still to take. -/
def pending (crew : Crew) : Nat := 2 * crew.queues.flatten.length + crew.channel.length

theorem Step.pending_lt (step : Step s crew crew') : crew'.pending < crew.pending := by
  cases step with
  | send =>
    simp only [pending, List.flatten_append, List.flatten_cons, List.length_append,
      List.length_cons, List.length_nil]
    omega
  | receive =>
    simp only [pending, List.length_cons]
    omega

/-- A crew whose runs all return is done or can go on. -/
theorem Accounts.done_or_step (accounts : Accounts s all crew)
    (returns : ∀ job ∈ all, ∃ report, Reports s job report) :
    crew.Done ∨ ∃ crew', Step s crew crew' := by
  obtain ⟨done, whole, _⟩ := accounts
  obtain ⟨queues, channel, received⟩ := crew
  cases channel with
  | cons report channel => exact .inr ⟨_, .receive⟩
  | nil =>
    by_cases idle : ∀ queue ∈ queues, queue = []
    · exact .inl ⟨idle, rfl⟩
    · simp only [Classical.not_forall] at idle
      obtain ⟨queue, member, busy⟩ := idle
      obtain ⟨job, rest, rfl⟩ := List.exists_cons_of_ne_nil busy
      obtain ⟨before, after, rfl⟩ := List.append_of_mem member
      have among : job ∈ all := by
        refine whole.mem_iff.mp (List.mem_append_right _ ?_)
        exact List.mem_flatten.mpr ⟨job :: rest, member, List.mem_cons_self⟩
      obtain ⟨report, told⟩ := returns job among
      exact .inr ⟨_, .send told⟩

/-- A crew whose runs all return can finish from wherever it has got to. -/
theorem Accounts.finishes (accounts : Accounts s all crew)
    (returns : ∀ job ∈ all, ∃ report, Reports s job report) :
    ∃ last, Steps s crew last ∧ last.Done := by
  induction left : crew.pending using Nat.strongRecOn generalizing crew with
  | ind left ih =>
    rcases accounts.done_or_step returns with done | ⟨next, step⟩
    · exact ⟨crew, .refl, done⟩
    · subst left
      obtain ⟨last, steps, done⟩ := ih next.pending step.pending_lt (step.accounts accounts) rfl
      exact ⟨last, .head step steps, done⟩

/-- What a crew that is done has received are the results of the runs one after the other. -/
theorem Accounts.sequential_eq_ok {seed runs : Nat} (accounts : Accounts s (jobs seed runs) crew)
    (finished : crew.Done) : sequential s seed runs = .ok (inOrder crew.received) := by
  obtain ⟨done, whole, told⟩ := accounts
  obtain ⟨idle, drained⟩ := finished
  rw [List.flatten_eq_nil_iff.mpr idle, List.append_nil] at whole
  rw [drained, List.append_nil] at told
  exact Campaign.sequential_eq_ok whole told

end Crew

theorem work_eq (s : Encounter) (queue : List Job) : work s queue = queue.mapM (runJob s) := by
  induction queue with
  | nil => rfl
  | cons job rest ih =>
    rw [work, List.mapM_cons, ih]
    cases runJob s job with
    | error e => rfl
    | ok report => cases rest.mapM (runJob s) <;> rfl

/-- A first failure is the same whether the runs come in chunks or not. -/
theorem mapM_work (s : Encounter) (queues : List (List Job)) :
    (queues.mapM (work s)).map List.flatten = queues.flatten.mapM (runJob s) := by
  induction queues with
  | nil => rfl
  | cons queue rest ih =>
    rw [List.mapM_cons, List.flatten_cons, List.mapM_append, ← ih, work_eq]
    cases queue.mapM (runJob s) with
    | error e => rfl
    | ok reports => cases rest.mapM (work s) <;> rfl

theorem mapM_runJob (s : Encounter) (all : List Job) :
    (all.mapM (runJob s)).map (List.map (·.2)) =
      all.mapM fun job => s.runOnceWith (.ofSeed job.seed) := by
  induction all with
  | nil => rfl
  | cons job rest ih =>
    rw [List.mapM_cons, List.mapM_cons, ← ih, runJob]
    cases s.runOnceWith (.ofSeed job.seed) with
    | error e => rfl
    | ok result => cases rest.mapM (runJob s) <;> rfl

/-- What a campaign gives, or the reason why it fails, is what its runs give one after the other. -/
theorem run_eq_sequential (s : Encounter) (seed asked : Nat) {runs : Nat} (several : 0 < runs) :
    run s seed runs asked = sequential s seed runs := by
  have joined := mapM_work s (dealt seed runs asked)
  rw [dealt_flatten seed asked several] at joined
  rw [sequential, ← mapM_runJob, run]
  change (dealt seed runs asked).mapM (work s) >>= _ = _
  cases dealing : (dealt seed runs asked).mapM (work s) with
  | error e =>
    rw [dealing] at joined
    rw [← joined]
    rfl
  | ok reports =>
    rw [dealing] at joined
    have told := mapM_eq_ok_iff.mp joined.symm
    have rising : (reports.flatten.map (·.1)).Pairwise (· < ·) := by
      rw [map_index_of_reports told, jobs_map_index]
      exact List.pairwise_lt_range
    rw [← joined]
    exact congrArg Except.ok (inOrder_of_perm (.refl _) rising)

/-- However many workers are asked for, each gets a chunk that is not empty, and the chunks make up
the runs, each of them once. In whatever order the workers take their steps and their reports
arrive, a crew that is done has received what gives, once sorted, the results of the runs one after
the other, and with them the summary that is shown for any number of workers. If all runs return, a
crew can go on until it is done, wherever it has got to. -/
theorem crew_eq_sequential (s : Encounter) (seed asked : Nat) {runs : Nat} (several : 2 ≤ runs) :
    (∀ chunk ∈ dealt seed runs asked, chunk ≠ []) ∧
    (dealt seed runs asked).flatten = jobs seed runs ∧
    (jobs seed runs).map (·.index) = List.range runs ∧
    (∀ crew, Crew.Steps s (.start seed runs asked) crew → crew.Done →
      sequential s seed runs = .ok (inOrder crew.received) ∧
      ∀ workers, CommandLine.runEncounter s runs seed workers =
        .ok (.summary (Summary.ofResults (inOrder crew.received)))) ∧
    ∀ results, sequential s seed runs = .ok results →
      ∀ crew, Crew.Steps s (.start seed runs asked) crew →
        ∃ last, Crew.Steps s crew last ∧ last.Done := by
  have positive : 0 < runs := Nat.lt_of_lt_of_le Nat.zero_lt_two several
  refine ⟨dealt_ne_nil seed asked positive, dealt_flatten seed asked positive,
    jobs_map_index seed runs, ?_, ?_⟩
  · intro crew steps finished
    have accounts := steps.accounts (Crew.accounts_start s seed asked positive)
    have inTurn := accounts.sequential_eq_ok finished
    refine ⟨inTurn, fun workers => ?_⟩
    rw [CommandLine.runEncounter, if_neg (Nat.not_le_of_lt several),
      run_eq_sequential s seed _ positive, inTurn]
    rfl
  · intro results inTurn crew steps
    have accounts := steps.accounts (Crew.accounts_start s seed asked positive)
    refine accounts.finishes fun job member => ?_
    obtain ⟨place, inside, rfl⟩ := List.mem_iff_getElem.mp member
    have ran := (mapM_eq_ok_iff.mp inTurn).get inside
      ((mapM_eq_ok_iff.mp inTurn).length_eq ▸ inside)
    exact ⟨(_, _), reports_iff.mpr ⟨rfl, ran⟩⟩

/-- A gremlin that drains a force drawn at random. -/
def gambler : Record where
  templateId := "gambler"
  sizeCategory := "small"
  maxHealth := 3
  moves := "ticks=1,drain_random=3"

/-- Five runs that do not all end alike are dealt to three workers, whose crew can finish and then
has their results. -/
theorem crew_eq_sequential_gambler :
    ∃ s results, Encounter.ofScenario
        { gremlins := ["gambler"], maxTicks := some 1,
          resources := [("heat", 9), ("balance", 9), ("entropy", 9)] }
        (Bestiary.load [gambler]).1 = .ok s ∧
      sequential s 8 5 = .ok results ∧
      results.map (·.resources.amount .heat) = [9, 9, 6, 6, 9] ∧
      (dealt 8 5 3).map (·.length) = [2, 2, 1] ∧ (dealt 8 5 3).flatten = jobs 8 5 ∧
      ∃ last, Crew.Steps s (.start 8 5 3) last ∧ last.Done ∧ inOrder last.received = results := by
  have ran : ((Encounter.ofScenario
        { gremlins := ["gambler"], maxTicks := some 1,
          resources := [("heat", 9), ("balance", 9), ("entropy", 9)] }
        (Bestiary.load [gambler]).1).toOption.bind fun s =>
      (sequential s 8 5).toOption.map fun results =>
        results.map (·.resources.amount .heat)) = some [9, 9, 6, 6, 9] := by
    decide +kernel
  obtain ⟨s, arranged, shown⟩ := toOption_bind_eq_some.mp ran
  obtain ⟨results, inTurn, heat⟩ := toOption_map_eq_some.mp shown
  obtain ⟨_, whole, _, settled, finishes⟩ := crew_eq_sequential s 8 3 (by decide : 2 ≤ 5)
  obtain ⟨last, steps, finished⟩ := finishes results inTurn _ .refl
  have same := (settled last steps finished).1
  exact ⟨s, results, arranged, inTurn, heat, by decide +kernel, whole, last, steps, finished,
    Except.ok.inj (same.symm.trans inTurn)⟩

end Campaign

end Gremlin
