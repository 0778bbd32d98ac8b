import Litmus.Proofs.Runner.Refusals
import Litmus.Proofs.Runner.Settlement
import Litmus.Proofs.Suite.Floor
import Litmus.Suite.Basic

/-!
The results of a suite. However the steps of its workers interleave, as long as every job that is
run returns, each job is run once, all workers come home, and the results are those of the jobs, in
job order; none of them says that its job was never run.
-/
namespace Litmus

namespace Floor

variable {ω α β : Type} {run : ω → α → ω × JobEnd β} {f : Floor ω α β} {i : Nat} {jobs : List α}
  {past : List (JobRun α β)} {moves : List Nat}

/-- Results that are complete and in job order. -/
structure AllInOrder (jobs : List α) (past : List (JobRun α β)) (missing : β) (results : List β) :
    Prop where
  length : results.length = jobs.length
  inOrder : ∀ (i : Nat) (job : α), jobs[i]? = some job →
    ∃ value, ⟨i, job, .returned value⟩ ∈ past ∧ results[i]? = some value
  present : missing ∉ results

namespace Placed

/-- No job is run twice, and none under the number of another. -/
theorem subperm (h : Placed jobs f past) : (past.map JobRun.ticket).Subperm (Floor.tickets jobs) :=
  ((List.sublist_append_right _ _).trans (List.sublist_append_right _ _)).subperm.trans
    h.tickets.subperm

theorem nodup_past (h : Placed jobs f past) : (past.map JobRun.idx).Nodup := by
  obtain ⟨listed, perm, sublist⟩ := h.subperm
  have numbers := perm.map Prod.fst
  rw [List.map_map] at numbers
  exact numbers.nodup_iff.1 ((nodup_tickets jobs).sublist (sublist.map _))

theorem nodup_sent (h : Placed jobs f past) : (f.sent.map (·.1)).Nodup := by
  have apart : (past.filterMap JobRun.answer?).Pairwise fun a b => a.1 ≠ b.1 := by
    refine List.pairwise_filterMap.2 ((List.pairwise_map.1 h.nodup_past).imp ?_)
    rintro r r' differ a ha a' ha' same
    obtain ⟨_, -, rfl⟩ := Option.map_eq_some_iff.1 ha
    obtain ⟨_, -, rfl⟩ := Option.map_eq_some_iff.1 ha'
    exact differ same
  have all := (h.answers.map Prod.fst).nodup_iff.2 (List.pairwise_map.2 apart)
  rw [List.map_append] at all
  exact all.of_append_right

/-- When all workers are home there is nothing left on the floor. -/
theorem of_closed (h : Placed jobs f past) (closed : f.Closed) (staffed : 0 < f.workers.length) :
    (past.map JobRun.ticket).Perm (Floor.tickets jobs) ∧
      f.sent.Perm (past.filterMap JobRun.answer?) := by
  have home := List.getElem_mem staffed
  rw [closed _ home] at home
  have tickets := h.tickets
  have answers := h.answers
  rw [h.drained home, List.filterMap_eq_nil_iff.2 fun worker mem => by rw [closed _ mem]; rfl]
    at tickets
  rw [List.filterMap_eq_nil_iff.2 fun worker mem => by rw [closed _ mem]; rfl] at answers
  exact ⟨tickets, answers⟩

/-- When all workers are home and every job returned, the answer to each job is at its place. -/
theorem getElem?_answers (h : Placed jobs f past) (closed : f.Closed)
    (staffed : 0 < f.workers.length) (returns : Returns past) (missing : β) {job : α}
    (listed : jobs[i]? = some job) :
    ∃ value, ⟨i, job, .returned value⟩ ∈ past ∧
      (f.answers jobs.length missing)[i]? = some value := by
  obtain ⟨all, arrived⟩ := h.of_closed closed staffed
  obtain ⟨r, mem, ticket⟩ := List.mem_map.1 (all.mem_iff.2 (mem_tickets.2 listed))
  obtain ⟨rfl, rfl⟩ := Prod.mk.inj ticket
  obtain ⟨value, returned⟩ := returns r mem
  have answer : r.answer? = some (r.idx, value) := by rw [JobRun.answer?, returned]; rfl
  have sent : (r.idx, value) ∈ f.sent.reverse :=
    List.mem_reverse.2 (arrived.mem_iff.2 (List.mem_filterMap.2 ⟨r, mem, answer⟩))
  have numbers : (f.sent.reverse.map (·.1)).Nodup := by
    rw [List.map_reverse]
    exact List.nodup_reverse.2 h.nodup_sent
  have inside := (List.getElem?_eq_some_iff.1 listed).1
  refine ⟨value, returned ▸ mem, ?_⟩
  rw [Floor.answers, List.getElem?_map, List.getElem?_range inside, Option.map_some,
    (lookup_eq_some_iff numbers).2 sent, Option.getD_some]

theorem reports (h : Placed jobs f past) (closed : f.Closed) (staffed : 0 < f.workers.length)
    (returns : Returns past) {missing : β} (differs : ∀ r ∈ past, r.ended ≠ .returned missing) :
    AllInOrder jobs past missing (f.answers jobs.length missing) := by
  have inOrder (i : Nat) (job : α) (listed : jobs[i]? = some job) :=
    h.getElem?_answers closed staffed returns missing listed
  have length : (f.answers jobs.length missing).length = jobs.length := by simp [Floor.answers]
  refine ⟨length, inOrder, fun mem => ?_⟩
  obtain ⟨i, inside, heq⟩ := List.getElem_of_mem mem
  obtain ⟨value, ran, answer⟩ :=
    inOrder i _ (List.getElem?_eq_getElem (Nat.lt_of_lt_of_eq inside length))
  rw [List.getElem?_eq_getElem inside, heq] at answer
  exact differs _ ran (Option.some.inj answer ▸ rfl)

end Placed

/-- What becomes of some workers along moves in which each job that they run returns. -/
structure Delivers (jobs : List α) (workers : Nat) (moves : List Nat) (missing : β)
    (past : List (JobRun α β)) (f : Floor ω α β) : Prop where
  /-- No job is run twice, and none under the number of another. -/
  once : (past.map JobRun.ticket).Subperm (tickets jobs)
  unbroken : f.isBroken = false
  /-- Nobody waits for anybody: a worker that has had enough turns is home. -/
  ends : (∀ w < workers, 3 * jobs.length + 1 ≤ moves.count w) → f.Closed
  all : f.Closed → (past.map JobRun.ticket).Perm (tickets jobs)
  reports : f.Closed → AllInOrder jobs past missing (f.answers jobs.length missing)

theorem isBroken_eq_false (h : f.Working) : f.isBroken = false := by
  refine List.any_eq_false.2 fun worker mem broken => ?_
  cases worker with
  | brokenOff => exact (h _ mem).1 rfl
  | idle | busy | answering | home | stuck => simp at broken

theorem working_start (jobs : List α) (workers : Nat) (shared : ω) :
    (start jobs workers shared : Floor ω α β).Working := by
  intro worker mem
  obtain rfl := List.eq_of_mem_replicate mem
  exact ⟨nofun, nofun⟩

theorem toGo_start {workers w : Nat} (hired : w < workers) (jobs : List α) (shared : ω) :
    (start jobs workers shared : Floor ω α β).toGo w = 3 * jobs.length + 1 := by
  have found : (start jobs workers shared : Floor ω α β).workers[w]? = some .idle := by
    simp [start, hired]
  rw [toGo_of_found found]
  simp [start, Worker.toGo]

theorem delivers {workers : Nat} (staffed : 0 < workers) {shared : ω} {missing : β}
    (differs : ∀ shared job, (run shared job).2 ≠ .returned missing)
    (returns : Returns ((start jobs workers shared).history run moves)) :
    Delivers jobs workers moves missing ((start jobs workers shared).history run moves)
      ((start jobs workers shared).runSteps run moves) := by
  have first := placed_start (β := β) jobs workers shared
  have placed : Placed jobs _ ((start jobs workers shared).history run moves) := first.steps moves
  obtain ⟨working, closer⟩ := first.toGo_steps (working_start jobs workers shared) returns
  have size : (start jobs workers shared : Floor ω α β).workers.length = workers :=
    List.length_replicate
  have stays := (length_runSteps run (start jobs workers shared) moves).trans size
  have manned := Nat.lt_of_lt_of_eq staffed stays.symm
  have present : ∀ r ∈ (start jobs workers shared).history run moves,
      r.ended ≠ .returned missing := by
    intro r mem never
    obtain ⟨-, late, ended⟩ := first.history_ran r mem
    exact differs late r.job (ended.symm.trans never)
  refine ⟨placed.subperm, isBroken_eq_false working, fun often => ?_,
    fun closed => (placed.of_closed closed manned).1,
    fun closed => placed.reports closed manned returns present⟩
  intro worker mem
  obtain ⟨w, inside, rfl⟩ := List.getElem_of_mem mem
  have hired : w < workers := Nat.lt_of_lt_of_eq inside stays
  have closer := closer w (Nat.lt_of_lt_of_eq hired size.symm)
  have often := often w hired
  rw [toGo_start hired] at closer
  exact home_of_toGo working inside (by omega)

theorem count_inTurn {jobs workers : Nat} (hired : i < workers) :
    (inTurn jobs workers).count i = 3 * jobs + 1 := by
  have once : (List.range workers).count i = 1 :=
    List.count_eq_one_of_mem List.nodup_range (List.mem_range.2 hired)
  simp [inTurn, List.count_flatten, once]

end Floor

namespace Suite

open Floor

variable {ω σ : Type} {others : Others ω} {engine : EnginePlan ω σ → Iterate ω}

theorem refused_of_runJob {s : Suite} {b : Bench ω} {job : Job ω σ} {cause : StressError}
    (h : (s.runJob others engine b job).2 = .returned (.error cause)) :
    (s.runner.run others engine job.test job.shape b).2 = .refused cause := by
  unfold runJob at h
  split at h
  · simp at h
  · next ran =>
    obtain rfl := Except.error.inj (JobEnd.returned.inj h)
    exact congrArg Prod.snd ran
  · simp at h
  · simp at h

/-- No run is refused for a cause like that of a job without a result. -/
theorem runJob_ne_neverRun (s : Suite) (b : Bench ω) (job : Job ω σ) :
    (s.runJob others engine b job).2 ≠ .returned neverRun := by
  intro never
  have refuses := Runner.run_refused (refused_of_runJob never)
  cases refuses

theorem runJob_of_done {s : Suite} {b : Bench ω} {job : Job ω σ} {result : TestResult}
    (ran : (s.runner.run others engine job.test job.shape b).2 = .done result) :
    (s.runJob others engine b job).2 = .returned (.ok result) := by
  unfold runJob
  cases whole : s.runner.run others engine job.test job.shape b with
  | mk late ended =>
      rw [whole] at ran
      obtain rfl : ended = .done result := ran
      rfl

/-- The workers of a suite after some moves. -/
def floorAfter (s : Suite) (others : Others ω) (engine : EnginePlan ω σ → Iterate ω)
    (jobs : List (Job ω σ)) (workers : Nat) (moves : List Nat) (b : Bench ω) :
    Floor (Bench ω) (Job ω σ) JobResult :=
  (start jobs workers b).runSteps (s.runJob others engine) moves

/-- The jobs that they have run then. -/
def ranAlong (s : Suite) (others : Others ω) (engine : EnginePlan ω σ → Iterate ω)
    (jobs : List (Job ω σ)) (workers : Nat) (moves : List Nat) (b : Bench ω) :
    List (JobRun (Job ω σ) JobResult) :=
  (start jobs workers b).history (s.runJob others engine) moves

/-- The jobs that a suite runs. -/
def ranInTurn (s : Suite) (others : Others ω) (engine : EnginePlan ω σ → Iterate ω)
    (jobs : List (Job ω σ)) (b : Bench ω) : List (JobRun (Job ω σ) JobResult) :=
  let workers := s.workers jobs.length
  s.ranAlong others engine jobs workers (inTurn jobs.length workers)
    (b.say (s.startLog jobs.length))

/-- However the workers of a suite interleave, if every job that they run returns, no job is run
twice, workers that have enough turns come home, and then each job was run and the results are those
of the jobs in their order. A suite lets its workers move in turn, and has such results. -/
theorem results_in_order (s : Suite) (others : Others ω) (engine : EnginePlan ω σ → Iterate ω)
    (jobs : List (Job ω σ)) (b : Bench ω) :
    (∀ (workers : Nat) (moves : List Nat), 0 < workers →
      Returns (s.ranAlong others engine jobs workers moves b) →
        Delivers jobs workers moves neverRun (s.ranAlong others engine jobs workers moves b)
          (s.floorAfter others engine jobs workers moves b)) ∧
    (Returns (s.ranInTurn others engine jobs b) →
      ∃ results, (s.run others engine jobs b).2 = .ok results ∧
        AllInOrder jobs (s.ranInTurn others engine jobs b) neverRun results) := by
  have all (b : Bench ω) (workers : Nat) (moves : List Nat) (staffed : 0 < workers)
      (returns : Returns (s.ranAlong others engine jobs workers moves b)) :
      Delivers jobs workers moves neverRun (s.ranAlong others engine jobs workers moves b)
        (s.floorAfter others engine jobs workers moves b) :=
    delivers staffed (s.runJob_ne_neverRun) returns
  refine ⟨all b, fun returns => ?_⟩
  have staffed : 0 < s.workers jobs.length :=
    Nat.lt_min.2 ⟨Nat.le_max_right _ _, Nat.le_max_right _ _⟩
  have done := all _ _ _ staffed returns
  have closed := done.ends fun w hired => Nat.le_of_eq (count_inTurn hired).symm
  exact ⟨_, if_neg (Bool.not_eq_true _ ▸ done.unbroken), done.reports closed⟩

/-! ### Two jobs -/

/-- A test that cannot make a state. -/
def voidTest : StressTest Unit Unit :=
  { Runner.soloTest with name := "void", fresh := fun w => (w, .error (.raised "no state")) }

/-- A job whose trial fails, and one with a class of too many roles. -/
def voidJobs : List (Job Unit Unit) :=
  [⟨voidTest, lostGrant.shape⟩, ⟨voidTest, Scheduler.lopsidedGrant.shape⟩]

def voidSuite : Suite := ⟨Runner.soloRunner⟩

theorem runJob_void (b : Bench Unit) : ∀ job ∈ voidJobs, ∃ value,
    (voidSuite.runJob Others.idle Runner.stuck b job).2 = .returned value := by
  have trial : Runner.firstTally voidTest b = .error (.raised "no state") := rfl
  have ran : (voidSuite.runner.run Others.idle Runner.stuck voidTest lostGrant.shape b).2 =
      .done (.unrun "void" lostGrant.shape .checkTestError ["Check test failed", "no state"]) := by
    rw [Runner.run_eq, Runner.prepare, if_neg (by decide), trial]
    exact Runner.conclude_done (by simp [TestResult.unrun]) _
  have done : (voidSuite.runJob Others.idle Runner.stuck b ⟨voidTest, lostGrant.shape⟩).2 = _ :=
    runJob_of_done ran
  exact List.forall_mem_cons.2 ⟨⟨_, done⟩, List.forall_mem_singleton.2 ⟨_, rfl⟩⟩

theorem returns_void (workers : Nat) (moves : List Nat) (b : Bench Unit) :
    Returns (voidSuite.ranAlong Others.idle Runner.stuck voidJobs workers moves b) := by
  intro r mem
  obtain ⟨listed, late, ended⟩ := (placed_start voidJobs workers b).history_ran r mem
  exact ended ▸ runJob_void late r.job listed

/-- One worker may do both jobs before the other one moves. -/
theorem results_in_order_void :
    AllInOrder voidJobs (voidSuite.ranAlong Others.idle Runner.stuck voidJobs 2
        (List.replicate 7 1 ++ List.replicate 7 0) Runner.soloBench) neverRun
      ((voidSuite.floorAfter Others.idle Runner.stuck voidJobs 2
        (List.replicate 7 1 ++ List.replicate 7 0) Runner.soloBench).answers 2 neverRun) ∧
    ∃ results, (voidSuite.run Others.idle Runner.stuck voidJobs Runner.soloBench).2 = .ok results ∧
      results.length = 2 ∧ neverRun ∉ results := by
  obtain ⟨along, inTurn⟩ :=
    voidSuite.results_in_order Others.idle Runner.stuck voidJobs Runner.soloBench
  have done := along 2 (List.replicate 7 1 ++ List.replicate 7 0) (by decide) (returns_void _ _ _)
  obtain ⟨results, ran, reports⟩ := inTurn (returns_void _ _ _)
  exact ⟨done.reports (done.ends (by decide)), results, ran, reports.length, reports.present⟩

end Suite
end Litmus
