import Litmus.Proofs.Runner.Keeping
import Litmus.Proofs.Runner.Refusals
import Litmus.Proofs.Scheduler.Idle
import Litmus.Proofs.Suite.Answers

/-!
The matrix of a suite: for each test the classes that the owned threads can seat. No run of one of
its jobs is refused for its class, in whatever state the scheduler is when the run begins and
whatever jobs were run before.
-/
namespace Litmus

open Scheduler Floor

variable {ω σ : Type} {others : Others ω} {engine : EnginePlan ω σ → Iterate ω} {s : Scheduler}
  {tests : List (StressTest ω σ)} {job : Job ω σ} {cause : StressError}

/-- The classes that a matrix lists for a test, in the order in which classes are listed. -/
structure MatrixRow (s : Scheduler) (t : StressTest ω σ) (row : List Class) : Prop where
  ordered : row.Sublist (Class.enumerate t.size)
  once : row.Nodup
  exact : ∀ c, c ∈ row ↔ (c.Formed ∧ c.size = t.size) ∧ s.topology.CanSeat s.owned c

/-- The only refusal of a job that can be run: the wait for its placement is cancelled. -/
structure OnlyCancelled (job : Job ω σ) (cause : StressError) : Prop where
  cancelled : cause = cancelError job.shape
  notArity : ∀ text, cause ≠ .invalidClass text
  notPlacement : ∀ (c : Class) (threads : Nat), cause ≠ placementError c threads

namespace Suite

/-- The row of a matrix for one test. -/
def row (s : Scheduler) (t : StressTest ω σ) : List Class := s.localAffinity t.size s.maxThreads

theorem matrixRow (h : s.Balanced) (t : StressTest ω σ) : MatrixRow s t (row s t) := by
  obtain ⟨ordered, once, exact, -⟩ := h.listingRule t.size s.maxThreads
  refine ⟨ordered, once, fun c => ?_⟩
  rw [← List.take_length (l := s.owned), ← maxThreads, ← Nat.min_self s.maxThreads]
  exact exact c

theorem mem_matrix : job ∈ matrix s tests ↔ job.test ∈ tests ∧ job.shape ∈ row s job.test := by
  cases job
  simp [matrix, row]

theorem onlyCancelled (job : Job ω σ) : OnlyCancelled job (cancelError job.shape) :=
  ⟨rfl, nofun, fun c threads => cancelError_ne_placementError _ c threads⟩

/-- A listed job has the right number of roles and passes the check for idle threads. -/
theorem run_of_mem_matrix (h : s.Balanced) (listed : job ∈ matrix s tests) {r : Runner}
    {b : Bench ω} (balanced : b.scheduler.Balanced) (fixed : Fixed s b.scheduler)
    (refused : (r.run others engine job.test job.shape b).2 = .refused cause) :
    OnlyCancelled job cause := by
  obtain ⟨⟨formed, size⟩, seats⟩ :=
    ((matrixRow h job.test).exact job.shape).1 (mem_matrix.1 listed).2
  cases Runner.run_refused refused with
  | arity differs => exact absurd size differs
  | placement never =>
      rw [← fixed.topology, ← fixed.owned, ← balanced.fitsIdle_iff_canSeat formed] at seats
      exact absurd seats (by simp [never])
  | cancelled => exact onlyCancelled job

theorem scheduler_runJob (suite : Suite) (b : Bench ω) (job : Job ω σ) :
    (suite.runJob others engine b job).1.scheduler =
      (suite.runner.run others engine job.test job.shape b).1.scheduler := by
  rw [runJob]
  generalize suite.runner.run others engine job.test job.shape b = after
  obtain ⟨late, ended⟩ := after
  cases ended <;> rfl

/-- The matrix lists for each test, in the order of the tests, each class that it can have on the
owned threads. A run of a listed job is never refused for its class, neither on a bench in whatever
state nor among other jobs that workers run before and meanwhile. -/
theorem matrix_runnable (s : Scheduler) (reachable : s.Reachable) (tests : List (StressTest ω σ)) :
    ((∀ t ∈ tests, MatrixRow s t (row s t)) ∧
      matrix s tests = tests.flatMap fun t => (row s t).map (⟨t, ·⟩)) ∧
    ∀ job ∈ matrix s tests,
      (∀ (r : Runner) (others : Others ω) (engine : EnginePlan ω σ → Iterate ω) (b : Bench ω),
        b.scheduler.Reachable → Fixed s b.scheduler → ∀ cause,
          (r.run others engine job.test job.shape b).2 = .refused cause →
            OnlyCancelled job cause) ∧
      ∀ (suite : Suite) (others : Others ω) (engine : EnginePlan ω σ → Iterate ω)
        (jobs : List (Job ω σ)) (workers : Nat) (moves : List Nat) (b : Bench ω),
        b.scheduler.Reachable → Fixed s b.scheduler → others.Calling →
        (∀ p b, (engine p b).1.scheduler = b.scheduler) → (∀ job ∈ jobs, job.shape.Formed) →
          ∀ ran ∈ suite.ranAlong others engine jobs workers moves b, ran.job = job → ∀ cause,
            ran.ended = .returned (.error cause) → OnlyCancelled job cause := by
  have runs (job : Job ω σ) (listed : job ∈ matrix s tests) (r : Runner) (others : Others ω)
      (engine : EnginePlan ω σ → Iterate ω) (b : Bench ω)
      (state : b.scheduler.Reachable ∧ Fixed s b.scheduler) (cause : StressError)
      (refused : (r.run others engine job.test job.shape b).2 = .refused cause) :
      OnlyCancelled job cause :=
    run_of_mem_matrix reachable.balanced listed state.1.balanced state.2 refused
  refine ⟨⟨fun t _ => matrixRow reachable.balanced t, rfl⟩, fun job listed => ⟨?_, ?_⟩⟩
  · intro r others engine b reached fixed cause refused
    exact runs job listed r others engine b ⟨reached, fixed⟩ cause refused
  · rintro suite others engine jobs workers moves b reached fixed calling quiet formed ran mem rfl
      cause ended
    have keeps (b : Bench ω) (start : b.scheduler.Reachable ∧ Fixed s b.scheduler)
        (job : Job ω σ) (mem : job ∈ jobs) :
        (suite.runJob others engine b job).1.scheduler.Reachable ∧
          Fixed s (suite.runJob others engine b job).1.scheduler := by
      rw [scheduler_runJob]
      exact (keeps_reachable s).run suite.runner calling quiet job.test (formed job mem) start
    obtain ⟨-, late, state, same⟩ :=
      (placed_start jobs workers b).history_keeps keeps ⟨reached, fixed⟩ ran mem
    exact runs ran.job listed suite.runner others engine late state cause
      (refused_of_runJob (same.symm.trans ended))

/-! ### A wait that is cancelled -/

/-- The lopsided machine with all its threads granted. -/
def lopsidedFull : Scheduler :=
  (((lopsidedIdle.tryAcquire lostGrant.shape).1.tryAcquire lostGrant.shape).1.tryAcquire
    lostGrant.shape).1

def fullBench : Bench Unit :=
  { scheduler := lopsidedFull, host := .swift 8, cancelled := true, world := () }

theorem reachable_full : lopsidedFull.Reachable := by
  have described : lopsided.Described := .records lopsided.threads (by cbv)
  have one : lostGrant.shape.Formed := .made [0] [0] (by cbv)
  have idle : lopsidedIdle.Reachable := .start described (by cbv : start? 0 lopsided 3 = _)
  exact ((idle.tryAcquire one).tryAcquire one).tryAcquire one

theorem acquire_full {b : Bench Unit} (table : b.scheduler = lopsidedFull)
    (cancelled : b.cancelled = true) : b.acquire Others.idle lostGrant.shape =
      (b.attempted lostGrant.shape, .refused (cancelError lostGrant.shape)) := by
  have fits : lopsidedFull.fitsIdle lostGrant.shape = true := by cbv
  have declined : (lopsidedFull.tryAcquire lostGrant.shape).2 = .ok none := by cbv
  rw [Bench.acquire, table, if_pos fits, show (Others.idle : Others Unit).patience = 1 from rfl,
    Bench.attempt_succ]
  simp only [Others.idle, table, declined, cancelled, if_true]
  rfl

theorem run_full : (Runner.soloRunner.run Others.idle Runner.stuck Runner.soloTest lostGrant.shape
    fullBench).2 = .refused (cancelError lostGrant.shape) := by
  have prepared : Runner.soloRunner.prepare Runner.soloTest lostGrant.shape fullBench =
      .ready _ (.fixed 1 1) ⟨[(⟨[0]⟩, 1)]⟩ :=
    Runner.prepare_eq_ready (by decide) (by cbv) (by cbv)
  rw [Runner.run_eq, prepared]
  dsimp only
  rw [acquire_full rfl rfl]

theorem matrix_runnable_full :
    (⟨Runner.soloTest, lostGrant.shape⟩ : Job Unit Unit) ∈ matrix lopsidedFull [Runner.soloTest] ∧
      ∃ cause, (Runner.soloRunner.run Others.idle Runner.stuck Runner.soloTest lostGrant.shape
        fullBench).2 = .refused cause ∧
          OnlyCancelled (⟨Runner.soloTest, lostGrant.shape⟩ : Job Unit Unit) cause := by
  have listed : row lopsidedFull Runner.soloTest = [lostGrant.shape] := by cbv
  have member : (⟨Runner.soloTest, lostGrant.shape⟩ : Job Unit Unit) ∈
      matrix lopsidedFull [Runner.soloTest] :=
    mem_matrix.2 ⟨List.mem_singleton_self _, listed ▸ List.mem_singleton_self _⟩
  obtain ⟨-, runs⟩ := matrix_runnable lopsidedFull reachable_full [Runner.soloTest]
  exact ⟨member, _, run_full,
    (runs _ member).1 _ _ _ fullBench reachable_full (.refl _) _ run_full⟩

end Suite
end Litmus
