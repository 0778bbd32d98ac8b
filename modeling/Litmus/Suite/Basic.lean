import Litmus.Runner.Basic
import Litmus.Suite.Floor

/-!
Suites: tests in every placement that they can have. The jobs of a suite share nothing but the
bench, and their results come back in job order.
-/
namespace Litmus

structure Job (ω σ : Type) where
  test : StressTest ω σ
  shape : Class

/-- What a job gives. -/
abbrev JobResult := Except StressError TestResult

structure Suite where
  runner : Runner

namespace Suite

variable {ω σ : Type}

/-- How many workers a suite may have. -/
def parallelism (s : Suite) : Nat := Nat.max s.runner.settings.parallelism 1

/-- Every test with every class that it can have on the owned threads. -/
def matrix (scheduler : Scheduler) (tests : List (StressTest ω σ)) : List (Job ω σ) :=
  tests.flatMap fun t =>
    (scheduler.localAffinity t.size scheduler.maxThreads).map fun shape => ⟨t, shape⟩

/-- The line that a worker writes about a job that was refused. -/
def refusalLog (job : Job ω σ) (cause : StressError) : Log :=
  [.of .suite .error
    s!"SUITE: '{job.test.name}' on {job.shape.render} failed: {cause.message}"]

/-- Runs one job. -/
def runJob (s : Suite) (others : Others ω) (engine : EnginePlan ω σ → Iterate ω)
    (b : Bench ω) (job : Job ω σ) : Bench ω × JobEnd JobResult :=
  match s.runner.run others engine job.test job.shape b with
  | (b, .done result) => (b, .returned (.ok result))
  | (b, .refused cause) => (b.say (refusalLog job cause), .returned (.error cause))
  | (b, .escaped _) => (b, .escaped)
  | (b, .waiting) => (b, .waiting)

/-- Stands where a job has no result. -/
def neverRun : JobResult := .error (.spawn "job was never run")

/-- The line that announces a suite. -/
def startLog (s : Suite) (jobs : Nat) : Log :=
  [.of .suite .info s!"SUITE: {jobs} jobs on {s.parallelism} driver threads"]

/-- How many workers run a number of jobs. -/
def workers (s : Suite) (jobs : Nat) : Nat := Nat.min s.parallelism (Nat.max jobs 1)

/-- Runs jobs with workers that move in turn. A worker that breaks off breaks the suite off. -/
def run (s : Suite) (others : Others ω) (engine : EnginePlan ω σ → Iterate ω)
    (jobs : List (Job ω σ)) (b : Bench ω) : Bench ω × Except Fault (List JobResult) :=
  let n := jobs.length
  let floor := (Floor.start jobs (s.workers n) (b.say (s.startLog n))).runSteps
    (s.runJob others engine) (Floor.inTurn n (s.workers n))
  (floor.shared,
    if floor.isBroken then .error (.raised "a scoped thread panicked")
    else .ok (floor.answers n neverRun))

end Suite
end Litmus
