/-!
Workers on a queue of jobs. Each worker takes the job at the head of the queue, runs it, sends what
came of it with the number of the job, and goes on until the queue is empty. These three steps of
the workers may interleave in any way; the answers are put back into the order of the jobs.
-/
namespace Litmus

/-- What becomes of a job that is run. -/
inductive JobEnd (β : Type) where
  | returned (value : β)
  /-- The worker broke off with the job. -/
  | escaped
  /-- The job never ends. -/
  | waiting

inductive Worker (α β : Type) where
  | idle
  /-- Has taken a job and not run it yet. -/
  | busy (idx : Nat) (job : α)
  /-- Has run a job and not sent the answer yet. -/
  | answering (idx : Nat) (value : β)
  /-- Found the queue empty. -/
  | home
  | brokenOff
  | stuck
deriving DecidableEq, Repr

/-- The state of all workers. -/
structure Floor (ω α β : Type) where
  queue : List (Nat × α)
  workers : List (Worker α β)
  /-- What was sent, in order of arrival. -/
  sent : List (Nat × β)
  /-- What the jobs share. -/
  shared : ω

namespace Floor

variable {ω α β : Type}

/-- The floor before any worker has moved. -/
def start (jobs : List α) (workers : Nat) (shared : ω) : Floor ω α β :=
  { queue := jobs.mapIdx fun idx job => (idx, job)
    workers := List.replicate workers .idle
    sent := []
    shared }

def put (f : Floor ω α β) (w : Nat) (worker : Worker α β) : Floor ω α β :=
  { f with workers := f.workers.set w worker }

/-- One step of a worker: it takes a job, runs the job that it has, or sends the answer. -/
def step (run : ω → α → ω × JobEnd β) (f : Floor ω α β) (w : Nat) : Floor ω α β :=
  match f.workers[w]? with
  | some .idle =>
      match f.queue with
      | [] => f.put w .home
      | (idx, job) :: rest => { f with queue := rest }.put w (.busy idx job)
  | some (.busy idx job) =>
      match run f.shared job with
      | (shared, .returned value) => { f with shared }.put w (.answering idx value)
      | (shared, .escaped) => { f with shared }.put w .brokenOff
      | (shared, .waiting) => { f with shared }.put w .stuck
  | some (.answering idx value) => { f with sent := f.sent ++ [(idx, value)] }.put w .idle
  | _ => f

/-- The floor after the listed workers have moved in turn. -/
def runSteps (run : ω → α → ω × JobEnd β) (f : Floor ω α β) (moves : List Nat) : Floor ω α β :=
  moves.foldl (step run) f

/-- Whether a worker broke off. -/
def isBroken (f : Floor ω α β) : Bool :=
  f.workers.any fun
    | .brokenOff => true
    | _ => false

/-- The answer to each of the jobs, in job order; `missing` stands where none arrived. -/
def answers (f : Floor ω α β) (jobs : Nat) (missing : β) : List β :=
  (List.range jobs).map fun idx => (f.sent.reverse.lookup idx).getD missing

/-- An interleaving that lets every job be run: the workers move in turn, often enough. -/
def inTurn (jobs workers : Nat) : List Nat :=
  (List.replicate (3 * jobs + 1) (List.range workers)).flatten

end Floor
end Litmus
