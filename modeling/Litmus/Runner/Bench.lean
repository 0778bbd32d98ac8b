import Litmus.Error
import Litmus.Host
import Litmus.Scheduler.Journal

/-!
What the runners of a program share: the scheduler, the machine under them, the flag that cancels
all work, the world that the bodies of tests change, and the log.
-/
namespace Litmus

structure Bench (ω : Type) where
  scheduler : Scheduler
  host : Host
  cancelled : Bool := false
  world : ω
  log : Log := []

/-- What happens to a bench while one runner looks away, because other runners work on it, its owner
cancels, or the memory of the machine fills. -/
structure Others (ω : Type) where
  /-- Before an attempt to acquire, by the number of the attempt. -/
  beforeAttempt : Nat → Bench ω → Bench ω
  /-- How many attempts are followed. -/
  patience : Nat
  /-- Before an iteration, by the number of iterations that are done. -/
  beforeIteration : Nat → Bench ω → Bench ω
  /-- Before a placement is handed back. -/
  beforeEnd : Bench ω → Bench ω

/-- Nothing happens; then an attempt that fails will always fail. -/
def Others.idle {ω : Type} : Others ω :=
  { beforeAttempt := fun _ b => b
    patience := 1
    beforeIteration := fun _ b => b
    beforeEnd := fun b => b }

namespace Bench

variable {ω : Type}

def say (b : Bench ω) (lines : Log) : Bench ω := { b with log := b.log ++ lines }

/-- How an attempt to get a placement ends. -/
inductive Acquired where
  | granted (grant : Grant)
  | refused (cause : StressError)
  /-- The scheduler broke off. -/
  | escaped (fault : Fault)
  /-- Still waiting when nothing more is known of the others. -/
  | waiting

/-- Tries until the scheduler grants a class or the work is cancelled. -/
def attempt (others : Others ω) (c : Class) : (left k : Nat) → Bench ω → Bench ω × Acquired
  | 0, _, b => (b, .waiting)
  | left + 1, k, b =>
      let b := others.beforeAttempt k b
      let (after, result) := b.scheduler.tryAcquire c
      let b := { b with scheduler := after }.say (b.scheduler.acquireLog c after result)
      match result with
      | .error refusal => (b, .escaped (.raised refusal.message))
      | .ok (some grant) => (b, .granted grant)
      | .ok none =>
          if b.cancelled then
            (b, .refused (.scheduling s!"cancelled while waiting for {c.render}"))
          else attempt others c left (k + 1) b

/-- Waits for a placement of a class, unless it would not fit even if nothing were taken. -/
def acquire (others : Others ω) (c : Class) (b : Bench ω) : Bench ω × Acquired :=
  if b.scheduler.fitsIdle c then attempt others c others.patience 0 b
  else
    (b, .refused (.scheduling
      s!"class {c.render} cannot be placed on {b.scheduler.maxThreads} owned threads"))

/-- The outcome of a call that hands a grant back. -/
def settled : Except Refusal Unit → Option Fault
  | .ok () => none
  | .error refusal => some (.raised refusal.message)

def release (g : Grant) (b : Bench ω) : Bench ω × Option Fault :=
  let (after, result) := b.scheduler.release g
  ({ b with scheduler := after }.say (Scheduler.releaseLog g after result), settled result)

def quarantine (g : Grant) (b : Bench ω) : Bench ω × Option Fault :=
  let (after, result) := b.scheduler.quarantine g
  ({ b with scheduler := after }.say (Scheduler.quarantineLog g after result), settled result)

end Bench
end Litmus
