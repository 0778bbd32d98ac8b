import Litmus.Log
import Litmus.Scheduler.Basic

/-!
What a scheduler writes to the log: its size when it starts, every quarantine, refused classes,
and in debug mode every grant and release.
-/
namespace Litmus.Scheduler

/-- The lines of a scheduler that has just started with an order for `maxThreads` threads. -/
def startLog (s : Scheduler) (maxThreads : Nat) : Log :=
  let total := s.topology.totalThreads
  let clamped := if total < maxThreads then
      [.of .scheduler .warn
        s!"SCHEDULER: max_threads {maxThreads} exceeds topology ({total}). Clamping."]
    else []
  clamped ++
    [.of .scheduler .info
      (s!"SCHEDULER: Owning {s.owned.length} of {total} hardware threads " ++
        s!"({s.topology.describe}).")]

/-- The lines of an attempt to acquire, from the table before and after it. -/
def acquireLog (before : Scheduler) (c : Class) (after : Scheduler)
    (result : Except Refusal (Option Grant)) : Log :=
  if before.freeCount < c.size then
    [.of .scheduler .trace
      s!"SCHEDULER: {c.render} rejected, only {before.freeCount} threads free"]
  else
    match result with
    | .ok (some g) =>
        if after.debug then
          [.of .scheduler .debug s!"SCHEDULER: acquired {g.render} ({after.freeCount} free)"]
        else []
    | _ => []

def releaseLog (g : Grant) (after : Scheduler) (result : Except Refusal Unit) : Log :=
  match result with
  | .ok () =>
      if after.debug then
        [.of .scheduler .debug s!"SCHEDULER: released {g.render} ({after.freeCount} free)"]
      else []
  | .error _ => []

def quarantineLog (g : Grant) (after : Scheduler) (result : Except Refusal Unit) : Log :=
  match result with
  | .ok () =>
      [.of .scheduler .warn
        (s!"SCHEDULER: PLACEMENT_QUARANTINED {g.render} ({after.freeCount} free, " ++
          s!"{after.quarantined} quarantined)")]
  | .error _ => []

end Litmus.Scheduler
