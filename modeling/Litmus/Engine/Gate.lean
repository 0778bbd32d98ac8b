import Litmus.Engine.Pool

/-!
What the roles of a run share in a round: the pool, and two gates that no role passes before all
have arrived. A wait ends when its condition holds, or when the run is aborted; a condition that
holds counts even if the run is aborted.
-/
namespace Litmus

/-- The switches of a run. -/
structure Control where
  /-- The run ends after the round in progress. -/
  stopped : Bool := false
  /-- Roles that wait give up, because a role that they wait for is gone. -/
  aborted : Bool := false
deriving DecidableEq, Repr

namespace Control

def stop (c : Control) : Control := { c with stopped := true }

def alarm (c : Control) : Control := { c with aborted := true }

/-- Aborting stops too, but only after the alarm: a role may look at the switches in between. -/
def abort (c : Control) : Control := c.alarm.stop

/-- One look at a condition that is waited for: passed, given up, or still waiting. -/
def poll (c : Control) (done : Bool) : Option Bool :=
  if done then some true else if c.aborted then some false else none

theorem poll_eq_some_true {c : Control} {done : Bool} : c.poll done = some true ↔ done = true := by
  unfold poll
  cases done <;> cases c.aborted <;> simp

theorem poll_eq_none {c : Control} {done : Bool} :
    c.poll done = none ↔ done = false ∧ c.aborted = false := by
  unfold poll
  cases done <;> cases c.aborted <;> simp

end Control

/-- Looks at a condition again and again: whether it held or the wait was given up, and what the
looks changed. `fuel` bounds the number of looks. -/
def waitUntil {α : Type} (check : α → α × Bool) (givenUp : α → Bool) : Nat → α → Option (Bool × α)
  | 0, _ => none
  | fuel + 1, a =>
      match check a with
      | (a, true) => some (true, a)
      | (a, false) => if givenUp a then some (false, a) else waitUntil check givenUp fuel a

/-- What the roles of a run share in one round. Only the counters of the gates change once it is
published. -/
structure Round where
  /-- Roles that see a stopped round leave. -/
  stopped : Bool
  view : View
  /-- The number of roles. -/
  expected : Nat
  /-- How many roles have not reached the start gate. -/
  notStarted : Nat
  /-- How many roles have passed the start gate. -/
  entered : Nat
  /-- How many roles have not reached the finish gate. -/
  notFinished : Nat
  /-- Whether a role finished before another one entered. -/
  lagged : Bool
deriving DecidableEq, Repr

namespace Round

/-- A round as it is published: no role has reached its gates. -/
def published (stopped : Bool) (view : View) (expected : Nat) : Round :=
  { stopped, view, expected
    notStarted := expected
    entered := 0
    notFinished := expected
    lagged := false }

/-- The first round of a run. Its pool is empty; it counts as lagging, so that the pool grows to
its first size. -/
def initial (expected : Nat) : Round :=
  { published false View.empty expected with lagged := true }

/-! ### The start gate -/

def arrive (r : Round) : Round := { r with notStarted := Word.pred r.notStarted }

def allStarted (r : Round) : Bool := r.notStarted = 0

def enter (r : Round) : Round := { r with entered := r.entered + 1 }

/-! ### The finish gate -/

/-- Whether some role has not entered yet. -/
def isEarly (r : Round) : Bool := r.entered < r.expected

def lag (r : Round) : Round := { r with lagged := true }

def depart (r : Round) : Round := { r with notFinished := Word.pred r.notFinished }

def allFinished (r : Round) : Bool := r.notFinished = 0

/-! ### Passing a gate in one go -/

/-- What a role does after it has arrived at the start gate. -/
def passStart (c : Control) (r : Round) : Round × Option Bool :=
  match c.poll r.allStarted with
  | some true => (r.enter, some true)
  | other => (r, other)

/-- What a role does before it waits at the finish gate. -/
def finish (r : Round) : Round :=
  (if r.isEarly then r.lag else r).depart

/-- What a role does after it has arrived at the finish gate. -/
def passFinish (c : Control) (r : Round) : Option Bool :=
  c.poll r.allFinished

/-- A role at the start gate: whether it passes, gives up, or has to wait. -/
def preRun (c : Control) (r : Round) : Round × Option Bool :=
  r.arrive.passStart c

/-- A role at the finish gate: whether it passes, gives up, or has to wait. -/
def postRun (c : Control) (r : Round) : Round × Option Bool :=
  (r.finish, r.finish.passFinish c)

/-- Several roles at the start gate at once: all of them arrive before any looks. -/
def preRunAll (c : Control) (roles : Nat) (r : Round) : Round × List (Option Bool) :=
  let arrived := roles.repeat arrive r
  (List.range roles).foldl (fun (r, passed) _ =>
    let (r, p) := r.passStart c
    (r, passed ++ [p])) (arrived, [])

/-- Several roles at the finish gate at once. -/
def postRunAll (c : Control) (roles : Nat) (r : Round) : Round × List (Option Bool) :=
  let left := roles.repeat finish r
  (left, List.replicate roles (left.passFinish c))

end Round
end Litmus
