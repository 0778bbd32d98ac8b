import Litmus.Engine.Join
import Litmus.Engine.Schedule

/-!
Runs that an owner watches, from the launch of their roles on: it looks at the state of the run,
stops it, and joins it.
-/
namespace Litmus

variable {ω σ : Type}

namespace EnginePlan

/-- The largest size that the pool can have. -/
def poolBound (p : EnginePlan ω σ) : Nat := Nat.max p.range.least p.range.most

/-- Joins a run with the reports that have arrived. -/
def join (p : EnginePlan ω σ) (e : Engine ω σ) : JoinEnd :=
  (Joining.start p.test.name (p.test.actors.map Actor.name)).collect e.exits.toList

/-- Whether every role has reported. -/
def allReported (p : EnginePlan ω σ) (e : Engine ω σ) : Bool := e.exits.size = p.size

/-- Lets the roles that are not held back go on until all have reported, or for as long as a number
of rounds takes. -/
def finish (p : EnginePlan ω σ) (held : Engine.Held ω σ) (rounds : Nat) (e : Engine ω σ) :
    Engine ω σ :=
  Engine.turnsUntil p held p.allReported (Engine.turnsFor rounds p.poolBound) e

/-- A run that is stopped after some rounds, or as soon as a body cancels, and then goes on until
every role has reported. -/
def runFor (p : EnginePlan ω σ) (rounds : Nat) (start : Engine ω σ) : Engine ω σ :=
  let ended (e : Engine ω σ) : Bool :=
    e.cancelled || e.allExited || rounds ≤ e.stats.publishes
  let e := Engine.turnsUntil p Engine.noneHeld ended (Engine.turnsFor rounds p.poolBound)
    start
  p.finish Engine.noneHeld 1 (e.apply p .stop)

/-- A run that was watched from its start to its end. -/
structure Watched (ω σ : Type) where
  /-- What the owner saw at the start. -/
  before : Engine.Activity
  /-- What it saw before it let the actors run. -/
  asked : Engine.Activity
  final : Engine ω σ
  joined : JoinEnd

/-- Runs until all roles have reported. The owner may stop the run before any actor has run on a
pair. -/
def watch (p : EnginePlan ω σ) (rounds : Nat) (stopFirst : Bool) (start : Engine ω σ) :
    Watched ω σ :=
  let asked :=
    if stopFirst then
      (Engine.turnsUntil p Engine.actorsHeld (fun e => e.allExited || 1 < e.rounds.size)
        (Engine.turnsFor rounds p.poolBound) start).apply p .stop
    else start
  let final := p.finish Engine.noneHeld rounds asked
  { before := start.activity, asked := asked.activity, final, joined := p.join final }

/-- A run that was joined before all of its roles were gone. -/
structure Overdue (ω σ : Type) where
  before : Engine.Activity
  joined : JoinEnd
  /-- When all roles but those held back have left. -/
  left : Engine ω σ
  /-- When those held back were let go. -/
  last : Engine ω σ

/-- Runs with some roles held back, joins when nothing more is to come in time, and then lets the
roles leave. If none is held back, time is up after some rounds. A join that fails aborts. -/
def overrun (p : EnginePlan ω σ) (held : Engine.Held ω σ) (anyHeld : Bool) (rounds : Nat)
    (start : Engine ω σ) : Overdue ω σ :=
  let ended (e : Engine ω σ) : Bool :=
    p.allReported e || (!anyHeld && rounds ≤ e.stats.publishes)
  let late := Engine.turnsUntil p held ended (Engine.turnsFor rounds p.poolBound) start
  let joined := p.join late
  let told := match joined with
    | .merged _ => late
    | _ => { late with control := late.control.abort }
  let left := p.finish held rounds told
  { before := start.activity, joined, left, last := p.finish Engine.noneHeld rounds left }

end EnginePlan
end Litmus
