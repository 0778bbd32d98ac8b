import Litmus.Engine.Machine
import Litmus.Pinning
import Litmus.Runner.Bench
import Litmus.Runner.Result
import Litmus.Settings.Basic
import Litmus.Stride.Rehearsal
import Litmus.Test.Trial

/-!
The runner: runs a test in a placement of a class. A trial comes first, then the search for a
stride range; then the placement is acquired, and the engine runs once for each iteration. The
placement is released at the end, unless roles may still be running on its threads.

How an engine run ends is a parameter, so that what the runner makes of it can be told apart from
the engine itself.
-/
namespace Litmus

/-- How one iteration ends. -/
inductive IterationEnd where
  | notStarted (cause : StressError)
  | joined (tally : Tally Outcome)
  /-- The run failed; some roles may not be gone. -/
  | failed (cause : StressError) (allExited : Bool)
  /-- The launch of the roles broke off, or the merging of what they observed. -/
  | broken (fault : Fault)

/-- One engine run. -/
abbrev Iterate (ω : Type) := Bench ω → Bench ω × IterationEnd

/-- How a run ends. -/
inductive RunEnd where
  | done (result : TestResult)
  | refused (cause : StressError)
  /-- A fault that the runner does not catch. -/
  | escaped (fault : Fault)
  /-- The placement never came. -/
  | waiting

structure Runner where
  settings : RunSettings
  /-- The processors that roles may be bound to; none if roles float. -/
  processors : Option Processors := none

/-- The longest time that the roles of an iteration may take to leave. -/
def watchdogTimeout (time : Span) : Except Fault Span :=
  (time.times 10).map (Span.longer · (.ofSeconds 30))

/-- What the iterations of a run have come to. -/
structure Progress where
  results : Tally Outcome
  iterations : Nat := 0
  status : Status := .normal
  messages : List String := []
  /-- Whether roles may still be running. -/
  stranded : Bool := false

namespace Progress

def note (p : Progress) (messages : List String) : Progress :=
  { p with messages := p.messages ++ messages }

/-- An engine did not start. -/
def unstarted (p : Progress) (cause : StressError) : Progress :=
  { p with status := .testError }.note [cause.message]

/-- An iteration failed. -/
def failed (p : Progress) (cause : StressError) (allExited : Bool) : Progress :=
  let p := { p with stranded := !allExited }
  match cause with
  | .timeout _ =>
      { p with status := .timeoutError }.note
        ["Timeout waiting for tasks to complete", cause.message]
  | _ =>
      { p with status := .testError }.note
        ["Unrecoverable error while running", cause.message]

/-- An iteration ended well. -/
def counted (p : Progress) (tally : Tally Outcome) : Except Fault Progress :=
  (p.results.merge tally).map fun results => { p with results, iterations := p.iterations + 1 }

end Progress

namespace Runner

variable {ω σ : Type}

/-- Runs up to `left` more iterations. The first one that fails ends the run, and so does a
cancellation before an iteration. -/
def iterate (others : Others ω) (engine : Iterate ω) :
    (left : Nat) → Progress → Bench ω → Bench ω × Except Fault Progress
  | 0, p, b => (b, .ok p)
  | left + 1, p, b =>
      let b := others.beforeIteration p.iterations b
      if b.cancelled then (b, .ok (p.note [s!"Cancelled after {p.iterations} iterations"]))
      else
        match engine b with
        | (b, .notStarted cause) => (b, .ok (p.unstarted cause))
        | (b, .failed cause allExited) => (b, .ok (p.failed cause allExited))
        | (b, .broken fault) => (b, .error fault)
        | (b, .joined tally) =>
            match p.counted tally with
            | .error fault => (b, .error fault)
            | .ok p => iterate others engine left p b

/-- The processors that the roles of a grant are to be bound to. -/
def pinPlan (r : Runner) (g : Grant) : PinPlan × Log :=
  match r.processors with
  | none => (.floating, [])
  | some processors =>
      let plan := PinPlan.pinned g.seats
      match processors.validate plan with
      | .ok () => (plan, [])
      | .error e =>
          (.floating, [.of .runner .warn s!"RUNNER: {e.message}. Running unpinned."])

def placementLog (test : String) (g : Grant) : Log :=
  [⟨.placementAudit, .info, "PLACEMENT GRANTED",
    [("test", test), ("ticket", s!"{g.ticket}"), ("class", g.shape.render),
      ("cpus", Text.numbers g.seats)]⟩]

/-- Hands a placement back, and says so if it cannot be used again. -/
def settle (g : Grant) (p : Progress) (b : Bench ω) : Bench ω × Progress × Option Fault :=
  if p.stranded then
    let (b, fault) := b.quarantine g
    (b, p.note ["Role threads still running, placement quarantined"], fault)
  else
    let (b, fault) := b.release g
    (b, p, fault)

/-- Outcomes as they are reported, in their order, each with its count. -/
def render (results : Tally Outcome) : List (String × Nat) :=
  (results.sorted Outcome.precedes).map fun (o, n) => (o.render, n)

/-- The result of a run. -/
def report (t : StressTest ω σ) (c : Class) (g : Grant) (range : StrideRange) (p : Progress) :
    TestResult :=
  let states := render p.results
  { name := t.name
    status := p.status
    shape := c
    cpus := g.seats
    states
    messages := p.messages
    iterations := p.iterations
    range
    grading := grade p.status states t.judge }

/-- Writes the line that reports a result. -/
def conclude (result : TestResult) (b : Bench ω) : Bench ω × RunEnd :=
  match result.log with
  | .error fault => (b, .escaped fault)
  | .ok log => (b.say log, .done result)

/-- The iterations of a test in a placement, until the placement is handed back. A fault that
breaks the iterations off hands it back too. -/
def occupy (r : Runner) (others : Others ω) (engine : Iterate ω) (t : StressTest ω σ) (c : Class)
    (range : StrideRange) (first : Tally Outcome) (g : Grant) (b : Bench ω) : Bench ω × RunEnd :=
  let b := b.say (placementLog t.name g ++ (r.pinPlan g).2)
  match iterate others engine r.settings.iterations { results := first } b with
  | (b, .error fault) => (((others.beforeEnd b).release g).1, .escaped fault)
  | (b, .ok p) =>
      match settle g p (others.beforeEnd b) with
      | (b, _, some fault) => (b, .escaped fault)
      | (b, p, none) => conclude (report t c g range p) b

/-- Runs a test in a placement of a class. `engine` gives one engine run for a plan. -/
def run (r : Runner) (others : Others ω) (engine : EnginePlan ω σ → Iterate ω)
    (t : StressTest ω σ) (c : Class) (b : Bench ω) : Bench ω × RunEnd :=
  if c.size ≠ t.size then
    (b, .refused (.invalidClass
      s!"{c.render} has {c.size} roles, '{t.name}' has {t.size} actors"))
  else
    let trial := t.sanityTrial b.world
    let b := { b with world := trial.world, cancelled := b.cancelled || trial.signals.cancel }
    match trial.result.bind fun o => Tally.empty.record o with
    | .error fault =>
        conclude (.unrun t.name c .checkTestError ["Check test failed", fault.message]) b
    | .ok first =>
        let probe := r.settings.stridePolicy.adjust (t.estimator b.host) (b.world, {})
        let b := { b with
          world := probe.world.1
          cancelled := b.cancelled || probe.world.2.cancel }.say (StridePolicy.adjustLog probe)
        match probe.range with
        | .error fault => (b, .escaped fault)
        | .ok range =>
            match b.acquire others c with
            | (b, .refused cause) => (b, .refused cause)
            | (b, .escaped fault) => (b, .escaped fault)
            | (b, .waiting) => (b, .waiting)
            | (b, .granted g) =>
                r.occupy others (engine ⟨t, range, b.host.memory⟩) t c range first g b

end Runner
end Litmus
