import Litmus.Runner.Basic

/-!
The stages of a run: a trial and a search that need no placement, then the wait for one, then the
iterations in it.
-/
namespace Litmus

variable {ω σ : Type}

/-- How a run comes out of the stages that need no placement. -/
inductive Prepared (ω : Type) where
  | stopped (b : Bench ω) (e : RunEnd)
  | ready (b : Bench ω) (range : StrideRange) (first : Tally Outcome)

def Prepared.bench : Prepared ω → Bench ω
  | .stopped b _ | .ready b _ _ => b

namespace Runner

def search (r : Runner) (t : StressTest ω σ) (b : Bench ω) : Probe (ω × Signals) :=
  r.settings.stridePolicy.adjust (t.estimator b.host) (b.world, {})

def searched (probe : Probe (ω × Signals)) (b : Bench ω) : Bench ω :=
  { b with
    world := probe.world.1
    cancelled := b.cancelled || probe.world.2.cancel }.say (StridePolicy.adjustLog probe)

/-- The bench after the trial of a test. -/
def tried (t : StressTest ω σ) (b : Bench ω) : Bench ω :=
  { b with
    world := (t.sanityTrial b.world).world
    cancelled := b.cancelled || (t.sanityTrial b.world).signals.cancel }

/-- What the trial of a test observes, counted once. -/
def firstTally (t : StressTest ω σ) (b : Bench ω) : Except Fault (Tally Outcome) :=
  (t.sanityTrial b.world).result.bind fun o => Tally.empty.record o

def prepare (r : Runner) (t : StressTest ω σ) (c : Class) (b : Bench ω) : Prepared ω :=
  if c.size ≠ t.size then
    .stopped b (.refused (.invalidClass
      s!"{c.render} has {c.size} roles, '{t.name}' has {t.size} actors"))
  else
    match firstTally t b with
    | .error fault =>
        let failed := conclude
          (.unrun t.name c .checkTestError ["Check test failed", fault.message]) (tried t b)
        .stopped failed.1 failed.2
    | .ok first =>
        let probe := r.search t (tried t b)
        match probe.range with
        | .error fault => .stopped (searched probe (tried t b)) (.escaped fault)
        | .ok range => .ready (searched probe (tried t b)) range first

variable {r : Runner} {others : Others ω} {engine : EnginePlan ω σ → Iterate ω}
  {t : StressTest ω σ} {c : Class} {b : Bench ω}

theorem run_eq : r.run others engine t c b =
    match r.prepare t c b with
    | .stopped b e => (b, e)
    | .ready b range first =>
        match b.acquire others c with
        | (b, .refused cause) => (b, .refused cause)
        | (b, .escaped fault) => (b, .escaped fault)
        | (b, .waiting) => (b, .waiting)
        | (b, .granted g) =>
            r.occupy others (engine ⟨t, range, b.host.memory⟩) t c range first g b := by
  unfold run prepare
  split
  · rfl
  · change (match firstTally t b with | .error fault => _ | .ok first => _) = _
    cases firstTally t b with
    | error fault => rfl
    | ok first =>
        change (match (r.search t (tried t b)).range with | .error fault => _ | .ok range => _) = _
        dsimp only
        cases (r.search t (tried t b)).range with
        | error fault => rfl
        | ok range => rfl

theorem prepare_eq_ready {range : StrideRange} {first : Tally Outcome} (sized : c.size = t.size)
    (counted : firstTally t b = .ok first)
    (found : (r.search t (tried t b)).range = .ok range) :
    r.prepare t c b = .ready (searched (r.search t (tried t b)) (tried t b)) range first := by
  unfold prepare
  rw [if_neg (fun differs => differs sized), counted]
  dsimp only
  rw [found]

theorem scheduler_conclude (result : TestResult) (b : Bench ω) :
    (conclude result b).1.scheduler = b.scheduler := by
  unfold conclude
  split <;> rfl

/-- What needs no placement leaves the scheduler alone. -/
theorem scheduler_prepare : (r.prepare t c b).bench.scheduler = b.scheduler := by
  unfold prepare
  split
  · rfl
  · cases firstTally t b with
    | error fault => exact scheduler_conclude ..
    | ok first =>
        dsimp only
        split <;> rfl

theorem scheduler_ready {b' : Bench ω} {range : StrideRange} {first : Tally Outcome}
    (prepared : r.prepare t c b = .ready b' range first) : b'.scheduler = b.scheduler := by
  have same := scheduler_prepare (r := r) (t := t) (c := c) (b := b)
  rwa [prepared] at same

end Runner
end Litmus
