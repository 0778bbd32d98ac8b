import Litmus.Engine.Pool
import Litmus.Stride.Basic
import Litmus.Test.Basic

/-!
Rehearsals: trial runs of a test on one thread. A rehearsal makes as many pairs as it is asked
for, runs every actor over all of them, and then consumes them one by one.
-/
namespace Litmus

/-- A rehearsal in progress. -/
structure Rehearsal (ω σ : Type) where
  world : ω
  signals : Signals
  pairs : List (Pair σ)
  fault : Option Fault

namespace Rehearsal

variable {ω σ : Type}

/-- Runs a body over pairs in order. The first that breaks off ends the rehearsal. -/
def runAll (body : Body ω σ) (world : ω) (signals : Signals) : List (Pair σ) → Rehearsal ω σ
  | [] => ⟨world, signals, [], none⟩
  | p :: rest =>
      let e := body world p.state p.result
      let signals := signals.or e.signals
      match e.fault with
      | some fault => ⟨e.world, signals, [], some fault⟩
      | none =>
          let r := runAll body e.world signals rest
          { r with pairs := ⟨e.state, e.result⟩ :: r.pairs }

/-- Runs a body over the pairs of a rehearsal, unless that broke off. -/
def andOver (r : Rehearsal ω σ) (body : Body ω σ) : Rehearsal ω σ :=
  match r.fault with
  | some _ => r
  | none => runAll body r.world r.signals r.pairs

/-- Consumes a pair: the arbiter looks at it, and its slots go back to zero. -/
def consume (t : StressTest ω σ) : Body ω σ := fun world state result =>
  let e := t.runArbiter world state result
  { e with result := e.result.reset }

/-- A whole rehearsal on fresh states. -/
def run (t : StressTest ω σ) (world : ω) (signals : Signals) (states : List σ) :
    Rehearsal ω σ :=
  let start : Rehearsal ω σ := ⟨world, signals, states.map (⟨·, t.blank⟩), none⟩
  let acted := (List.range t.size).foldl (fun r role => r.andOver (t.runActor role)) start
  acted.andOver (consume t)

end Rehearsal

/-- The cost of a rehearsal: the memory of its pairs and the time that it takes. The pairs are asked
for before any state is made, and none is made if the machine does not give them. The signals that
bodies raise are kept with the world. -/
def StressTest.estimator {ω σ : Type} (t : StressTest ω σ) (host : Host) :
    Estimator (ω × Signals) :=
  fun (world, signals) size =>
    match host.memory (size * t.pairBytes) with
    | .refused | .tooLarge => ((world, signals), .outOfMemory)
    | .given =>
        match makeStates t.fresh size world with
        | (world, .error fault) => ((world, signals), .broken fault)
        | (world, .ok states) =>
            let r := Rehearsal.run t world signals states
            match r.fault with
            | some fault => ((r.world, r.signals), .broken fault)
            | none => ((r.world, r.signals), .sample (size * t.pairBytes) (host.elapsed size))

end Litmus
