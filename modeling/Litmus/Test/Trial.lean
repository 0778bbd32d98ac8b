import Litmus.Tally
import Litmus.Test.Basic

/-!
Trials: some actors of a test, one after the other, on one fresh pair. No two of them race, so a
trial shows whether a test works at all.
-/
namespace Litmus

/-- How a trial went. -/
structure Trial (ω : Type) where
  world : ω
  signals : Signals
  /-- The slots that are observed. -/
  result : Except Fault Outcome

namespace StressTest

variable {ω σ : Type}

/-- Runs the listed actors in order and then the arbiter. -/
def trial (t : StressTest ω σ) (roles : List Nat) (world : ω) : Trial ω :=
  match t.fresh world with
  | (world, .error fault) => ⟨world, {}, .error fault⟩
  | (world, .ok state) =>
      let start : Effect ω σ := { world, state, result := t.blank }
      let acted := roles.foldl (fun e role => e.andThen (t.runActor role)) start
      let e := acted.andThen t.runArbiter
      match e.fault with
      | some fault => ⟨e.world, e.signals, .error fault⟩
      | none => ⟨e.world, e.signals, .ok e.result⟩

/-- A trial of every actor once, in role order. -/
def sanityTrial (t : StressTest ω σ) (world : ω) : Trial ω :=
  t.trial (List.range t.size) world

end StressTest
end Litmus
