import Litmus.Engine.Journal
import Litmus.Engine.Supervision
import Litmus.Runner.Basic

/-!
Iterations on a real engine whose roles take turns. The time of an iteration is given as a number
of rounds; it ends early when a body cancels.
-/
namespace Litmus

variable {ω σ : Type}

namespace Runner

/-- The end of an iteration from the end of a join. -/
def endOf (e : Engine ω σ) : JoinEnd → IterationEnd
  | .merged tally => .joined tally
  | .broken fault => .broken fault
  | .failed cause _ => .failed cause e.allExited

/-- One iteration of some rounds. -/
def live (style : SpinStyle) (rounds : Nat) (p : EnginePlan ω σ) : Iterate ω := fun b =>
  match p.start b.world with
  | .error fault => (b, .broken fault)
  | .ok start =>
      let e := p.runFor rounds start
      let joined := p.join e
      ({ b with world := e.world, cancelled := b.cancelled || e.cancelled }.say
          (p.startLog style ++ p.joinLog e.stats joined),
        endOf e joined)

end Runner
end Litmus
