import Litmus.Error
import Litmus.Log
import Litmus.Text.Bracketed

/-!
Which processor each role of a run is bound to. A run is bound to the processors of its grant, or
it floats. A role that cannot be bound floats too; this is reported and does not stop the run.
-/
namespace Litmus

inductive PinPlan where
  | floating
  /-- The processor of each role. -/
  | pinned (cpus : List Nat)
deriving DecidableEq, Repr

namespace PinPlan

def cpuFor (plan : PinPlan) (role : Nat) : Option Nat :=
  match plan with
  | .floating => none
  | .pinned cpus => cpus[role]?

def render : PinPlan → String
  | .floating => "Unpinned"
  | .pinned cpus => s!"Pinned \x7b cpus: {Text.numbers cpus} \x7d"

end PinPlan

/-- The processors that the program may bind roles to. -/
structure Processors where
  allowed : List Nat
deriving DecidableEq, Repr

namespace Processors

def canPin (p : Processors) (cpu : Nat) : Bool :=
  p.allowed.contains cpu

/-- Whether every processor of a plan is allowed; the first one that is not is named. -/
def validate (p : Processors) : PinPlan → Except StressError Unit
  | .floating => .ok ()
  | .pinned cpus =>
      match cpus.find? (!p.canPin ·) with
      | none => .ok ()
      | some cpu =>
          .error (.scheduling (s!"CPU {cpu} from placement is not pinnable " ++
            s!"(process sees {p.allowed.length} processors)"))

/-- The line that reports why a role floats although its plan names a processor. A processor
that is allowed was refused by the machine. -/
def pinFailureLog (p : Processors) (plan : PinPlan) (role : Nat) : Log :=
  match plan.cpuFor role with
  | none => []
  | some cpu =>
      if p.canPin cpu then
        [.of .pinning .error s!"PINNING_FAIL: Could not pin role {role} to CPU #{cpu}"]
      else
        [.of .pinning .warn
          (s!"AFFINITY_ERROR: CPU #{cpu} for role {role} not in allowed set " ++
            s!"(Total: {p.allowed.length})")]

end Processors
end Litmus
