import Litmus.Engine.Join
import Litmus.Log
import Litmus.Settings.Basic

/-!
The lines that an engine writes when it starts and when it is joined.
-/
namespace Litmus

def EnginePlan.startLog {ω σ : Type} (p : EnginePlan ω σ) (style : SpinStyle) : Log :=
  [.of .engine .info
    (s!"ENGINE: '{p.test.name}' started with {p.size} roles, " ++
      s!"strides [{p.range.least}, {p.range.most}], {style.name} wait")]

/-- The lines of a join, given the statistics of the run. -/
def EnginePlan.joinLog {ω σ : Type} (p : EnginePlan ω σ) (stats : RoundStats) : JoinEnd → Log
  | .merged _ =>
      match stats.report with
      | .ok report =>
          [.of .engine .debug
            (s!"ENGINE: '{p.test.name}' stopped. " ++ "\n".intercalate report)]
      | .error _ => []
  | .broken _ => []
  | .failed (.actorPanicked role _ message) missing =>
      .of .engine .error s!"ENGINE: role {role} of '{p.test.name}' panicked: {message}" ::
        (if missing = 0 then []
        else [.of .engine .warn
          s!"ENGINE: '{p.test.name}' left role threads behind after a panic"])
  | .failed _ missing =>
      [.of .engine .error
        s!"ENGINE: '{p.test.name}' timed out with {missing} roles still running"]

end Litmus
