import Litmus.Topology.Basic

/-!
Errors as they are reported: a kind, and the detail that the part which failed gives.
-/
namespace Litmus

inductive StressError where
  | config (detail : String)
  | topology (cause : TopologyError)
  | invalidClass (detail : String)
  | scheduling (detail : String)
  /-- The body of an actor broke off while its engine ran. -/
  | actorPanicked (role : Nat) (actor message : String)
  | timeout (detail : String)
  | spawn (detail : String)
  | io (detail : String)
deriving DecidableEq, Repr

/-- The name of the kind. -/
def StressError.kind : StressError → String
  | .config _ => "Config"
  | .topology _ => "Topology"
  | .invalidClass _ => "InvalidClass"
  | .scheduling _ => "Scheduling"
  | .actorPanicked .. => "ActorPanicked"
  | .timeout _ => "Timeout"
  | .spawn _ => "Spawn"
  | .io _ => "Io"

def StressError.message : StressError → String
  | .config detail => "Configuration Error: " ++ detail
  | .topology cause => "Topology Error: " ++ cause.message
  | .invalidClass detail => "Invalid Scheduling Class: " ++ detail
  | .scheduling detail => "Scheduling Failed: " ++ detail
  | .actorPanicked role actor message => s!"Actor Panicked: role {role} ({actor}) | {message}"
  | .timeout detail => "Timeout: " ++ detail
  | .spawn detail => "Thread Spawn Failed: " ++ detail
  | .io detail => "I/O Error: " ++ detail

/-- The error of a kind whose text is all in its detail. -/
def StressError.ofKind? (kind detail : String) : Option StressError :=
  ([.config detail, .invalidClass detail, .scheduling detail, .timeout detail, .spawn detail,
    .io detail] : List StressError).find? fun e => e.kind = kind

end Litmus
