/-!
The log: lines with a level and a writer. A line may carry named fields after its message.
-/
namespace Litmus

/-- How much a line matters, from errors down to traces. -/
inductive Level where
  | error | warn | info | debug | trace
deriving DecidableEq, Repr

namespace Level

def name : Level → String
  | .error => "ERROR"
  | .warn => "WARN"
  | .info => "INFO"
  | .debug => "DEBUG"
  | .trace => "TRACE"

/-- The rank of a level: a threshold lets through every level of at most its rank. -/
def rank : Level → Nat
  | .error => 1
  | .warn => 2
  | .info => 3
  | .debug => 4
  | .trace => 5

end Level

/-- The part that writes a line. -/
inductive Writer where
  | program | scheduler | suite | topology | runner | engine | rounds | stride | pinning | settings
  | logging
  /-- The record of a placement that was granted. -/
  | placementAudit
  /-- The record of a run that ended. -/
  | runAudit
deriving DecidableEq, Repr

/-- The name by which a filter speaks of a writer. -/
def Writer.target : Writer → String
  | .program => "stress_core"
  | .scheduler => "stress_forge::scheduler::allocator"
  | .suite => "stress_forge::harness::suite"
  | .topology => "stress_forge::hardware::topology"
  | .runner => "stress_forge::harness::runner"
  | .engine => "stress_forge::harness::engine"
  | .rounds => "stress_forge::harness::round_stats"
  | .stride => "stress_forge::harness::stride"
  | .pinning => "stress_forge::hardware::affinity_manager"
  | .settings => "stress_forge::utils::config_loader"
  | .logging => "stress_forge::utils::logger"
  | .placementAudit => "PLACEMENT_AUDIT"
  | .runAudit => "RUN_AUDIT"

structure LogLine where
  writer : Writer
  level : Level
  message : String
  /-- The names and the texts of the fields. -/
  fields : List (String × String)
deriving DecidableEq, Repr

namespace LogLine

/-- A line without fields. -/
def of (writer : Writer) (level : Level) (message : String) : LogLine :=
  ⟨writer, level, message, []⟩

/-- The message followed by the fields as ` name=value`. -/
def text (line : LogLine) : String :=
  line.fields.foldl (fun text f => text ++ " " ++ f.1 ++ "=" ++ f.2) line.message

def render (line : LogLine) : String :=
  line.level.name ++ " " ++ line.text

/-- Whether a line passes a threshold. -/
def upTo (threshold : Level) (line : LogLine) : Bool :=
  line.level.rank ≤ threshold.rank

end LogLine

abbrev Log := List LogLine

end Litmus
