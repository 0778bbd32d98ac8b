import Litmus.Catalog
import Litmus.Console.Filter
import Litmus.Runner.Live
import Litmus.Scheduler.Journal
import Litmus.Settings.Store
import Litmus.Suite.Basic
import Litmus.Topology.Detect
import Litmus.Topology.Preset

/-!
The program: loads the settings, builds the topology and the scheduler, runs the built-in tests in
every placement that they can have, and reports.
-/
namespace Litmus.Console

/-- What the program finds when it starts. -/
structure Surroundings where
  sources : Sources
  /-- The description of the processors, or the reason for which it cannot be read. -/
  processors : Except String ByteArray
  /-- How many processors there are. -/
  processorCount : Nat
  host : Host

/-- How the program ends. -/
structure Report where
  log : Log
  /-- What is said after the log. -/
  errors : List String
  exit : UInt32
  /-- What is said before the log. -/
  complaints : List String := []

/-- The path of the settings file: the first argument, else a variable, else a default. -/
def settingsPath (arguments : List String) (environment : List (String × String)) : String :=
  (arguments.head?.or (environment.lookup "STRESS_CONFIG")).getD "config/stress.toml"

def bootLog (sources : Sources) (settings : Settings) : Log :=
  let path := Text.quoted (sources.path.getD "")
  [.of .logging .info (s!"LOGGER: Initialized non-blocking logging system at " ++
      s!"{settings.log.dir}/{settings.log.file}"),
    .of .program .info s!"STRESS FORGE: Boot sequence initiated (config: {path})"] ++
    sources.effectiveLog settings

/-- The topology that the settings ask for. -/
def topology (around : Surroundings) :
    Machine → Except Fault (Except TopologyError (Topology × Log))
  | .detect =>
      .ok (.ok (Topology.detect "/proc/cpuinfo" around.processors around.processorCount))
  | .preset p c t => (Topology.preset p c t).map fun result => result.map (·, [])

/-- A text at the right of a field of twelve columns. -/
def padded (s : String) : String :=
  String.ofList (List.replicate (12 - s.length) ' ') ++ s

/-- The lines of one result. -/
def resultLog : JobResult → Except Fault Log
  | .ok r => do
      let samples ← r.samples
      let heading := s!"[{r.status.name}] {r.name} {r.shape.render} on {Text.numbers r.cpus}: " ++
        s!"{samples} samples, strides [{r.range.least}, {r.range.most}] cap {r.range.cap.name}"
      let counts := r.states.map fun (outcome, n) => (padded outcome, padded s!"{n}")
      return .of .program .info heading ::
        counts.map fun (outcome, n) => .of .program .info s!"    {outcome}  {n}"
  | .error e => .ok [.of .program .error s!"JOB FAILED: {e.message}"]

def isFailure : JobResult → Bool
  | .ok r => r.status ≠ .normal || !r.passed
  | .error _ => true

/-- The runner of the program. The processors that roles may be bound to are not known. -/
def runner (s : RunSettings) : Runner × Log :=
  let cause := StressError.scheduling "Failed to detect CPU cores topology"
  ({ settings := s },
    if s.pinThreads then [.of .runner .warn s!"RUNNER: {cause.message}. Running unpinned."] else [])

/-- A program that ends with an error. -/
def failure (log : Log) (errors : List String) : Report := { log, errors, exit := 1 }

/-- A program that broke off. -/
def crash (log : Log) (fault : Fault) : Report := { log, errors := [fault.message], exit := 101 }

/-- Runs the suite on a scheduler and reports; `log` is what was written before. -/
def runSuite (rounds : Nat) (host : Host) (settings : Settings) (scheduler : Scheduler)
    (log : Log) : Report :=
  let scheduler := if settings.scheduler.debug then scheduler.enableDebug else scheduler
  let (runner, runnerLog) := runner settings.run
  let suite : Suite := ⟨runner⟩
  let tests : List (StressTest Unit Cells) := Catalog.all
  let jobs := Suite.matrix scheduler tests
  let bench : Bench Unit :=
    { scheduler, host, world := ()
      log := log ++ runnerLog ++
        [.of .program .info s!"SUITE: {tests.length} tests expand to {jobs.length} jobs"] }
  let engine := Runner.live settings.run.spinStyle rounds
  match suite.run Others.idle engine jobs bench with
  | (bench, .error fault) => crash bench.log fault
  | (bench, .ok results) =>
      match results.mapM resultLog with
      | .error fault => crash bench.log fault
      | .ok lines =>
          let failed := results.countP isFailure
          let log := bench.log ++ lines.flatten ++
            [.of .program .info s!"STRESS FORGE: {results.length} jobs, {failed} failed"]
          if failed = 0 then { log, errors := [], exit := 0 }
          else failure log [s!"Error: {failed} of {results.length} jobs failed"]

/-- What the program does with its settings. -/
def runSettings (rounds : Nat) (around : Surroundings) (settings : Settings) : Report :=
  let log := bootLog around.sources settings
  match topology around settings.scheduler.machine with
  | .error fault => crash log fault
  | .ok (.error e) => failure log [s!"Error: {e.message}"]
  | .ok (.ok (t, found)) =>
      let log := log ++ found ++ [.of .program .info s!"TOPOLOGY: {t.describe}"]
      let limit := settings.scheduler.maxThreads.getD t.totalThreads
      match Scheduler.start? 1 t limit with
      | none =>
          let cause := StressError.config "scheduler needs max_threads >= 1"
          failure log [s!"Error: {cause.message}"]
      | some scheduler =>
          runSuite rounds around.host settings scheduler (log ++ scheduler.startLog limit)

/-- The whole program. An iteration takes a number of rounds. -/
def run (rounds : Nat) (around : Surroundings) : Report :=
  match around.sources.load with
  | .error fault => crash [] fault
  | .ok (.error e) =>
      failure [] ["Error: loading configuration", "", "Caused by:", "    " ++ e.message]
  | .ok (.ok settings) =>
      let (filter, complaints) := LogFilter.choose around.sources.environment settings.log.level
      let report := runSettings rounds around settings
      { report with log := report.log.filter filter.shows, complaints }

end Litmus.Console
