import Litmus.Stride.Basic

/-!
The settings of a program run: how tests run, which threads the scheduler may hand out, and where
the log goes.
-/
namespace Litmus

/-- What a role does while it waits. -/
inductive SpinStyle where
  /-- Stays on its processor. -/
  | spin
  /-- Gives its processor away after every failed check. -/
  | yield
deriving DecidableEq, Repr

namespace SpinStyle

def name : SpinStyle → String
  | .spin => "spin"
  | .yield => "yield"

def ofName? (s : String) : Option SpinStyle :=
  [SpinStyle.spin, .yield].find? fun style => style.name = s

def variant : SpinStyle → String
  | .spin => "Spin"
  | .yield => "Yield"

end SpinStyle

structure RunSettings where
  /-- The time of one iteration. -/
  timeMs : Nat := 1000
  iterations : Nat := 5
  minStride : Nat := 10
  maxStride : Nat := 10000
  maxFootprintMb : Nat := 100
  spinStyle : SpinStyle := .yield
  pinThreads : Bool := true
  /-- How many jobs of a suite run at a time. -/
  parallelism : Nat := 1
deriving DecidableEq, Repr

/-- Why run settings are refused. -/
inductive RunSettingsError where
  | noTime
  | noIterations
  | noStride
  | strideOrder (least most : Nat)
deriving DecidableEq, Repr

def RunSettingsError.message : RunSettingsError → String
  | .noTime => "run.time_ms must be >= 1"
  | .noIterations => "run.iterations must be >= 1"
  | .noStride => "run.min_stride must be >= 1"
  | .strideOrder least most => s!"run.min_stride ({least}) exceeds run.max_stride ({most})"

namespace RunSettings

/-- The first rule that the settings break. -/
def validate (r : RunSettings) : Except RunSettingsError Unit :=
  if r.timeMs = 0 then .error .noTime
  else if r.iterations = 0 then .error .noIterations
  else if r.minStride = 0 then .error .noStride
  else if r.maxStride < r.minStride then .error (.strideOrder r.minStride r.maxStride)
  else .ok ()

def time (r : RunSettings) : Span := .ofMillis r.timeMs

def stridePolicy (r : RunSettings) : StridePolicy :=
  { least := r.minStride, most := r.maxStride, maxFootprintMb := r.maxFootprintMb
    timeBudget := r.time }

/-- All fields by name. -/
def render (r : RunSettings) : String :=
  s!"RunConfig \x7b time_ms: {r.timeMs}, iterations: {r.iterations}, " ++
    s!"min_stride: {r.minStride}, max_stride: {r.maxStride}, " ++
    s!"max_footprint_mb: {r.maxFootprintMb}, spin_style: {r.spinStyle.variant}, " ++
    s!"pin_threads: {r.pinThreads}, parallelism: {r.parallelism} \x7d"

end RunSettings

/-- Where the topology comes from. -/
inductive Machine where
  | detect
  | preset (packages coresPerPackage threadsPerCore : Nat)
deriving DecidableEq, Repr

def Machine.render : Machine → String
  | .detect => "Detect"
  | .preset p c t =>
      s!"Preset \x7b packages: {p}, cores_per_package: {c}, threads_per_core: {t} \x7d"

structure SchedulerSettings where
  /-- None stands for all threads of the machine. -/
  maxThreads : Option Nat := none
  debug : Bool := false
  machine : Machine := .detect
deriving DecidableEq, Repr

def SchedulerSettings.render (s : SchedulerSettings) : String :=
  let limit := match s.maxThreads with
    | none => "None"
    | some n => s!"Some({n})"
  s!"SchedulerConfig \x7b max_threads: {limit}, debug: {s.debug}, " ++
    s!"topology: {s.machine.render} \x7d"

structure LogSettings where
  dir : String := "./logs"
  file : String := "stress_core.log"
  level : String := "info"
deriving DecidableEq, Repr

structure Settings where
  run : RunSettings := {}
  scheduler : SchedulerSettings := {}
  log : LogSettings := {}
deriving DecidableEq, Repr

end Litmus
