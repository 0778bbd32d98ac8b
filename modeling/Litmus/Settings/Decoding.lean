import Litmus.Settings.Basic
import Litmus.Settings.Layers
import Litmus.Toml.Document

/-!
From the tree of settings to settings. Fields take more than their own type: a count may be given
as a number with a fraction, a truth value or text, and a truth value as a number or a word.
-/
namespace Litmus

/-- Why settings cannot be loaded. -/
inductive SettingsError where
  /-- The file is not well formed. -/
  | malformed
  /-- A value has a type that its field does not take. -/
  | mistyped
  | run (cause : RunSettingsError)
deriving DecidableEq, Repr

def SettingsError.message : SettingsError → String
  | .malformed => "Build Error"
  | .mistyped => "Parse Error"
  | .run cause => cause.message

namespace Value

def word (s : String) : String := String.ofList (Binary.lower s.toList)

def count? : Value → Option Nat
  | .integer i => if 0 ≤ i then some i.toNat else none
  | .float x => some x.toCount
  | .boolean b => some (if b then 1 else 0)
  | .text s =>
      if ["true", "on", "yes"].contains (word s) then some 1
      else if ["false", "off", "no"].contains (word s) then some 0
      else Text.count? s.toList
  | _ => none

def truth? : Value → Option Bool
  | .boolean b => some b
  | .integer i => some (i ≠ 0)
  | .float x => some (!x.isZero)
  | .text s =>
      if ["1", "true", "on", "yes"].contains (word s) then some true
      else if ["0", "false", "off", "no"].contains (word s) then some false
      else none
  | _ => none

def string? : Value → Option String
  | .text s => some s
  | .boolean b => some s!"{b}"
  | .integer i => some s!"{i}"
  | .float x => some x.render
  | _ => none

/-- A spin style is named by a text, or by the key of a table with one entry. -/
def spinStyle? : Value → Option SpinStyle
  | .text s => SpinStyle.ofName? s
  | .table [(k, _)] => SpinStyle.ofName? k
  | _ => none

/-- An integer that is a count; other types are not taken. -/
def plainCount? : Value → Option Nat
  | .integer i => if 0 ≤ i then some i.toNat else none
  | _ => none

/-- A field of a section: by name in a table, by position in a list. -/
def field? (section_ : Value) (position : Nat) (name : String) : Option Value :=
  match section_ with
  | .table es => es.lookup name
  | .list vs => vs[position]?
  | _ => none

/-- A machine is tagged by its mode. In a list the mode comes first, and nothing follows the
dimensions. -/
def machine? : Value → Option Machine
  | .table es => do
      match ← es.lookup "mode" with
      | .text "detect" => return .detect
      | .text "preset" =>
          let dimension (name : String) : Option Nat := (es.lookup name).bind plainCount?
          return .preset (← dimension "packages") (← dimension "cores_per_package")
            (← dimension "threads_per_core")
      | _ => none
  | .list [.text "detect"] => some .detect
  | .list [.text "preset", p, c, t] => do
      return .preset (← p.plainCount?) (← c.plainCount?) (← t.plainCount?)
  | _ => none

def runSettings? (v : Value) : Option RunSettings := do
  return {
    timeMs := ← (← v.field? 0 "time_ms").count?
    iterations := ← (← v.field? 1 "iterations").count?
    minStride := ← (← v.field? 2 "min_stride").count?
    maxStride := ← (← v.field? 3 "max_stride").count?
    maxFootprintMb := ← (← v.field? 4 "max_footprint_mb").count?
    spinStyle := ← (← v.field? 5 "spin_style").spinStyle?
    pinThreads := ← (← v.field? 6 "pin_threads").truth?
    parallelism := ← (← v.field? 7 "parallelism").count? }

/-- A count that may be absent. -/
def optionalCount? : Value → Option (Option Nat)
  | .absent => some none
  | v => v.count?.map some

/-- The limit may be missing from a table, but not from a list. -/
def maxThreads? (v : Value) : Option (Option Nat) :=
  match v, v.field? 0 "max_threads" with
  | _, some n => n.optionalCount?
  | .table _, none => some none
  | _, none => none

def schedulerSettings? (v : Value) : Option SchedulerSettings := do
  return {
    maxThreads := ← v.maxThreads?
    debug := ← (← v.field? 1 "debug").truth?
    machine := ← (← v.field? 2 "topology").machine? }

def logSettings? (v : Value) : Option LogSettings := do
  return {
    dir := ← (← v.field? 0 "dir").string?
    file := ← (← v.field? 1 "file").string?
    level := ← (← v.field? 2 "level").string? }

def settings? (v : Value) : Option Settings := do
  return {
    run := ← (← v.field? 0 "run").runSettings?
    scheduler := ← (← v.field? 1 "scheduler").schedulerSettings?
    log := ← (← v.field? 2 "logging").logSettings? }

end Value

namespace Settings

/-- The tree of the built-in settings. -/
def defaults : Value :=
  let run : RunSettings := {}
  let log : LogSettings := {}
  .table
    [("run", .table
      [("time_ms", .integer run.timeMs), ("iterations", .integer run.iterations),
        ("min_stride", .integer run.minStride), ("max_stride", .integer run.maxStride),
        ("max_footprint_mb", .integer run.maxFootprintMb),
        ("spin_style", .text run.spinStyle.name), ("pin_threads", .boolean run.pinThreads),
        ("parallelism", .integer run.parallelism)]),
      ("scheduler", .table
        [("debug", .boolean false), ("topology", .table [("mode", .text "detect")])]),
      ("logging", .table
        [("dir", .text log.dir), ("file", .text log.file), ("level", .text log.level)])]

/-- The settings in a tree. -/
def ofTree (tree : Value) : Except SettingsError Settings :=
  match tree.settings? with
  | none => .error .mistyped
  | some s => (s.run.validate.mapError .run).map fun () => s

/-- The settings from the text of a file, if there is one, and the environment. -/
def load (file : Option String) (environment : List (String × String)) :
    Except Fault (Except SettingsError Settings) :=
  match file.elim (some []) Toml.document? with
  | none => .ok (.error .malformed)
  | some layer =>
      (Layers.apply defaults [layer, Layers.ofEnvironment environment]).map ofTree

end Settings
end Litmus
