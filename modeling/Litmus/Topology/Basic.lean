import Litmus.Fault
import Litmus.Text.Bracketed

/-!
The hardware of a machine: threads grouped into cores, cores grouped into packages. All ids are
dense and start at zero, so the tables below are lists that are looked up by position.
-/
namespace Litmus

/-- One hardware thread and the core and package that it belongs to. -/
structure HardwareThread where
  package : Nat
  core : Nat
  id : Nat
deriving DecidableEq, Repr, Inhabited

/-- Where the description of a machine came from. -/
inductive Origin where
  | preset | records | cpuinfo | fallback
deriving DecidableEq, Repr

def Origin.name : Origin → String
  | .preset => "Preset"
  | .records => "Records"
  | .cpuinfo => "Cpuinfo"
  | .fallback => "Fallback"

structure Topology where
  origin : Origin
  /-- By thread id. -/
  threads : List HardwareThread
  /-- The threads of each core, ascending. -/
  coreThreads : List (List Nat)
  /-- The cores of each package, ascending. -/
  packageCores : List (List Nat)
deriving DecidableEq, Repr

/-- Why a description is no topology. -/
inductive TopologyError where
  | empty
  | badDimension (name : String) (value : Nat)
  | sparse (expected found : Nat)
  | duplicate (thread : Nat)
  /-- The core is claimed by two packages, in thread order. -/
  | spanning (core first second : Nat)
  | malformed (line : Nat) (reason : String)
  | missing (processor : Nat) (field : String)
  | unreadable (reason : String)
deriving DecidableEq, Repr

/-- The name of the kind. -/
def TopologyError.kind : TopologyError → String
  | .empty => "Empty"
  | .badDimension .. => "InvalidDimension"
  | .sparse .. => "SparseThreadIds"
  | .duplicate _ => "DuplicateThread"
  | .spanning .. => "CoreSpansPackages"
  | .malformed .. => "MalformedLine"
  | .missing .. => "MissingField"
  | .unreadable _ => "Unreadable"

def TopologyError.message : TopologyError → String
  | .empty => "topology has no hardware threads"
  | .badDimension name value => s!"invalid preset dimension: {name} = {value}"
  | .sparse expected found =>
      s!"thread ids are not dense: expected {expected}, found {found}"
  | .duplicate thread => s!"duplicate thread id {thread}"
  | .spanning core first second =>
      s!"core {core} is claimed by packages {first} and {second}"
  | .malformed line reason => s!"line {line}: {reason}"
  | .missing processor field => s!"processor {processor} is missing field `{field}`"
  | .unreadable reason => s!"cannot read topology source: {reason}"

namespace Topology

def totalThreads (t : Topology) : Nat := t.threads.length

def totalCores (t : Topology) : Nat := t.coreThreads.length

def totalPackages (t : Topology) : Nat := t.packageCores.length

/-- The thread with a given id. -/
def thread (t : Topology) (id : Nat) : Except Fault HardwareThread :=
  match t.threads[id]? with
  | some th => .ok th
  | none => .error (.unknownThread id t.totalThreads)

def packageOf (t : Topology) (id : Nat) : Except Fault Nat :=
  (t.thread id).map (·.package)

def coreOf (t : Topology) (id : Nat) : Except Fault Nat :=
  (t.thread id).map (·.core)

/-- The threads of a core; a core that does not exist has none. -/
def threadsOf (t : Topology) (core : Nat) : List Nat :=
  (t.coreThreads[core]?).getD []

/-- The cores of a package; a package that does not exist has none. -/
def coresOf (t : Topology) (package : Nat) : List Nat :=
  (t.packageCores[package]?).getD []

def describe (t : Topology) : String :=
  s!"{t.origin.name} topology: {t.totalPackages} package(s), {t.totalCores} core(s), " ++
    s!"{t.totalThreads} thread(s)"

/-- A number put into a strictly ascending list, unless it is there. -/
def insertAscending (n : Nat) : List Nat → List Nat
  | [] => [n]
  | m :: ms =>
      if n < m then n :: m :: ms
      else if n = m then m :: ms
      else m :: insertAscending n ms

/-- The distinct numbers of a list, ascending. -/
def ascending (ns : List Nat) : List Nat :=
  ns.foldr insertAscending []

/-- The first thread id that two neighbours share. -/
def duplicate? : List HardwareThread → Option Nat
  | a :: b :: rest => if a.id = b.id then some a.id else duplicate? (b :: rest)
  | _ => none

/-- The first place whose thread has another id, counted from `expected`. -/
def gap? (expected : Nat) : List HardwareThread → Option (Nat × Nat)
  | [] => none
  | th :: rest => if th.id = expected then gap? (expected + 1) rest else some (expected, th.id)

/-- The first thread whose core an earlier thread gave to another package: the core and the two
packages. `claims` holds the owners so far. -/
def spanning? (claims : List (Nat × Nat)) : List HardwareThread → Option (Nat × Nat × Nat)
  | [] => none
  | th :: rest =>
      match claims.lookup th.core with
      | none => spanning? ((th.core, th.package) :: claims) rest
      | some owner =>
          if owner = th.package then spanning? claims rest
          else some (th.core, owner, th.package)

/-- Packages and cores get dense numbers that keep the order of their ids. -/
def renumber (threads : List HardwareThread) : List HardwareThread :=
  let packages := ascending (threads.map (·.package))
  let cores := ascending (threads.map (·.core))
  threads.map fun th => ⟨packages.idxOf th.package, cores.idxOf th.core, th.id⟩

/-- A table of `n` lists. Each item goes to the end of the list whose number stands before it. -/
def fill (n : Nat) (items : List (Nat × Nat)) : List (List Nat) :=
  items.foldl (fun table (k, item) => table.modify k (· ++ [item])) (List.replicate n [])

/-- The tables over threads in id order whose numbers are dense. -/
def ofDense (origin : Origin) (threads : List HardwareThread) : Topology :=
  let cores := (ascending (threads.map (·.core))).length
  let packages := (ascending (threads.map (·.package))).length
  let owners := (List.range cores).map fun c =>
    ((threads.find? (·.core = c)).map (·.package)).getD 0
  { origin, threads
    coreThreads := fill cores (threads.map fun th => (th.core, th.id))
    packageCores := fill packages owners.zipIdx }

/-- A topology from threads in any order. Thread ids must be dense and distinct, and a core must
lie in one package. Of several defects, a repeated thread is reported before a gap, and both
before a core in two packages. -/
def build (origin : Origin) (raw : List HardwareThread) : Except TopologyError Topology :=
  if raw.isEmpty then .error .empty
  else
    let sorted := raw.mergeSort fun a b => a.id ≤ b.id
    match duplicate? sorted with
    | some id => .error (.duplicate id)
    | none =>
        match gap? 0 sorted with
        | some (expected, found) => .error (.sparse expected found)
        | none =>
            match spanning? [] sorted with
            | some (core, first, second) => .error (.spanning core first second)
            | none => .ok (ofDense origin (renumber sorted))

def ofRecords (raw : List HardwareThread) : Except TopologyError Topology :=
  build .records raw

end Topology
end Litmus
