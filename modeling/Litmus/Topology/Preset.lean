import Litmus.Word
import Litmus.Topology.Basic

/-!
Rectangular machines: every package has the same number of cores and every core the same number
of threads, numbered package by package and core by core.
-/
namespace Litmus.Topology

/-- The bytes that the record of one thread occupies. -/
def recordBytes : Nat := 24

/-- The threads of a rectangular machine in id order. -/
def grid (packages coresPerPackage threadsPerCore : Nat) : List HardwareThread :=
  (List.range (packages * coresPerPackage * threadsPerCore)).map fun id =>
    ⟨id / (coresPerPackage * threadsPerCore), id / threadsPerCore, id⟩

/-- The number of threads, if it is a count and a list of their records can exist. -/
def gridSize (packages coresPerPackage threadsPerCore : Nat) : Except Fault Nat := do
  let cores ← Word.mul packages coresPerPackage
  let size ← Word.mul cores threadsPerCore
  Word.reserve size recordBytes
  return size

/-- The first dimension that is zero, in the order in which they are given. -/
def zeroDimension? (packages coresPerPackage threadsPerCore : Nat) : Option String :=
  ([("packages", packages), ("cores_per_package", coresPerPackage),
    ("threads_per_core", threadsPerCore)].find? fun d => d.2 = 0).map (·.1)

def preset (packages coresPerPackage threadsPerCore : Nat) :
    Except Fault (Except TopologyError Topology) :=
  match zeroDimension? packages coresPerPackage threadsPerCore with
  | some name => .ok (.error (.badDimension name 0))
  | none =>
      (gridSize packages coresPerPackage threadsPerCore).map fun _ =>
        build .preset (grid packages coresPerPackage threadsPerCore)

end Litmus.Topology
