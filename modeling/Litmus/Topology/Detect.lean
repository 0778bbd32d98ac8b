import Litmus.Log
import Litmus.Topology.Cpuinfo

/-!
The topology of the machine that the program runs on, from what the machine says about its
processors. If that is of no use, all processors count as cores of one package.
-/
namespace Litmus.Topology

/-- Cores of one thread each, in one package. -/
def flat (processors : Nat) : Topology :=
  { origin := .fallback
    threads := (List.range processors).map fun t => ⟨0, t, t⟩
    coreThreads := (List.range processors).map ([·])
    packageCores := [List.range processors] }

/-- The topology of a machine with a number of processors, at least one, given the description of
them or the reason for which it cannot be read; and the line that says what was found. -/
def detect (path : String) (contents : Except String ByteArray) (processors : Nat) :
    Topology × Log :=
  match Cpuinfo.ofFile path contents with
  | .ok t =>
      (t, [.of .topology .info
        (s!"TOPOLOGY: Detected {t.totalPackages} packages, {t.totalCores} cores, " ++
          s!"{t.totalThreads} threads.")])
  | .error e =>
      (flat (Nat.max processors 1), [.of .topology .warn
        s!"TOPOLOGY: cpuinfo unusable ({e.message}). Falling back to flat topology."])

end Litmus.Topology
