import Litmus.Topology.Basic

/-!
The order in which a scheduler picks the threads it owns: the first threads of all cores before
the second threads of any, and from package to package in turn.
-/
namespace Litmus.Topology

/-- The length of the longest list. -/
def longest (xss : List (List Nat)) : Nat :=
  xss.foldr (fun xs n => Nat.max xs.length n) 0

/-- The thread in a given slot of a given core of a package, counting cores inside the package. -/
def threadIn? (t : Topology) (slot core package : Nat) : Option Nat :=
  ((t.coresOf package)[core]?).bind fun c => (t.threadsOf c)[slot]?

/-- All threads of a machine, spread as widely as possible from the start. -/
def spread (t : Topology) : List Nat :=
  (List.range (longest t.coreThreads)).flatMap fun slot =>
    (List.range (longest t.packageCores)).flatMap fun core =>
      (List.range t.totalPackages).filterMap (t.threadIn? slot core)

/-- Picks one more thread. The pick that makes `limit` threads is thrown, for nothing is looked at
after it. -/
def pick (limit : Nat) (picked : List Nat) (thread : Nat) : Except (List Nat) (List Nat) :=
  let picked := picked ++ [thread]
  if picked.length = limit then throw picked else return picked

/-- Picks the thread in a given slot of a given core of a package, if there is one. -/
def pickIn (t : Topology) (limit slot core : Nat) (picked : List Nat) (package : Nat) :
    Except (List Nat) (List Nat) :=
  match t.threadIn? slot core package with
  | some thread => pick limit picked thread
  | none => return picked

/-- Picks threads from slot to slot, from core to core and from package to package. -/
def pickAll (t : Topology) (limit : Nat) : Except (List Nat) (List Nat) := do
  let mut picked := []
  for slot in List.range (longest t.coreThreads) do
    for core in List.range (longest t.packageCores) do
      for package in List.range t.totalPackages do
        picked ← t.pickIn limit slot core picked package
  return picked

/-- The first `limit` threads in spread order. -/
def spreadOrder (t : Topology) (limit : Nat) : List Nat :=
  match t.pickAll limit with
  | .ok picked | .error picked => picked

end Litmus.Topology
