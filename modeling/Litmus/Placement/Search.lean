import Litmus.Placement.Matching
import Litmus.Placement.Shape
import Litmus.Topology.Basic

/-!
The search for a placement: free threads for the roles of a shape such that every two roles lie to
each other as their class says. Inside a package the largest core group takes the core with the
most free threads, the next group the next core, and so on; packages are found by matching.
-/
namespace Litmus.Placement

/-- Which threads are free, by thread id. -/
abbrev FreeSet := List Bool

def isFree (free : FreeSet) (thread : Nat) : Bool :=
  (free[thread]?).getD false

/-- The free threads, ascending. -/
def freeThreads (free : FreeSet) : List Nat :=
  (List.range free.length).filter (isFree free)

theorem mem_freeThreads {free : FreeSet} {t : Nat} :
    t ∈ freeThreads free ↔ isFree free t = true := by
  unfold freeThreads
  simp only [List.mem_filter, List.mem_range, and_iff_right_iff_imp]
  intro h
  rcases Nat.lt_or_ge t free.length with hlt | hge
  · exact hlt
  · simp [isFree, List.getElem?_eq_none hge] at h

def countFree (free : FreeSet) : Nat :=
  free.count true

/-- The threads of a list marked as free or taken. -/
def mark (free : FreeSet) (value : Bool) (threads : List Nat) : FreeSet :=
  threads.foldl (fun f t => f.set t value) free

@[simp] theorem length_mark (free : FreeSet) (value : Bool) (threads : List Nat) :
    (mark free value threads).length = free.length := by
  induction threads generalizing free with
  | nil => rfl
  | cons t rest ih => simp [mark] at ih ⊢; simp [ih]

theorem isFree_mark (free : FreeSet) (value : Bool) (threads : List Nat) (t : Nat) :
    isFree (mark free value threads) t =
      if t ∈ threads ∧ t < free.length then value else isFree free t := by
  induction threads generalizing free with
  | nil => simp [mark]
  | cons u rest ih =>
      have := ih (free.set u value)
      simp only [mark, List.foldl_cons, List.length_set] at this ⊢
      rw [this]
      by_cases ht : t < free.length
      · by_cases hu : u = t
        · subst hu
          simp [isFree, ht]
        · simp [isFree, ht, hu, Ne.symm hu]
      · by_cases hu : u = t
        · subst hu
          simp [isFree, ht]
        · simp [isFree, ht]

/-- The free threads of a core, ascending. -/
def freeOf (t : Topology) (free : FreeSet) (core : Nat) : List Nat :=
  (t.threadsOf core).filter (isFree free)

/-- The free threads of the cores of a package that have some, most free threads first, then by
core id. -/
def rankedCores (t : Topology) (free : FreeSet) (package : Nat) : List (List Nat) :=
  let cores := ((t.coresOf package).map fun c => (c, freeOf t free c)).filter (!·.2.isEmpty)
  (cores.mergeSort fun a b => Shape.precedes (a.2.length, a.1) (b.2.length, b.1)).map (·.2)

/-- Whether each core group has a core of its own with enough free threads, pairing group sizes
and cores from the largest down. -/
def hosts (cores : List (List Nat)) (g : PackageGroup) : Bool :=
  g.coreGroups.length ≤ cores.length &&
    (g.coreGroups.zip cores).all fun (roles, threads) => roles.length ≤ threads.length

/-- The thread of each role of a package group that its cores host. -/
def seats (cores : List (List Nat)) (g : PackageGroup) : List (Nat × Nat) :=
  (g.coreGroups.zip cores).flatMap fun (roles, threads) => roles.zip threads

/-- The thread of each role of a shape, where a matching gives the group of each package. -/
def assignment (shape : Shape) (ranked : List (List (List Nat)))
    (owner : List (Option Nat)) : List (Nat × Nat) :=
  (ranked.zip owner).flatMap fun (cores, holder) =>
    match holder.bind (shape.groups[·]?) with
    | some g => seats cores g
    | none => []

/-- The threads of the roles in role order, if every role has one. -/
def inRoleOrder (roles : Nat) (seats : List (Nat × Nat)) : Option (List Nat) :=
  (List.range roles).mapM fun role => seats.lookup role

/-- A thread for each role of a shape, or none if the free threads cannot host it. -/
def find (t : Topology) (free : FreeSet) (shape : Shape) : Option (List Nat) :=
  if countFree free < shape.roles then none
  else
    let ranked := (List.range t.totalPackages).map (rankedCores t free)
    let table := shape.groups.map fun g => ranked.map (hosts · g)
    (Matching.complete table t.totalPackages shape.groups.length).bind fun owner =>
      inRoleOrder shape.roles (assignment shape ranked owner)

end Litmus.Placement
