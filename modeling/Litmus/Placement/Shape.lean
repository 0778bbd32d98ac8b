import Litmus.Class.Basic

/-!
The shape of a class: its roles grouped by core, and the core groups grouped by package. Larger
groups come first, since they are the harder ones to place.
-/
namespace Litmus

/-- The roles that must land in one package. -/
structure PackageGroup where
  /-- The roles of each core group, larger groups first, then by first role. -/
  coreGroups : List (List Nat)
  /-- The number of roles. -/
  demand : Nat
deriving DecidableEq, Repr

structure Shape where
  /-- Larger demands first, then by first role. -/
  groups : List PackageGroup
  roles : Nat
deriving DecidableEq, Repr

namespace Shape

/-- Whether `a` comes no later than `b` when larger sizes come first and ties go by first role. -/
def precedes (a b : Nat × Nat) : Bool :=
  b.1 < a.1 || (a.1 = b.1 && a.2 ≤ b.2)

/-- The roles whose label is `group`, ascending. -/
def rolesIn (ls : List Nat) (group : Nat) : List Nat :=
  (List.range ls.length).filter fun role => ls[role]? = some group

/-- The first role of a core group; a group without roles would come first. -/
def leader (roles : List Nat) : Nat :=
  roles.head?.getD 0

/-- The rank of a core group. -/
def coreKey (roles : List Nat) : Nat × Nat :=
  (roles.length, leader roles)

/-- The rank of a package group. -/
def packageKey (g : PackageGroup) : Nat × Nat :=
  (g.demand, leader (g.coreGroups.head?.getD []))

/-- The package group made of some core groups. -/
def packageGroup (coreGroups : List (List Nat)) : PackageGroup :=
  { coreGroups := coreGroups.mergeSort fun a b => precedes (coreKey a) (coreKey b)
    demand := coreGroups.flatten.length }

def ofClass (c : Class) : Shape :=
  let cores := (List.range c.coreGroups).map (rolesIn c.cores)
  let packages := (List.range c.packageGroups).map fun p =>
    cores.filter fun roles => c.packages[leader roles]? = some p
  { groups := (packages.map packageGroup).mergeSort fun a b =>
      precedes (packageKey a) (packageKey b)
    roles := c.size }

end Shape
end Litmus
