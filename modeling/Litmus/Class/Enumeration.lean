import Litmus.Class.Basic

/-!
All classes with a given number of roles: every way to put the roles on cores, and for each of
them every way to put the cores into packages. A partition is written as a growth string, which
numbers its blocks by first appearance.
-/
namespace Litmus.Class

/-- The ways to continue a growth string with `n` more labels when `groups` labels are in use, in
lexicographic order. -/
def growthsFrom : Nat → Nat → List (List Nat)
  | 0, _ => [[]]
  | n + 1, groups =>
      (List.range (groups + 1)).flatMap fun label =>
        (growthsFrom n (Nat.max groups (label + 1))).map (label :: ·)

/-- The growth strings of length `n`; there is none of length zero. -/
def growths (n : Nat) : List (List Nat) :=
  if n = 0 then [] else growthsFrom n 0

/-- The class of core groups `cores` when core group `k` lies in package group `packageOf k`. -/
def ofGroups (cores packageOf : List Nat) : Class :=
  ⟨cores.map fun k => (packageOf[k]?).getD 0, cores⟩

/-- Every class with a given number of roles, ordered by its cores and then by its packages. -/
def enumerate (roles : Nat) : List Class :=
  (growths roles).flatMap fun cores =>
    (growths (groupCount cores)).map (ofGroups cores)

end Litmus.Class
