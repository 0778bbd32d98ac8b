import Litmus.Labels
import Litmus.Text.Bracketed
import Litmus.Word

/-!
Scheduling classes: how the roles of a test lie to each other. A class gives each role a package
group and a core group, numbered by first appearance, so that two classes of the same shape are
equal. Roles that share a core share its package.
-/
namespace Litmus

/-- How two roles lie to each other. -/
inductive Affinity where
  | sameCore
  /-- One package, two cores. -/
  | samePackage
  | apart
deriving DecidableEq, Repr

def Affinity.name : Affinity → String
  | .sameCore => "SameCore"
  | .samePackage => "SamePackage"
  | .apart => "DifferentPackage"

structure Class where
  /-- The package group of each role. -/
  packages : List Nat
  /-- The core group of each role. -/
  cores : List Nat
deriving DecidableEq, Repr

/-- Why two lists of labels are no class. -/
inductive ClassError where
  | noRoles
  | lengths (packages cores : Nat)
  /-- Two roles share a core but not a package. -/
  | torn (first second : Nat)
deriving DecidableEq, Repr

def ClassError.message : ClassError → String
  | .noRoles => "class needs at least one actor"
  | .lengths packages cores => s!"packages has {packages} entries, cores has {cores}"
  | .torn first second => s!"roles {first} and {second} share a core but not a package"

namespace Class

/-- The first role after `role` that shares its core label but not its package label. -/
def partner? (package core : Nat) (role : Nat) : List (Nat × Nat) → Option Nat
  | [] => none
  | (p, c) :: rest =>
      if c = core ∧ p ≠ package then some role else partner? package core (role + 1) rest

/-- The first pair of roles, in lexicographic order, that shares a core but not a package;
`role` is the number of the first role of the list. -/
def torn? (role : Nat) : List (Nat × Nat) → Option (Nat × Nat)
  | [] => none
  | (p, c) :: rest =>
      match partner? p c (role + 1) rest with
      | some other => some (role, other)
      | none => torn? (role + 1) rest

/-- The class of two lists of labels, one package label and one core label for each role. -/
def ofLabels (packages cores : List Nat) : Except ClassError Class :=
  if packages.isEmpty then .error .noRoles
  else if packages.length ≠ cores.length then
    .error (.lengths packages.length cores.length)
  else
    match torn? 0 (packages.zip cores) with
    | some (i, j) => .error (.torn i j)
    | none => .ok ⟨labels packages, labels cores⟩

/-- How many bytes a list of labels needs for one. -/
def labelBytes : Nat := 8

/-- Every role on a core of its own, all in one package. -/
def spread (roles : Nat) : Except Fault (Except ClassError Class) := do
  Word.reserve roles labelBytes
  return ofLabels (List.replicate roles 0) (List.range roles)

/-- All roles on one core. -/
def together (roles : Nat) : Except Fault (Except ClassError Class) := do
  Word.reserve roles labelBytes
  return ofLabels (List.replicate roles 0) (List.replicate roles 0)

def size (c : Class) : Nat := c.cores.length

/-- How roles `a` and `b` lie to each other. -/
def relation (c : Class) (a b : Nat) : Except Fault Affinity := do
  let ca ← elementAt c.cores a
  let cb ← elementAt c.cores b
  if ca = cb then return .sameCore
  let pa ← elementAt c.packages a
  let pb ← elementAt c.packages b
  return if pa = pb then .samePackage else .apart

/-- One more than the largest label. -/
def groupCount (ls : List Nat) : Nat :=
  ls.foldr (fun l n => Nat.max (l + 1) n) 0

def coreGroups (c : Class) : Nat := groupCount c.cores

def packageGroups (c : Class) : Nat := groupCount c.packages

def render (c : Class) : String :=
  Text.bracketed ((c.packages.zip c.cores).map fun (p, k) => s!"p{p}c{k}")

/-- Lexicographic order of two lists of numbers. -/
def compareLabels : List Nat → List Nat → Ordering
  | [], [] => .eq
  | [], _ :: _ => .lt
  | _ :: _, [] => .gt
  | a :: as, b :: bs => (compare a b).then (compareLabels as bs)

/-- Classes are ordered by their packages and then by their cores. -/
def compare (a b : Class) : Ordering :=
  (compareLabels a.packages b.packages).then (compareLabels a.cores b.cores)

end Class
end Litmus
