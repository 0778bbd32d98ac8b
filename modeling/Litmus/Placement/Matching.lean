/-!
Matching groups with packages. A group may go to the packages that fit it, and each package takes
one group. A group that finds its packages taken asks their groups to move, along a path on which
no package is visited twice; such a path exists whenever the group can be matched at all.
-/
namespace Litmus.Matching

/-- Who fits where: row `g` tells for each package whether it fits group `g`. -/
abbrev Fits := List (List Bool)

def fits (table : Fits) (group package : Nat) : Bool :=
  ((table[group]?).bind (·[package]?)).getD false

/-- A search in progress. -/
structure Search where
  /-- The group that each package holds. -/
  owner : List (Option Nat)
  visited : List Bool
deriving DecidableEq, Repr

/-- The search before any package has been visited. -/
def Search.start (owner : List (Option Nat)) : Search :=
  ⟨owner, List.replicate owner.length false⟩

/-- Offers the packages of the list to a group until one takes it. `move` tries to find another
package for the group that holds one. -/
def offer (table : Fits) (move : Nat → Search → Bool × Search) (group : Nat) :
    List Nat → Search → Bool × Search
  | [], s => (false, s)
  | p :: rest, s =>
      if fits table group p && s.visited[p]? == some false then
        let s := { s with visited := s.visited.set p true }
        match s.owner[p]? with
        | some (some other) =>
            match move other s with
            | (true, s) => (true, { s with owner := s.owner.set p (some group) })
            | (false, s) => offer table move group rest s
        | _ => (true, { s with owner := s.owner.set p (some group) })
      else offer table move group rest s

/-- Finds a package for `group`, moving at most `depth` other groups in a row. -/
def augment (table : Fits) : Nat → Nat → Search → Bool × Search
  | 0, _, s => (false, s)
  | depth + 1, group, s =>
      offer table (augment table depth) group (List.range s.owner.length) s

/-- Matches one more group, or gives none. A path visits each package at most once, which bounds
its length. -/
def add (table : Fits) (owner : List (Option Nat)) (group : Nat) : Option (List (Option Nat)) :=
  match augment table (owner.length + 1) group (Search.start owner) with
  | (true, s) => some s.owner
  | (false, _) => none

/-- Matches the groups below `groups` with distinct packages that fit them. -/
def complete (table : Fits) (packages groups : Nat) : Option (List (Option Nat)) :=
  (List.range groups).foldlM (add table) (List.replicate packages none)

end Litmus.Matching
