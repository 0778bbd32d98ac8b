import Litmus.Engine.Machine

/-!
One way to run an engine: the roles take turns, one step each, in the order of their numbers. Some
roles may be held back. A run like this is one of the many that the steps allow.
-/
namespace Litmus.Engine

variable {ω σ : Type}

/-- Which roles must not take a step now. -/
abbrev Held (ω σ : Type) := Engine ω σ → Nat → Bool

def noneHeld : Held ω σ := fun _ _ => false

/-- The role that is about to run a body on a pair, and the pair. -/
def aboutToAct (e : Engine ω σ) (r : Nat) : Option (Pair σ) :=
  match e.roles[r]?.map Role.phase with
  | some (.acting (place :: _)) => e.arena[place]?
  | _ => none

/-- Holds back the roles that are about to run their actor. -/
def actorsHeld : Held ω σ := fun e r => (e.aboutToAct r).isSome

/-- One step of every role that is not held back. -/
def turn (p : EnginePlan ω σ) (held : Held ω σ) (e : Engine ω σ) : Engine ω σ :=
  (List.range p.size).foldl (fun e r => if held e r then e else e.apply p (.role r)) e

/-- Turns until something holds; `fuel` bounds their number. -/
def turnsUntil (p : EnginePlan ω σ) (held : Held ω σ) (done : Engine ω σ → Bool) :
    Nat → Engine ω σ → Engine ω σ
  | 0, e => e
  | fuel + 1, e => if done e then e else turnsUntil p held done fuel (turn p held e)

/-- More turns than it takes for a number of rounds with a pool of a given size. -/
def turnsFor (rounds pool : Nat) : Nat := (rounds + 4) * (2 * pool + 60)

end Litmus.Engine
