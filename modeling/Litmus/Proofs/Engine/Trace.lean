import Litmus.Engine.Machine
import Mathlib.Data.List.Basic

/-!
What happens in a run, as a list of events in the order of the moves. The events are read off the
state and the move alone; the run itself keeps no record of them.
-/
namespace Litmus

/-- The points that a role passes once in every round that it runs. -/
inductive Mark where
  | loaded
  | arrived
  | entered
  | departed
  /-- The finish gate let the role through. -/
  | cleared
  /-- The role has consumed its slice and counted itself in at the barrier. -/
  | finished
deriving DecidableEq, Repr

inductive Event (ω σ : Type) where
  | passed (r : Nat) (mark : Mark) (k : Nat)
  /-- An actor was called on a pair, in a given world. -/
  | acted (r k place : Nat) (world : ω) (pair : Pair σ)
  /-- The arbiter was called on a pair, in a given world. -/
  | consumed (r k place : Nat) (world : ω) (pair : Pair σ)
  /-- A pair was made ready for a round, with a state that was made in a given world. -/
  | made (k place : Nat) (world : ω) (pair : Pair σ)
  | recorded (r k : Nat)
  | stored (r k : Nat)
  /-- A role saw a stopped round. -/
  | left (r k : Nat)
  | gaveUp (r : Nat)
  | broke (r : Nat)

/-- The worlds in which states are made one after the other. -/
def worldsOf {ω σ : Type} (fresh : ω → ω × Except Fault σ) : Nat → ω → List ω
  | 0, _ => []
  | n + 1, world => world :: worldsOf fresh n (fresh world).1

/-- The events of pairs that stand one after the other, from a place on. -/
def madeFrom {ω σ : Type} (k place : Nat) (made : List (ω × Pair σ)) : List (Event ω σ) :=
  (made.zipIdx place).map fun ((world, pair), place) => .made k place world pair

namespace Engine

variable {ω σ : Type}

/-- The pool that the role that closes a round publishes. -/
def growth (p : EnginePlan ω σ) (e : Engine ω σ) (role : Role) :
    ω × Except Fault (View × Arena σ) :=
  let round := e.roundAt role.round
  round.view.grow p.memory (p.range.growTarget round.view.size round.lagged) p.test.pairBytes
    p.test.blank p.test.fresh e.world e.arena

/-- The pairs that were added to the arena, and the worlds in which their states were made. -/
def added (p : EnginePlan ω σ) (e : Engine ω σ) (arena : Arena σ) : List (ω × Pair σ) :=
  (worldsOf p.test.fresh (arena.size - e.arena.size) e.world).zip
    (arena.toList.drop e.arena.size)

/-- What happens when a role takes its next step. -/
def eventsOfStep (p : EnginePlan ω σ) (e : Engine ω σ) (r : Nat) (role : Role) :
    List (Event ω σ) :=
  match role.phase with
  | .loading =>
      if (e.roundAt e.current).stopped then [.left r e.current]
      else [.passed r .loaded e.current]
  | .arriving => [.passed r .arrived role.round]
  | .waiting .finish false =>
      if e.isOpen role .finish then
        match consumeSlice r p.size (e.roundAt role.round).view.size with
        | .ok _ => [.passed r .cleared role.round]
        | .error _ => []
      else []
  | .waiting _ false => []
  | .waiting _ true => if e.control.aborted then [.gaveUp r] else []
  | .entering => [.passed r .entered role.round]
  | .acting (place :: _) =>
      match e.arena[place]? with
      | some pair => [.acted r role.round place e.world pair]
      | none => []
  | .acting [] => []
  | .lagging => []
  | .departing => [.passed r .departed role.round]
  | .consuming (place :: _) =>
      match e.arena[place]? with
      | none => []
      | some pair =>
          .consumed r role.round place e.world pair ::
            match e.consume p place role.tally with
            | (e₁, .ok _) =>
                let judged := (p.test.runArbiter e.world pair.state pair.result).world
                (e₁.arena[place]?).toList.map (.made (role.round + 1) place judged)
            | (_, .error _) => []
  | .consuming [] => [.passed r .finished role.round]
  | .growing =>
      match e.growth p role with
      | (_, .ok (_, arena)) =>
          .recorded r (role.base / (p.size + 1)) ::
            madeFrom (role.round + 1) e.arena.size (e.added p arena)
      | (_, .error _) => []
  | .sampling _ => []
  | .storing _ _ => [.stored r role.round]
  | .releasing => []
  | .dying _ => [.broke r]
  | .halting _ => []
  | .leaving _ => []
  | .reporting _ => []
  | .gone => []

def eventsOf (p : EnginePlan ω σ) (e : Engine ω σ) : Move → List (Event ω σ)
  | .role r =>
      match e.roles[r]? with
      | some role => e.eventsOfStep p r role
      | none => []
  | _ => []

/-- What happens during a list of moves. -/
def trace (p : EnginePlan ω σ) : Engine ω σ → List Move → List (Event ω σ)
  | _, [] => []
  | e, m :: ms => e.eventsOf p m ++ trace p (e.apply p m) ms

@[simp] theorem run_nil (p : EnginePlan ω σ) (e : Engine ω σ) : e.run p [] = e :=
  rfl

@[simp] theorem run_cons (p : EnginePlan ω σ) (e : Engine ω σ) (m : Move) (ms : List Move) :
    e.run p (m :: ms) = (e.apply p m).run p ms :=
  rfl

theorem run_append (p : EnginePlan ω σ) (e : Engine ω σ) (ms ms' : List Move) :
    e.run p (ms ++ ms') = (e.run p ms).run p ms' :=
  List.foldl_append

theorem trace_append (p : EnginePlan ω σ) (e : Engine ω σ) (ms ms' : List Move) :
    e.trace p (ms ++ ms') = e.trace p ms ++ (e.run p ms).trace p ms' := by
  induction ms generalizing e with
  | nil => rfl
  | cons m ms ih => rw [List.cons_append, trace, ih, trace, List.append_assoc, run_cons]

/-- What each move keeps, a run keeps. -/
theorem run_keeps {p : EnginePlan ω σ} {P : Engine ω σ → List (Event ω σ) → Prop}
    {ms : List Move} (step : ∀ m ∈ ms, ∀ e tr, P e tr → P (e.apply p m) (tr ++ e.eventsOf p m))
    {e : Engine ω σ} {tr : List (Event ω σ)} (init : P e tr) :
    P (e.run p ms) (tr ++ e.trace p ms) := by
  induction ms generalizing e tr with
  | nil => simpa [trace] using init
  | cons m ms ih =>
      have later := ih (fun m hm => step m (by simp [hm])) (step m (by simp) e tr init)
      rwa [List.append_assoc] at later

end Engine
end Litmus
