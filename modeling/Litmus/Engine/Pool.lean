import Litmus.Host
import Litmus.Outcome

/-!
The pool of pairs that the roles of a run work on. All pairs lie in one arena and keep their place
for ever. A view lists the places of one round in segments; growing a view adds a segment of new
pairs, so an older view and a newer one see the same pair at the same index.
-/
namespace Litmus

/-- A work item: the state that the actors race on, and the slots that they fill. -/
structure Pair (σ : Type) where
  state : σ
  result : Outcome
deriving Repr, Inhabited

/-- All pairs ever made, by place. -/
abbrev Arena (σ : Type) := Array (Pair σ)

structure View where
  /-- The places of each segment. -/
  segments : List (List Nat)
  /-- The index of the first pair of each segment. -/
  starts : List Nat
  size : Nat
deriving DecidableEq, Repr, Inhabited

namespace View

def empty : View := ⟨[], [], 0⟩

def isEmpty (v : View) : Bool := v.size = 0

/-- The places of all pairs, in order. -/
def places (v : View) : List Nat := v.segments.flatten

/-- The places at the indices from `first` up to, but not including, `last`. -/
def range (v : View) (first last : Nat) : List Nat :=
  (v.places.drop first).take (min last v.size - first)

/-- The place at an index, if the view reaches it: its segment is the last one that starts no
later. -/
def place? (v : View) (idx : Nat) : Except Fault (Option Nat) :=
  if v.size ≤ idx then .ok none
  else do
    let segment ← Word.sub (v.starts.takeWhile (· ≤ idx)).length 1
    let places ← elementAt v.segments segment
    let start ← elementAt v.starts segment
    let offset ← Word.sub idx start
    return some (← elementAt places offset)

/-- How many new pairs a view needs to have a given size. -/
def missing (v : View) (size : Nat) : Nat := size - v.size

/-- A view of at least the given size. New pairs come last; the first of them lies at
`place`. -/
def grown (v : View) (size place : Nat) : View :=
  if size ≤ v.size then v
  else
    { segments := v.segments ++ [List.range' place (v.missing size)]
      starts := v.starts ++ [v.size]
      size }

@[simp] theorem size_grown (v : View) (size place : Nat) :
    (v.grown size place).size = max size v.size := by
  unfold grown
  split
  case isTrue h => exact (Nat.max_eq_right h).symm
  case isFalse h => exact (Nat.max_eq_left (Nat.le_of_not_le h)).symm

/-- A view of at least the given size, unless its new pairs, of `pairBytes` each, are more than one
block of memory can hold. A machine that has no room for a block that it could hold ends the whole
program, and no run goes on from there. -/
def allot (v : View) (memory : Memory) (size place pairBytes : Nat) : Except Fault View :=
  if v.size < size ∧ memory (v.missing size * pairBytes) = .tooLarge then .error .layout
  else .ok (v.grown size place)

theorem allot_eq_ok {v w : View} {memory : Memory} {size place pairBytes : Nat} :
    v.allot memory size place pairBytes = .ok w ↔
      (v.size < size → memory (v.missing size * pairBytes) ≠ .tooLarge) ∧
        v.grown size place = w := by
  unfold allot
  split
  case isTrue h => simp [h.1, h.2]
  case isFalse h =>
    rw [Except.ok.injEq]
    exact (and_iff_right (not_and.1 h)).symm

theorem allot_ok {v : View} {memory : Memory} {size pairBytes : Nat}
    (room : v.size < size → memory (v.missing size * pairBytes) = .given) (place : Nat) :
    v.allot memory size place pairBytes = .ok (v.grown size place) := by
  refine allot_eq_ok.2 ⟨fun grows => ?_, rfl⟩
  rw [room grows]
  exact nofun

theorem places_grown (v : View) (size place : Nat) :
    (v.grown size place).places = v.places ++ List.range' place (v.missing size) := by
  unfold grown
  split
  case isTrue h => simp [missing, Nat.sub_eq_zero_of_le h]
  case isFalse => simp [places]

end View

/-- Makes `n` states one after the other. What the makings share moves on with each of them, and
the first one that breaks off ends it. -/
def makeStates {ω σ : Type} (fresh : ω → ω × Except Fault σ) : Nat → ω → ω × Except Fault (List σ)
  | 0, world => (world, .ok [])
  | n + 1, world =>
      match fresh world with
      | (world, .error fault) => (world, .error fault)
      | (world, .ok state) =>
          let (world, rest) := makeStates fresh n world
          (world, rest.map (state :: ·))

theorem length_of_makeStates {ω σ : Type} {fresh : ω → ω × Except Fault σ} {n : Nat} {w w' : ω}
    {states : List σ} (h : makeStates fresh n w = (w', .ok states)) : states.length = n := by
  induction n generalizing w w' states with
  | zero =>
      simp only [makeStates, Prod.mk.injEq, Except.ok.injEq] at h
      simp [← h.2]
  | succ n ih =>
      unfold makeStates at h
      split at h
      · simp at h
      · next w₁ s _ =>
        cases hr : makeStates fresh n w₁ with
        | mk w₂ rest =>
            cases rest with
            | error f => simp [hr, Except.map] at h
            | ok more =>
                simp only [hr, Except.map, Prod.mk.injEq, Except.ok.injEq] at h
                simp [← h.2, ih hr]

/-- Grows a view. The new pairs get fresh states and blank slots, and lie at the end of the arena;
if no block can hold them or a state cannot be made, there is neither a new view nor a new pair. -/
def View.grow {ω σ : Type} (v : View) (memory : Memory) (size pairBytes : Nat) (blank : Outcome)
    (fresh : ω → ω × Except Fault σ) (world : ω) (arena : Arena σ) :
    ω × Except Fault (View × Arena σ) :=
  match v.allot memory size arena.size pairBytes with
  | .error fault => (world, .error fault)
  | .ok grown =>
      let (world, made) := makeStates fresh (v.missing size) world
      (world, made.map fun states =>
        (grown, arena ++ (states.map (Pair.mk · blank)).toArray))

/-- The indices that a role owns when a round is over: contiguous slices of nearly equal size, the
first index and the end. -/
def consumeSlice (role actors size : Nat) : Except Fault (Nat × Nat) := do
  let first ← Word.div (← Word.mul role size) actors
  let last ← Word.div (← Word.mul (← Word.add role 1) size) actors
  return (first, last)

end Litmus
