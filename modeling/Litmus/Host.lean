import Litmus.Span

/-!
The machine that tests run on, as far as a run can tell: what it answers to a request for memory,
and how long it takes to rehearse a test.
-/
namespace Litmus

/-- What comes of a request for one block of memory. -/
inductive Allocation where
  | given
  /-- There is no room for the block. -/
  | refused
  /-- No block can be that large. -/
  | tooLarge
deriving DecidableEq, Repr

/-- What comes of a request, by the number of bytes. -/
abbrev Memory := Nat → Allocation

/-- A memory with a given number of bytes, all of which may be one block. -/
def Memory.ofSize (size : Nat) : Memory := fun bytes =>
  if Word.signedBound ≤ bytes then .tooLarge
  else if size < bytes then .refused
  else .given

theorem Memory.ofSize_eq_given {size bytes : Nat} :
    ofSize size bytes = .given ↔ bytes < Word.signedBound ∧ bytes ≤ size := by
  unfold ofSize
  split
  case isTrue large => simp [Nat.not_lt.2 large]
  case isFalse fits =>
    split
    case isTrue full => simp [Nat.not_le.2 full]
    case isFalse room => simp [Nat.not_le.1 fits, Nat.not_lt.1 room]

structure Host where
  /-- A search asks for each block once, and a running engine only tells apart whether any block
  can be that large, so this is any course of the allocator. -/
  memory : Memory
  /-- How long a rehearsal takes, by the number of its pairs. A search rehearses each number once,
  so this is any course of the clock. -/
  elapsed : Nat → Span

/-- A machine of a given memory on which a rehearsal takes no time. -/
def Host.swift (size : Nat) : Host := ⟨.ofSize size, fun _ => .ofNanos 0⟩

end Litmus
