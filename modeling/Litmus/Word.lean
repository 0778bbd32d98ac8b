import Litmus.Fault

/-!
Counts are kept in 64 bits. Sums, differences, products and quotients that do not fit are faults;
only the gate counters wrap around.
-/
namespace Litmus.Word

/-- The number of values of a count, two to the power of 64: counts lie below it. -/
def bound : Nat := 18446744073709551616

/-- Half of it, which bounds signed numbers, and the bytes of one block of memory. -/
def signedBound : Nat := 9223372036854775808

/-- The largest count. -/
def max : Nat := bound - 1

def add (a b : Nat) : Except Fault Nat :=
  if a + b < bound then .ok (a + b) else .error .addOverflow

def sub (a b : Nat) : Except Fault Nat :=
  if b ≤ a then .ok (a - b) else .error .subOverflow

def mul (a b : Nat) : Except Fault Nat :=
  if a * b < bound then .ok (a * b) else .error .mulOverflow

def div (a b : Nat) : Except Fault Nat :=
  if b = 0 then .error .divisionByZero else .ok (a / b)

/-- Makes room for a list of `count` elements, whose bytes must be a signed number. -/
def reserve (count elementBytes : Nat) : Except Fault Unit :=
  if count * elementBytes < signedBound then .ok () else .error .capacity

/-- The sum of a list, from left to right. -/
def sum (xs : List Nat) : Except Fault Nat :=
  xs.foldlM add 0

/-- Doubling that stops at the largest count. -/
def double (a : Nat) : Nat := min (a * 2) max

/-- The count that a sum wraps around to. -/
def wrap (a : Nat) : Nat := a % bound

/-- Counting down past zero goes to the largest count. -/
def pred (a : Nat) : Nat := if a = 0 then max else a - 1

theorem add_eq_ok {a b c : Nat} : add a b = .ok c ↔ a + b = c ∧ c < bound := by
  unfold add
  split
  · simp only [Except.ok.injEq]
    exact ⟨fun h => ⟨h, h ▸ ‹_›⟩, fun h => h.1⟩
  · simp only [reduceCtorEq, false_iff, not_and]
    rintro rfl
    assumption

theorem sub_eq_ok {a b c : Nat} : sub a b = .ok c ↔ b ≤ a ∧ a - b = c := by
  unfold sub
  split <;> simp [*]

theorem div_eq_ok {a b c : Nat} : div a b = .ok c ↔ b ≠ 0 ∧ a / b = c := by
  unfold div
  split <;> simp [*]

theorem mul_eq_ok {a b c : Nat} : mul a b = .ok c ↔ a * b = c ∧ c < bound := by
  unfold mul
  split
  · simp only [Except.ok.injEq]
    exact ⟨fun h => ⟨h, h ▸ ‹_›⟩, fun h => h.1⟩
  · simp only [reduceCtorEq, false_iff, not_and]
    rintro rfl
    assumption

end Litmus.Word
