/-!
Numbering by first appearance: equal items get equal numbers, and new items count up from zero.
Two lists get the same numbers exactly when they repeat their items at the same places.
-/
namespace Litmus

variable {α : Type} [DecidableEq α]

/-- Numbers for a list of which the items in `seen` are numbered by their place in it. -/
def labelsFrom (seen : List α) : List α → List Nat
  | [] => []
  | x :: xs =>
      match seen.idxOf? x with
      | some label => label :: labelsFrom seen xs
      | none => seen.length :: labelsFrom (seen ++ [x]) xs

def labels (xs : List α) : List Nat :=
  labelsFrom [] xs

theorem length_labelsFrom (seen xs : List α) : (labelsFrom seen xs).length = xs.length := by
  induction xs generalizing seen with
  | nil => rfl
  | cons x xs ih =>
      unfold labelsFrom
      split <;> simp [ih]

@[simp] theorem length_labels (xs : List α) : (labels xs).length = xs.length :=
  length_labelsFrom [] xs

end Litmus
