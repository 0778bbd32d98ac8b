/-!
Sets of characters as ranges of their code points.
-/
namespace Litmus.Text

/-- Whether a character is in one of the ranges; both ends of a range belong to it. -/
def isInRanges (ranges : List (Nat × Nat)) (c : Char) : Bool :=
  ranges.any fun r => r.1 ≤ c.toNat && c.toNat ≤ r.2

end Litmus.Text
