import Litmus.Decimal.Binary

/-!
The text of a floating-point number: the fewest decimal digits that read back as the same number,
and of those the nearest, written without an exponent.
-/
namespace Litmus.Binary

/-- `a * 2 ^ e / 10 ^ k` as numerator and denominator; the denominator depends on `e` and `k`
alone. -/
def onGrid (a : Nat) (e k : Int) : Nat × Nat :=
  let (p, q) := power 2 e
  let (r, s) := power 10 k
  (a * p * s, q * r)

/-- Four times the ends of the interval of numbers that round to `m * 2 ^ q`, in units of
`2 ^ q`. Below a power of two the numbers lie twice as close. -/
def halfway (m : Nat) (q : Int) : Nat × Nat :=
  (if m = mantissaBound / 2 ∧ -1074 < q then 4 * m - 1 else 4 * m - 2, 4 * m + 2)

/-- A multiple of `10 ^ k` that reads back as `m * 2 ^ q`, the nearest if there are two, and the
upper one if both are as near. The ends of the interval belong to it if `m` is even. -/
def gridPoint? (m : Nat) (q k : Int) : Option Nat :=
  let (low, high) := halfway m q
  let (v, den) := onGrid (4 * m) (q - 2) k
  let lo := (onGrid low (q - 2) k).1
  let hi := (onGrid high (q - 2) k).1
  let inside (d : Nat) : Bool :=
    if m % 2 = 0 then lo ≤ d * den ∧ d * den ≤ hi else lo < d * den ∧ d * den < hi
  let below := v / den
  let above := below + 1
  match inside below && below ≠ 0, inside above with
  | true, true => if v - below * den < above * den - v then some below else some above
  | true, false => some below
  | false, true => some above
  | false, false => none

/-- The digits and the power of ten of the shortest decimal, from the coarsest grid down. -/
def shortest (m : Nat) (q : Int) : Nat × Int :=
  ((List.range 700).findSome? fun (i : Nat) =>
    (gridPoint? m q (310 - (i : Int))).map (·, 310 - (i : Int))).getD (0, 0)

/-- `digits * 10 ^ k` without an exponent. -/
def positional (digits : Nat) (k : Int) : String :=
  let ds := Nat.toDigits 10 digits
  if 0 ≤ k then String.ofList (ds ++ List.replicate k.toNat '0')
  else
    let places := (-k).toNat
    let padded := List.replicate (places + 1 - ds.length) '0' ++ ds
    String.ofList (padded.take (padded.length - places) ++
      '.' :: padded.drop (padded.length - places))

def render : Binary → String
  | .notANumber => "NaN"
  | .infinite negative => (if negative then "-" else "") ++ "inf"
  | .finite negative m q =>
      let (digits, k) := if m = 0 then (0, 0) else shortest m q
      (if negative then "-" else "") ++ positional digits k

end Litmus.Binary
