import Litmus.Word

/-!
Binary floating-point numbers with 53 significant bits: zero, finite numbers `m * 2 ^ q`, the two
infinities and one value that is no number. A decimal is rounded to the nearest of them, ties to
the even one.
-/
namespace Litmus

/-- The finite number is `mantissa * 2 ^ exponent`. -/
inductive Binary where
  | finite (negative : Bool) (mantissa : Nat) (exponent : Int)
  | infinite (negative : Bool)
  | notANumber
deriving DecidableEq, Repr

namespace Binary

/-- A power of two or ten with any exponent, as numerator and denominator. -/
def power (base : Nat) (e : Int) : Nat × Nat :=
  if 0 ≤ e then (Nat.pow base e.toNat, 1) else (1, Nat.pow base (-e).toNat)

/-- The mantissa of a number that is not tiny lies from half of this on and below it. -/
def mantissaBound : Nat := 9007199254740992

/-- The quotient rounded to the nearest integer, ties to the even one. -/
def divideToEven (num den : Nat) : Nat :=
  let q := num / den
  let r := num % den
  if 2 * r < den then q
  else if den < 2 * r then q + 1
  else if q % 2 = 0 then q else q + 1

/-- The exponent that leaves 53 bits before the point of `num / den`, but not below the least. -/
def exponentOf (num den : Nat) : Int :=
  let guess : Int := (num.log2 : Int) - (den.log2 : Int) - 53
  let (a, b) := power 2 (guess + 1)
  let fine := if num * b < mantissaBound * (den * a) then guess else guess + 1
  let (a, b) := power 2 fine
  let exact := if num * b < mantissaBound * (den * a) then fine else fine + 1
  if exact < -1074 then -1074 else exact

/-- The positive fraction `num / den` rounded. -/
def ofFraction (negative : Bool) (num den : Nat) : Binary :=
  let q := exponentOf num den
  let (a, b) := power 2 q
  let m := divideToEven (num * b) (den * a)
  let (m, q) := if m = mantissaBound then (mantissaBound / 2, q + 1) else (m, q)
  if 971 < q then .infinite negative else .finite negative m q

/-- The number `digits * 10 ^ e` rounded. Numbers far outside the range are not computed. -/
def ofDecimal (negative : Bool) (digits : Nat) (e : Int) : Binary :=
  if digits = 0 then .finite negative 0 0
  else
    let size : Int := (digits.log2 : Int) * 30103 / 100000
    if 400 < size + e then .infinite negative
    else if size + e < -400 then .finite negative 0 0
    else
      let (a, b) := power 10 e
      ofFraction negative (digits * a) b

def isZero : Binary → Bool
  | .finite _ m _ => m = 0
  | _ => false

def isFinite : Binary → Bool
  | .finite .. => true
  | _ => false

/-- The nearest count: halves go up, what lies outside goes to the nearest end, and what is no
number goes to zero. -/
def toCount : Binary → Nat
  | .finite true _ _ => 0
  | .finite false m q =>
      let (a, b) := power 2 q
      min ((2 * (m * a) + b) / (2 * b)) Word.max
  | .infinite true => 0
  | .infinite false => Word.max
  | .notANumber => 0

end Binary
end Litmus
