import Litmus.Decimal.Binary
import Litmus.Text.Numeral

/-!
Floating-point numerals: a sign, digits with a point among them or at one end, and an exponent,
or one of the words for infinity and for no number.
-/
namespace Litmus.Binary

open Text

/-- A letter of ASCII in lower case; the sign for kelvin counts as a `k`. -/
def lowerChar (c : Char) : Char :=
  if c = '\u212a' then 'k' else c.toLower

def lower (cs : List Char) : List Char := cs.map lowerChar

def isDigit (c : Char) : Bool := '0' ≤ c && c ≤ '9'

/-- An exponent: one optional sign and at least one digit. -/
def exponent? (cs : List Char) : Option Int :=
  match cs with
  | '+' :: rest => (digits? 10 rest).map Int.ofNat
  | '-' :: rest => (digits? 10 rest).map fun n => -Int.ofNat n
  | _ => (digits? 10 cs).map Int.ofNat

/-- A numeral without its sign. -/
def unsigned? (negative : Bool) (cs : List Char) : Option Binary :=
  let whole := cs.takeWhile isDigit
  let rest := cs.dropWhile isDigit
  let (fraction, rest) := match rest with
    | '.' :: r => (r.takeWhile isDigit, r.dropWhile isDigit)
    | _ => ([], rest)
  if whole.isEmpty && fraction.isEmpty then none
  else
    let shift : Option Int := match rest with
      | [] => some 0
      | c :: r => if c = 'e' ∨ c = 'E' then exponent? r else none
    shift.bind fun e =>
      (digits? 10 (whole ++ fraction)).map fun n => ofDecimal negative n (e - fraction.length)

/-- A word that stands for a number. -/
def word? (negative : Bool) (cs : List Char) : Option Binary :=
  let word := lower cs
  if word = "inf".toList ∨ word = "infinity".toList then some (.infinite negative)
  else if word = "nan".toList then some .notANumber
  else none

def ofText? (cs : List Char) : Option Binary :=
  let (negative, rest) := match cs with
    | '+' :: r => (false, r)
    | '-' :: r => (true, r)
    | _ => (false, cs)
  (word? negative rest).or (unsigned? negative rest)

end Litmus.Binary
