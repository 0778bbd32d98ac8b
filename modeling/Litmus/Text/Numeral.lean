import Litmus.Word

/-!
Numerals in text. An unsigned numeral is one optional `+` and at least one ASCII digit; a signed
one may start with `-` too. A numeral that does not fit its 64 bits is none.
-/
namespace Litmus.Text

/-- The value of a digit in a base up to sixteen. -/
def digit? (base : Nat) (c : Char) : Option Nat :=
  let v :=
    if '0' ≤ c ∧ c ≤ '9' then some (c.toNat - 48)
    else if 'a' ≤ c ∧ c ≤ 'f' then some (c.toNat - 87)
    else if 'A' ≤ c ∧ c ≤ 'F' then some (c.toNat - 55)
    else none
  v.filter (· < base)

/-- The value of a row of digits, continuing from `acc`. -/
def digitsFrom? (base : Nat) : Nat → List Char → Option Nat
  | acc, [] => some acc
  | acc, c :: cs => (digit? base c).bind fun d => digitsFrom? base (acc * base + d) cs

/-- The value of at least one digit and nothing else. -/
def digits? (base : Nat) : List Char → Option Nat
  | [] => none
  | cs => digitsFrom? base 0 cs

/-- An unsigned numeral below the word bound. -/
def count? (cs : List Char) : Option Nat :=
  let value := match cs with
    | '+' :: rest => digits? 10 rest
    | _ => digits? 10 cs
  value.filter (· < Word.bound)

/-- A signed numeral that fits a signed word. -/
def integer? (cs : List Char) : Option Int :=
  let value : Option Int := match cs with
    | '+' :: rest => (digits? 10 rest).map Int.ofNat
    | '-' :: rest => (digits? 10 rest).map fun n => -Int.ofNat n
    | _ => (digits? 10 cs).map Int.ofNat
  value.filter fun i => -(Word.signedBound : Int) ≤ i ∧ i < Word.signedBound

end Litmus.Text
