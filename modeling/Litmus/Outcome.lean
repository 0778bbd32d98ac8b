import Litmus.Fault
import Litmus.Text.Bracketed

/-!
Outcomes: the signed words that the actors of a test write into the result slots of a pair. What
is observed of a pair is the content of its slots.
-/
namespace Litmus

structure Outcome where
  values : List Int64
deriving DecidableEq, Repr, Inhabited

namespace Outcome

/-- Slots that nobody has written. -/
def blank (slots : Nat) : Outcome := ⟨List.replicate slots 0⟩

def read (o : Outcome) (slot : Nat) : Except Fault Int64 :=
  elementAt o.values slot

def write (o : Outcome) (slot : Nat) (value : Int64) : Except Fault Outcome :=
  if slot < o.values.length then .ok ⟨o.values.set slot value⟩
  else .error (.index o.values.length slot)

/-- All slots back at zero. -/
def reset (o : Outcome) : Outcome := ⟨o.values.map fun _ => 0⟩

/-- The values in decimal, separated by a comma and a blank. -/
def render (o : Outcome) : String :=
  Text.listed (o.values.map fun v => s!"{v.toInt}")

/-- Lexicographic order of signed values. -/
def valuesPrecede : List Int64 → List Int64 → Bool
  | [], _ => true
  | _ :: _, [] => false
  | a :: as, b :: bs => a < b || (a == b && valuesPrecede as bs)

def precedes (a b : Outcome) : Bool :=
  valuesPrecede a.values b.values

end Outcome
end Litmus
