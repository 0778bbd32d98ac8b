/-!
Lists in brackets: items between `[` and `]`, separated by a comma and a blank.
-/
namespace Litmus.Text

/-- Items separated by a comma and a blank. -/
def listed (items : List String) : String :=
  ", ".intercalate items

def bracketed (items : List String) : String :=
  "[" ++ listed items ++ "]"

/-- Numbers in brackets. -/
def numbers (ns : List Nat) : String :=
  bracketed (ns.map fun n => s!"{n}")

end Litmus.Text
