import Litmus.Outcome

/-!
Cells: numbered signed words, the state of tests that race on memory.
-/
namespace Litmus

abbrev Cells := List Int64

namespace Cells

def read (cells : Cells) (cell : Nat) : Except Fault Int64 :=
  elementAt cells cell

def write (cells : Cells) (cell : Nat) (value : Int64) : Except Fault Cells :=
  if cell < cells.length then .ok (cells.set cell value)
  else .error (.index cells.length cell)

end Cells

/-- The successor of a signed word, if there is one. -/
def nextWord (v : Int64) : Except Fault Int64 :=
  if v = Int64.maxValue then .error .addOverflow else .ok (v + 1)

end Litmus
