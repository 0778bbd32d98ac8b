import Litmus.Test.Basic

/-!
Grading: the verdict on the outcomes of a run. One forbidden outcome fails a run, and so does any
status but the normal one.
-/
namespace Litmus

/-- How a run ended. -/
inductive Status where
  | normal
  /-- The trial before the run broke off. -/
  | checkTestError
  | testError
  | timeoutError
deriving DecidableEq, Repr

namespace Status

def name : Status → String
  | .normal => "NORMAL"
  | .checkTestError => "CHECK_TEST_ERROR"
  | .testError => "TEST_ERROR"
  | .timeoutError => "TIMEOUT_ERROR"

def ofName? (s : String) : Option Status :=
  [normal, checkTestError, testError, timeoutError].find? fun status => status.name = s

end Status

inductive Verdict where
  | passed
  /-- Passed, but an interesting outcome was seen. -/
  | interesting
  | failed
deriving DecidableEq, Repr

namespace Verdict

def name : Verdict → String
  | .passed => "PASSED"
  | .interesting => "INTERESTING"
  | .failed => "FAILED"

/-- The verdict as a word of a sentence. -/
def word : Verdict → String
  | .passed => "Passed"
  | .interesting => "Interesting"
  | .failed => "Failed"

end Verdict

/-- One outcome of a run with its count and its judgement. -/
structure Detail where
  outcome : String
  count : Nat
  expect : Expect
deriving DecidableEq, Repr

structure Grading where
  verdict : Verdict
  details : List Detail
deriving DecidableEq, Repr

namespace Grading

/-- Whether an outcome with a given judgement was seen. -/
def saw (details : List Detail) (expect : Expect) : Bool :=
  details.any fun d => d.expect = expect && 0 < d.count

def verdictOf (status : Status) (details : List Detail) : Verdict :=
  if status ≠ .normal || saw details .forbidden then .failed
  else if saw details .interesting then .interesting
  else .passed

end Grading

/-- The grading of the outcomes of a run, each with its count. -/
def grade (status : Status) (states : List (String × Nat)) (judge : String → Expect) : Grading :=
  let details := states.map fun (outcome, n) => ⟨outcome, n, judge outcome⟩
  ⟨Grading.verdictOf status details, details⟩

end Litmus
