import Litmus.Class.Basic
import Litmus.Log
import Litmus.Stride.Basic
import Litmus.Test.Grading
import Litmus.Text.Quoted
import Litmus.Word

/-!
The result of one run of a test, and the line that reports it.
-/
namespace Litmus

structure TestResult where
  name : String
  status : Status
  shape : Class
  /-- The thread of each role. -/
  cpus : List Nat
  /-- The outcomes in order, each with its count. -/
  states : List (String × Nat)
  messages : List String
  /-- How many iterations ended well. -/
  iterations : Nat
  range : StrideRange
  grading : Grading
deriving DecidableEq, Repr

namespace TestResult

/-- The result of a test that was never run. -/
def unrun (name : String) (shape : Class) (status : Status) (messages : List String) :
    TestResult :=
  { name, status, shape
    cpus := []
    states := []
    messages
    iterations := 0
    range := .fixed 0 0
    grading := ⟨.failed, []⟩ }

def samples (r : TestResult) : Except Fault Nat :=
  Word.sum (r.states.map (·.2))

def passed (r : TestResult) : Bool := r.grading.verdict ≠ .failed

/-- The line that reports a result. -/
def log (r : TestResult) : Except Fault Log :=
  if r.status = .normal && r.passed then do
    let samples ← r.samples
    return [⟨.runAudit, .info, "RUN COMPLETE",
      [("test", r.name), ("class", r.shape.render), ("verdict", r.grading.verdict.word),
        ("samples", s!"{samples}"), ("iterations", s!"{r.iterations}"),
        ("stride_cap", r.range.cap.name)]⟩]
  else
    return [⟨.runAudit, .warn, "RUN FAILED",
      [("test", r.name), ("class", r.shape.render), ("status", r.status.name),
        ("verdict", r.grading.verdict.word),
        ("messages", Text.bracketed (r.messages.map Text.quoted))]⟩]

end TestResult
end Litmus
