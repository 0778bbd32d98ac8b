import Litmus.Text.Bracketed

/-!
What stops a computation: arithmetic that does not fit its word, an index outside its list, and
what the body of a test raises itself. Each fault has one text.
-/
namespace Litmus

/-- A cause for which a computation breaks off. -/
inductive Fault where
  | addOverflow
  | subOverflow
  | mulOverflow
  | negOverflow
  | divisionByZero
  /-- A span of time times a factor does not fit. -/
  | spanOverflow
  /-- A span of time has too many seconds. -/
  | spanRange
  /-- A list is asked for that no memory can hold. -/
  | capacity
  /-- No block of memory can hold the new pairs of a pool. -/
  | layout
  | index (length idx : Nat)
  /-- A thread is asked for that the topology does not have. -/
  | unknownThread (thread total : Nat)
  /-- A thread is to have a name with a zero byte in it. -/
  | threadName (name : String)
  /-- Raised by the body of a test with a text of its own. -/
  | raised (text : String)
  /-- Raised by the body of a test with something that has no text. -/
  | wordless
deriving DecidableEq, Repr, Inhabited

namespace Fault

/-- Where the first zero byte of a name is, and all bytes of the name. -/
def zeroByte (name : String) : String :=
  let bytes := name.toUTF8.toList.map UInt8.toNat
  s!"NulError({bytes.idxOf 0}, {Text.numbers bytes})"

def message : Fault → String
  | .addOverflow => "attempt to add with overflow"
  | .subOverflow => "attempt to subtract with overflow"
  | .mulOverflow => "attempt to multiply with overflow"
  | .negOverflow => "attempt to negate with overflow"
  | .divisionByZero => "attempt to divide by zero"
  | .spanOverflow => "overflow when multiplying duration by scalar"
  | .spanRange => "overflow in Duration::new"
  | .capacity => "capacity overflow"
  | .layout => "called `Result::unwrap()` on an `Err` value: LayoutError"
  | .index length idx => s!"index out of bounds: the len is {length} but the index is {idx}"
  | .unknownThread thread total =>
      s!"thread id {thread} out of range (topology has {total} threads)"
  | .threadName name => "thread name may not contain interior null bytes: " ++ zeroByte name
  | .raised text => text
  | .wordless => "non-string panic payload"

end Fault

/-- The element at `idx`, or the fault that names the index. -/
def elementAt {α : Type} (xs : List α) (idx : Nat) : Except Fault α :=
  match xs[idx]? with
  | some x => .ok x
  | none => .error (.index xs.length idx)

theorem elementAt_eq_ok {α : Type} {xs : List α} {idx : Nat} {x : α} :
    elementAt xs idx = .ok x ↔ xs[idx]? = some x := by
  unfold elementAt
  split <;> simp_all

end Litmus
