import Litmus.Log
import Litmus.Span

/-!
The number of pairs that a run works on in a round. Before a run, a policy doubles a candidate
size until a budget breaks or the configured maximum is reached; during the run the pool grows
inside the range that came out.
-/
namespace Litmus

/-- Why the candidate sizes stopped doubling. -/
inductive StrideCap where
  /-- The configured maximum was reached. -/
  | none
  | footprint
  | time
deriving DecidableEq, Repr

def StrideCap.name : StrideCap → String
  | .none => "NONE"
  | .footprint => "FOOTPRINT"
  | .time => "TIME"

/-- The sizes that the pool of a run may have. -/
structure StrideRange where
  least : Nat
  most : Nat
  cap : StrideCap
deriving DecidableEq, Repr

namespace StrideRange

def fixed (least most : Nat) : StrideRange := ⟨least, most, .none⟩

/-- The size of the next round. A pool grows only after a round that lagged, and never
shrinks. -/
def growTarget (r : StrideRange) (size : Nat) (lagged : Bool) : Nat :=
  if lagged then max (max (min (Word.double size) r.most) r.least) size else size

end StrideRange

/-- What a trial run at one size cost. -/
inductive Reading where
  | sample (bytes : Nat) (elapsed : Span)
  /-- The pairs could not be allocated. -/
  | outOfMemory
  /-- The trial run broke off. -/
  | broken (fault : Fault)
deriving DecidableEq, Repr

/-- The message of a size that could not be allocated. -/
def outOfMemoryMessage (size : Nat) : String := s!"allocation of {size} pairs failed"

/-- Trial runs: from what they share, the cost of a run at a given size and what is shared
afterwards. -/
abbrev Estimator (ω : Type) := ω → Nat → ω × Reading

structure StridePolicy where
  least : Nat
  most : Nat
  maxFootprintMb : Nat
  timeBudget : Span
deriving DecidableEq, Repr

/-- How a search for a stride range went. -/
structure Probe (ω : Type) where
  world : ω
  /-- The sizes asked for and what they cost, in order. -/
  readings : List (Nat × Reading)
  range : Except Fault StrideRange
  /-- The size of the last trial run. -/
  last : Nat

namespace StridePolicy

/-- The budget that a reading breaks, if any. Memory comes before time, and time counts in whole
milliseconds. -/
def broken? (p : StridePolicy) : Reading → Except Fault (Option StrideCap)
  | .outOfMemory => .ok (some .footprint)
  | .broken fault => .error fault
  | .sample bytes elapsed => do
      let kilobytes ← Word.mul p.maxFootprintMb 1024
      let budget ← Word.mul kilobytes 1024
      if budget < bytes then return some .footprint
      else if p.timeBudget.millis < elapsed.millis then return some .time
      else return none

/-- The range when `good` pairs were the most that fit. -/
def rangeFor (p : StridePolicy) (good : Nat) (cap : StrideCap) : StrideRange :=
  ⟨min p.least good, min p.most good, cap⟩

/-- Tries the size `1 <<< exponent`, of which its half was `good`, and then larger ones. `left` is
how often the size can double below the word bound. -/
def climb {ω : Type} (p : StridePolicy) (estimate : Estimator ω) (world : ω) (good : Nat) :
    (left exponent : Nat) → Probe ω
  | left, exponent =>
    let size := 1 <<< exponent
    let (world, reading) := estimate world size
    let stop (range : Except Fault StrideRange) : Probe ω :=
      ⟨world, [(size, reading)], range, size⟩
    match p.broken? reading with
    | .error fault => stop (.error fault)
    | .ok (some cap) => stop (.ok (p.rangeFor good cap))
    | .ok none =>
        if p.most ≤ size then stop (.ok (p.rangeFor p.most .none))
        else
          match left with
          | 0 => stop (.error .mulOverflow)
          | left + 1 =>
              let rest := climb p estimate world size left (exponent + 1)
              { rest with readings := (size, reading) :: rest.readings }

/-- The range for runs whose trial runs cost what `estimate` says. Sizes start at one. -/
def adjust {ω : Type} (p : StridePolicy) (estimate : Estimator ω) (world : ω) : Probe ω :=
  p.climb estimate world 1 63 0

/-- The lines that a search writes: one for each trial run, and one for a cap. -/
def adjustLog {ω : Type} (probe : Probe ω) : Log :=
  probe.readings.filterMap (fun (size, reading) =>
    match reading with
    | .sample bytes elapsed =>
        some <| .of .stride .debug
          s!"STRIDE_PROBE: {size} pairs -> {bytes} bytes, {elapsed.render}"
    | _ => none) ++
  match probe.range with
  | .ok r =>
      if r.cap = .none then []
      else
        [.of .stride .info (s!"STRIDE_CAP: {r.cap.name} hit at {probe.last} pairs. " ++
          s!"Using [{r.least}, {r.most}].")]
  | .error _ => []

end StridePolicy
end Litmus
