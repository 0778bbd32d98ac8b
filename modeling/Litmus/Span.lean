import Litmus.Word

/-!
Spans of time with the resolution of a nanosecond. A span holds as many whole seconds as a count.
-/
namespace Litmus

structure Span where
  nanos : Nat
deriving DecidableEq, Repr

namespace Span

def nanosPerSecond : Nat := 1000000000

def ofNanos (n : Nat) : Span := ⟨n⟩

def ofMillis (n : Nat) : Span := ⟨n * 1000000⟩

def ofSeconds (seconds : Nat) : Span := ⟨seconds * nanosPerSecond⟩

/-- A span of seconds and nanoseconds. A second or more of nanoseconds counts as seconds. -/
def ofParts (seconds nanos : Nat) : Except Fault Span :=
  if seconds + nanos / nanosPerSecond < Word.bound then
    .ok ⟨seconds * nanosPerSecond + nanos⟩
  else .error .spanRange

def seconds (s : Span) : Nat := s.nanos / nanosPerSecond

/-- The nanoseconds beyond the whole seconds. -/
def subsecond (s : Span) : Nat := s.nanos % nanosPerSecond

/-- The whole milliseconds. -/
def millis (s : Span) : Nat := s.nanos / 1000000

/-- A span taken several times. -/
def times (s : Span) (k : Nat) : Except Fault Span :=
  if s.nanos * k / nanosPerSecond < Word.bound then .ok ⟨s.nanos * k⟩ else .error .spanOverflow

/-- The longer of two spans. -/
def longer (a b : Span) : Span := ⟨max a.nanos b.nanos⟩

/-- `n` units and a fraction of `width` digits, without zeros at its end. -/
def withFraction (n part width : Nat) (unit : String) : String :=
  let ds := Nat.toDigits 10 part
  let padded := List.replicate (width - ds.length) '0' ++ ds
  let kept := (padded.reverse.dropWhile (· = '0')).reverse
  s!"{n}" ++ (if kept.isEmpty then "" else "." ++ String.ofList kept) ++ unit

/-- The largest unit that is at least one, with a decimal fraction. -/
def render (s : Span) : String :=
  if 0 < s.seconds then withFraction s.seconds s.subsecond 9 "s"
  else if 1000000 ≤ s.nanos then withFraction (s.nanos / 1000000) (s.nanos % 1000000) 6 "ms"
  else if 1000 ≤ s.nanos then withFraction (s.nanos / 1000) (s.nanos % 1000) 3 "µs"
  else withFraction s.nanos 0 0 "ns"

end Span
end Litmus
