import Litmus.Log
import Litmus.Word

/-!
What is counted about the rounds of a run. The role that closes a round records it; a round that
is recorded twice in a row means that two roles both closed it.
-/
namespace Litmus

structure RoundStats where
  /-- The time of the last publish, in nanoseconds since the start. -/
  lastPublish : Nat := 0
  /-- The round recorded last; before the first, a number that no run gets to. -/
  lastRound : Nat := Word.max
  publishes : Nat := 0
  /-- How many publishes enlarged the pool. -/
  grows : Nat := 0
  duplicates : Nat := 0
  /-- The size of the pool published last. -/
  pool : Nat := 0
  shortest : Nat := Word.max
  longest : Nat := 0
  /-- The sum of all round times, which wraps around. -/
  elapsed : Nat := 0
  /-- How many rounds took each class of time. -/
  buckets : List Nat := [0, 0, 0, 0, 0]
deriving DecidableEq, Repr

namespace RoundStats

/-- Where one class of round times ends and the next begins, in nanoseconds. -/
def bucketLimits : List Nat := [1000, 10000, 100000, 1000000]

def bucketOf (nanos : Nat) : Nat :=
  (bucketLimits.takeWhile (· ≤ nanos)).length

/-- Rounds that take longer are reported. -/
def spikeThreshold : Nat := 50000000

/-- The time since the last publish; a clock that stands still or goes back gives zero. -/
def sinceLast (s : RoundStats) (now : Nat) : Nat := now - s.lastPublish

/-- Records that a round was closed at a given time. -/
def recordPublish (s : RoundStats) (now round : Nat) (grew : Bool) (pool : Nat) : RoundStats :=
  let nanos := s.sinceLast now
  { lastPublish := now
    lastRound := round
    publishes := s.publishes + 1
    grows := if grew then s.grows + 1 else s.grows
    duplicates := if s.lastRound = round then s.duplicates + 1 else s.duplicates
    pool
    shortest := min s.shortest nanos
    longest := max s.longest nanos
    elapsed := Word.wrap (s.elapsed + nanos)
    buckets := s.buckets.modify (bucketOf nanos) (· + 1) }

/-- The lines that recording a round writes. -/
def recordLog (s : RoundStats) (now round : Nat) : Log :=
  (if s.lastRound = round then
    [.of .rounds .error s!"BARRIER_FAULT: second publish in round {round}"]
  else []) ++
  (if spikeThreshold < s.sinceLast now then
    [.of .rounds .warn s!"ROUND_SPIKE: round {round} took {s.sinceLast now / 1000000} ms"]
  else [])

/-- The number of rounds: each was published once, and then perhaps again. -/
def rounds (s : RoundStats) : Except Fault Nat :=
  Word.sub s.publishes s.duplicates

/-- The mean time of a round, or zero if there was none. -/
def average (s : RoundStats) : Except Fault Nat :=
  if s.publishes = 0 then .ok 0 else Word.div s.elapsed s.publishes

/-- The shortest time, or zero if none was recorded. -/
def shortestSeen (s : RoundStats) : Nat :=
  if s.shortest = Word.max then 0 else s.shortest

/-- The lines of a report. -/
def report (s : RoundStats) : Except Fault (List String) := do
  let rounds ← s.rounds
  let average ← s.average
  let classes := (["<1µs", "<10µs", "<100µs", "<1ms", "SLOW"].zip s.buckets).map
    fun (name, n) => s!"{name}: {n}"
  let distribution := ", ".intercalate classes
  return ["--- ROUND REPORT (nanoseconds) ---",
    s!"Rounds: {rounds} (grows: {s.grows}, duplicate publishes: {s.duplicates}, pool: {s.pool})",
    s!"Avg: {average} ns  Min: {s.shortestSeen} ns  Max: {s.longest} ns",
    s!"Distribution: [{distribution}]"]

end RoundStats
end Litmus
