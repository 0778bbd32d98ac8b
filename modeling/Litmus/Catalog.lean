import Litmus.Test.Basic
import Litmus.Test.Cells

/-!
The built-in tests: small classic races of two actors.
-/
namespace Litmus.Catalog

variable {ω : Type}

/-- A body that touches only the state and the slots; if an access fails, nothing changes. -/
def plain (step : Cells → Outcome → Except Fault (Cells × Outcome)) : Body ω Cells :=
  fun world state result =>
    match step state result with
    | .ok (state, result) => { world, state, result }
    | .error fault => { world, state, result, fault := some fault }

/-- A test on some cells, all zero at first. -/
def test (name description : String) (cells slots pairBytes : Nat)
    (actors : List (String × Body ω Cells)) (arbiter : Option (Body ω Cells))
    (expectations : List Expectation) : StressTest ω Cells :=
  { name, description
    actors := actors.map fun (name, body) => { name, body }
    arbiter
    fresh := fun world => (world, .ok (List.replicate cells 0))
    slots, pairBytes, expectations }

/-- Adds one to the counter in a single step and keeps the sum in a slot. -/
def increment (slot : Nat) : Body ω Cells := plain fun cells result => do
  let next ← nextWord (← cells.read 0)
  return (← cells.write 0 next, ← result.write slot next)

/-- Two increments of one counter. Each actor must see a value of its own. -/
def atomicIncrement : StressTest ω Cells :=
  test "atomic_increment" "fetch_add is atomic" 1 2 24
    [("actor1", increment 0), ("actor2", increment 1)] none
    [⟨"1, 2", .acceptable, "actor1 first"⟩, ⟨"2, 1", .acceptable, "actor2 first"⟩]

/-- Adds one to the counter; the load and the store are two accesses. -/
def bump : Body ω Cells := plain fun cells result => do
  return (← cells.write 0 (← nextWord (← cells.read 0)), result)

/-- Increments that may be lost. -/
def racyIncrement : StressTest ω Cells :=
  test "racy_increment" "read-modify-write split into load and store" 1 1 16
    [("actor1", bump), ("actor2", bump)]
    (some (plain fun cells result => do
      return (cells, ← result.write 0 (← cells.read 0))))
    [⟨"2", .acceptable, "both increments landed"⟩, ⟨"1", .interesting, "lost update"⟩]

/-- Stores one into a cell and then loads the other one into a slot. -/
def storeThenLoad (own other slot : Nat) : Body ω Cells := plain fun cells result => do
  let cells ← cells.write own 1
  return (cells, ← result.write slot (← cells.read other))

/-- Both loads may miss both stores. -/
def storeBuffering : StressTest ω Cells :=
  test "store_buffering" "Dekker-style store buffering, relaxed" 2 2 24
    [("actor1", storeThenLoad 0 1 0), ("actor2", storeThenLoad 1 0 1)] none
    [⟨"0, 1", .acceptable, "actor1 ran first"⟩, ⟨"1, 0", .acceptable, "actor2 ran first"⟩,
      ⟨"1, 1", .acceptable, "interleaved"⟩, ⟨"0, 0", .interesting, "both stores buffered"⟩]

/-- Puts a message into the first cell and raises the flag in the second. -/
def deliver : Body ω Cells := plain fun cells result => do
  return (← (← cells.write 0 1).write 1 1, result)

/-- Reads the flag and then the message. -/
def collect : Body ω Cells := plain fun cells result => do
  let result ← result.write 0 (← cells.read 1)
  return (cells, ← result.write 1 (← cells.read 0))

/-- Who sees the flag sees the message. -/
def messagePassing : StressTest ω Cells :=
  test "message_passing" "release store of a flag publishes the data written before it" 2 2 24
    [("writer", deliver), ("reader", collect)] none
    [⟨"0, 0", .acceptable, "reader ran first"⟩, ⟨"0, 1", .acceptable, "data seen early"⟩,
      ⟨"1, 1", .acceptable, "message delivered"⟩,
      ⟨"1, 0", .forbidden, "flag seen without its data"⟩]

/-- Every built-in test. -/
def all : List (StressTest ω Cells) :=
  [atomicIncrement, racyIncrement, storeBuffering, messagePassing]

end Litmus.Catalog
