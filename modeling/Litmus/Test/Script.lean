import Litmus.Test.Basic
import Litmus.Test.Cells

/-!
Scripted tests: the body of each actor is a list of instructions on numbered cells, and the world
counts what happens.
-/
namespace Litmus.Script

/-- One instruction. Those that act at their `n`-th execution carry a tag of their own, under which
the executions are counted. -/
inductive Instr where
  /-- Adds to a cell; sums wrap around. -/
  | add (cell : Nat) (value : Int64)
  /-- Adds to a cell and puts the old value into a slot. -/
  | fetchAdd (cell : Nat) (value : Int64) (slot : Nat)
  | or (cell : Nat) (value : Int64)
  | store (cell : Nat) (value : Int64)
  | load (cell slot : Nat)
  | set (slot : Nat) (value : Int64)
  | raise (message : String)
  | raiseWordless
  | raiseAt (tag n : Nat) (message : String)
  | cancelAt (tag n : Nat)
  | stopAt (tag n : Nat)
  /-- Waits until whoever holds the role lets it go. -/
  | block
deriving DecidableEq, Repr

/-- What has happened so far. -/
structure World where
  /-- How often each tagged instruction ran. -/
  hits : List (Nat × Nat) := []
  /-- How often each actor was called. -/
  calls : List Nat := []
  /-- How many states were made. -/
  states : Nat := 0
deriving Repr, Inhabited

namespace World

def hitsOf (w : World) (tag : Nat) : Nat := (w.hits.lookup tag).getD 0

def hit (w : World) (tag : Nat) : World :=
  { w with hits := (tag, w.hitsOf tag + 1) :: w.hits.filter (·.1 ≠ tag) }

def call (w : World) (role : Nat) : World :=
  { w with calls := w.calls.modify role (· + 1) }

end World

/-- The cells and slots after an access, or those before it if it is out of range. -/
def access (e : Effect World Cells) (run : Except Fault (Cells × Outcome)) : Effect World Cells :=
  match run with
  | .ok (state, result) => { e with state, result }
  | .error fault => { e with fault := some fault }

/-- Counts an execution of a tagged instruction; `act` happens at the `n`-th. -/
def trigger (e : Effect World Cells) (tag n : Nat)
    (act : Effect World Cells → Effect World Cells) : Effect World Cells :=
  let e := { e with world := e.world.hit tag }
  if e.world.hitsOf tag = n then act e else e

/-- One instruction on what the instructions before it left. -/
def execute (e : Effect World Cells) : Instr → Effect World Cells
  | .add cell value => access e do
      let old ← e.state.read cell
      return (← e.state.write cell (old + value), e.result)
  | .fetchAdd cell value slot =>
      match e.state.read cell with
      | .error fault => { e with fault := some fault }
      | .ok old =>
          let e := { e with state := e.state.set cell (old + value) }
          access e do return (e.state, ← e.result.write slot old)
  | .or cell value => access e do
      let old ← e.state.read cell
      return (← e.state.write cell (old ||| value), e.result)
  | .store cell value => access e do
      return (← e.state.write cell value, e.result)
  | .load cell slot => access e do
      let value ← e.state.read cell
      return (e.state, ← e.result.write slot value)
  | .set slot value => access e do
      return (e.state, ← e.result.write slot value)
  | .raise message => { e with fault := some (.raised message) }
  | .raiseWordless => { e with fault := some .wordless }
  | .raiseAt tag n message =>
      trigger e tag n fun e => { e with fault := some (.raised message) }
  | .cancelAt tag n =>
      trigger e tag n fun e => { e with signals := { e.signals with cancel := true } }
  | .stopAt tag n =>
      trigger e tag n fun e => { e with signals := { e.signals with stop := true } }
  | .block => e

/-- Runs instructions until one of them breaks off. -/
def run (code : List Instr) (e : Effect World Cells) : Effect World Cells :=
  match code with
  | [] => e
  | i :: rest =>
      let e := execute e i
      if e.fault.isSome then e else run rest e

def body (code : List Instr) : Body World Cells := fun world state result =>
  run code { world, state, result }

/-- Whether a body reaches an instruction that blocks. -/
def blocks (code : List Instr) (world : World) (state : Cells) (result : Outcome) : Bool :=
  code.contains .block &&
    (run (code.takeWhile (· ≠ .block)) { world, state, result }).fault.isNone

/-- A scripted actor; its calls are counted before its body runs. -/
def actor (role : Nat) (name : String) (code : List Instr) : Actor World Cells :=
  { name, body := fun world state result => body code (world.call role) state result }

/-- A world in which nothing has happened, for a given number of actors. -/
def start (actors : Nat) : World := { calls := List.replicate actors 0 }

/-- A test in which the actors with the given names run the given scripts. A pair holds its slots
and the place of its cells. -/
def test (name description : String) (cells : Cells) (slots : Nat)
    (actors : List (String × List Instr)) (arbiter : Option (List Instr))
    (expectations : List Expectation) (otherwise : Expect) : StressTest World Cells :=
  { name, description
    actors := actors.mapIdx fun role (name, code) => actor role name code
    arbiter := arbiter.map body
    fresh := fun world => ({ world with states := world.states + 1 }, .ok cells)
    slots
    pairBytes := 24 + 8 * slots
    expectations, otherwise }

end Litmus.Script
