import Litmus.Error
import Litmus.Outcome
import Litmus.Text.Blank

/-!
Tests: actors that race on a state and write what they see into result slots, an arbiter that
looks at the state when they are done, and what is expected of the outcomes.

A body runs to its end in one step. Besides the state and the slots it may change a world that
everything shares, raise signals, and break off with a fault; what it changed before it broke off
stays changed.
-/
namespace Litmus

/-- Requests that a body makes while it runs. -/
structure Signals where
  /-- The engine that runs the body is to stop. -/
  stop : Bool := false
  /-- All work is to be cancelled. -/
  cancel : Bool := false
deriving DecidableEq, Repr

def Signals.or (a b : Signals) : Signals := ⟨a.stop || b.stop, a.cancel || b.cancel⟩

/-- What a body leaves behind. -/
structure Effect (ω σ : Type) where
  world : ω
  state : σ
  result : Outcome
  signals : Signals := {}
  fault : Option Fault := none

abbrev Body (ω σ : Type) := ω → σ → Outcome → Effect ω σ

/-- Runs a body on what an effect left, unless that broke off. -/
def Effect.andThen {ω σ : Type} (e : Effect ω σ) (body : Body ω σ) : Effect ω σ :=
  match e.fault with
  | some _ => e
  | none =>
      let next := body e.world e.state e.result
      { next with signals := e.signals.or next.signals }

/-- How an outcome is judged. -/
inductive Expect where
  | acceptable
  /-- Allowed, but worth a look. -/
  | interesting
  | forbidden
deriving DecidableEq, Repr

namespace Expect

def name : Expect → String
  | .acceptable => "ACCEPTABLE"
  | .interesting => "INTERESTING"
  | .forbidden => "FORBIDDEN"

def ofName? (s : String) : Option Expect :=
  [acceptable, interesting, forbidden].find? fun e => e.name = s

end Expect

/-- The judgement of one rendered outcome. -/
structure Expectation where
  outcome : String
  expect : Expect
  description : String
deriving DecidableEq, Repr

structure Actor (ω σ : Type) where
  name : String
  body : Body ω σ

structure StressTest (ω σ : Type) where
  name : String
  description : String := ""
  actors : List (Actor ω σ)
  arbiter : Option (Body ω σ) := none
  /-- Makes the state of a pair. -/
  fresh : ω → ω × Except Fault σ
  /-- The number of result slots. -/
  slots : Nat
  /-- The memory that a pair takes. -/
  pairBytes : Nat
  expectations : List Expectation := []
  /-- The judgement of outcomes that no expectation names. -/
  otherwise : Expect := .forbidden

/-- Why a test is refused. -/
inductive TestError where
  | noActors (name : String)
  | unnamed
deriving DecidableEq, Repr

def TestError.message : TestError → String
  | .noActors name => s!"test '{name}' declares no actors"
  | .unnamed => "test name is empty"

namespace StressTest

variable {ω σ : Type}

/-- A test as it stands, if it has actors and a name that is more than blanks. -/
def build (t : StressTest ω σ) : Except TestError (StressTest ω σ) :=
  if t.actors.isEmpty then .error (.noActors t.name)
  else if (Text.trim t.name.toList).isEmpty then .error .unnamed
  else .ok t

def size (t : StressTest ω σ) : Nat := t.actors.length

def actorName (t : StressTest ω σ) (role : Nat) : Except Fault String :=
  (elementAt t.actors role).map Actor.name

/-- Runs one actor. A role that the test does not have is a fault. -/
def runActor (t : StressTest ω σ) (role : Nat) : Body ω σ := fun world state result =>
  match elementAt t.actors role with
  | .ok actor => actor.body world state result
  | .error fault => { world, state, result, fault := some fault }

/-- Runs the arbiter, if there is one. -/
def runArbiter (t : StressTest ω σ) : Body ω σ := fun world state result =>
  match t.arbiter with
  | some body => body world state result
  | none => { world, state, result }

/-- The judgement of a rendered outcome: the first expectation that names it decides. -/
def judge (t : StressTest ω σ) (outcome : String) : Expect :=
  match t.expectations.find? fun e => e.outcome = outcome with
  | some e => e.expect
  | none => t.otherwise

/-- The slots of a pair before a round. -/
def blank (t : StressTest ω σ) : Outcome := .blank t.slots

end StressTest
end Litmus
