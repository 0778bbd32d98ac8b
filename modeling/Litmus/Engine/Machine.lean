import Litmus.Engine.Gate
import Litmus.Engine.Stats
import Litmus.Stride.Basic
import Litmus.Tally
import Litmus.Test.Basic

/-!
The engine: one role for each actor of a test, all of them going through the same rounds. In a
round every actor runs over every pair of the pool; when all have finished, each role consumes a
slice of the pool; and the role that is last to do so publishes the next round.

The engine is a transition system. Every access to something that roles share is one step, and so
is one call of a body and the consumption of one pair. Any role may take its next step at any
time, and a run may be stopped or aborted between any two steps. Aborting stores two switches, which
are two steps.
-/
namespace Litmus

/-- Where a role waits for the others. -/
inductive Gate where
  | start
  | finish
  /-- Between two rounds. -/
  | barrier
deriving DecidableEq, Repr

/-- What a role leaves with: what it observed, or the fault that it broke off with. -/
abbrev RoleEnd := Except Fault (Tally Outcome)

/-- What a role does next. -/
inductive Phase where
  /-- Reads the current round. -/
  | loading
  /-- Counts itself in at the start gate. -/
  | arriving
  /-- Looks whether a gate is open or, if it just was not, whether the run is aborted. -/
  | waiting (gate : Gate) (missed : Bool)
  /-- Counts itself as one that passed the start gate. -/
  | entering
  /-- Runs its actor on the first of the places that are left, or looks whether it is early when
  none is left. -/
  | acting (rest : List Nat)
  /-- Marks the round as lagging. -/
  | lagging
  /-- Counts itself in at the finish gate. -/
  | departing
  /-- Consumes the first of the places that are left of its slice, or counts itself in at the
  barrier when none is left. -/
  | consuming (rest : List Nat)
  /-- Enlarges the pool if the round lagged, and records the round. -/
  | growing
  /-- Reads whether the run is stopped. -/
  | sampling (view : View)
  /-- Makes the next round the current one. -/
  | storing (view : View) (stopped : Bool)
  /-- Opens the barrier. -/
  | releasing
  /-- Gives the alarm, since the others would wait for this role. -/
  | dying (fault : Fault)
  /-- Stops the run, which completes what the alarm began. -/
  | halting (fault : Fault)
  /-- Counts itself as gone. -/
  | leaving (result : RoleEnd)
  /-- Reports what it leaves with. -/
  | reporting (result : RoleEnd)
  | gone
deriving Repr

structure Role where
  phase : Phase
  /-- The epoch at which the round of this role began. -/
  base : Nat
  /-- The number of the round that this role read last. -/
  round : Nat
  tally : Tally Outcome
deriving Repr

/-- A role that was just launched. -/
def Role.launched : Role := ⟨.loading, 0, 0, .empty⟩

/-- The report of a role that left. -/
structure Exit where
  role : Nat
  result : RoleEnd

structure Engine (ω σ : Type) where
  roles : Array Role
  /-- All rounds published so far; the last one is the current one. -/
  rounds : Array Round
  arena : Arena σ
  /-- Goes up by one for each role that reaches the barrier, and by one more when it opens. -/
  epoch : Nat
  control : Control
  stats : RoundStats
  /-- The time in nanoseconds since the start. -/
  now : Nat
  world : ω
  /-- Whether a body asked to cancel all work. -/
  cancelled : Bool
  /-- How many roles are gone. -/
  exited : Nat
  /-- The reports, in the order in which they arrived. -/
  exits : Array Exit

/-- What stays the same during a run. -/
structure EnginePlan (ω σ : Type) where
  test : StressTest ω σ
  range : StrideRange
  /-- The memory that the pool grows in. -/
  memory : Memory

namespace EnginePlan

variable {ω σ : Type}

def size (p : EnginePlan ω σ) : Nat := p.test.size

/-- The name of the thread that runs a role. -/
def threadName (p : EnginePlan ω σ) (role : Nat) : String := s!"{p.test.name}-r{role}"

/-- An engine whose roles were just launched. -/
def launch (p : EnginePlan ω σ) (world : ω) : Engine ω σ :=
  { roles := Array.replicate p.size Role.launched
    rounds := #[Round.initial p.size]
    arena := #[]
    epoch := 0
    control := {}
    stats := {}
    now := 0
    world
    cancelled := false
    exited := 0
    exits := #[] }

/-- Launches the roles in the order of their numbers. A thread whose name has a zero byte in it
cannot be launched. -/
def start (p : EnginePlan ω σ) (world : ω) : Except Fault (Engine ω σ) :=
  match ((List.range p.size).map p.threadName).find? fun name => name.toList.contains '\x00' with
  | some name => .error (.threadName name)
  | none => .ok (p.launch world)

end EnginePlan

namespace Engine

variable {ω σ : Type}

/-! ### Parts of the state -/

def roundAt (e : Engine ω σ) (n : Nat) : Round :=
  e.rounds[n]?.getD (Round.initial 0)

/-- The number of the current round. -/
def current (e : Engine ω σ) : Nat := e.rounds.size - 1

def setRole (e : Engine ω σ) (r : Nat) (role : Role) : Engine ω σ :=
  { e with roles := e.roles.setIfInBounds r role }

/-- Changes the round of a role. -/
def onRound (e : Engine ω σ) (role : Role) (change : Round → Round) : Engine ω σ :=
  { e with rounds := e.rounds.modify role.round change }

/-- The requests that a body made take effect. -/
def heed (e : Engine ω σ) (signals : Signals) : Engine ω σ :=
  { e with
    control := if signals.stop then e.control.stop else e.control
    cancelled := e.cancelled || signals.cancel }

/-- What a body left behind at a place takes effect. -/
def absorb (e : Engine ω σ) (place : Nat) (effect : Effect ω σ) : Engine ω σ :=
  { e.heed effect.signals with
    world := effect.world
    arena := e.arena.setIfInBounds place ⟨effect.state, effect.result⟩ }

/-- Whether a gate lets a role through. -/
def isOpen (e : Engine ω σ) (role : Role) : Gate → Bool
  | .start => (e.roundAt role.round).allStarted
  | .finish => (e.roundAt role.round).allFinished
  | .barrier => e.epoch = role.base

/-! ### The steps of a role -/

/-- Runs a body on the pair at a place. -/
def onPair (e : Engine ω σ) (place : Nat) (body : Body ω σ) : Engine ω σ × Option Fault :=
  match e.arena[place]? with
  | none => (e, some (.index e.arena.size place))
  | some pair =>
      let effect := body e.world pair.state pair.result
      (e.absorb place effect, effect.fault)

/-- Gives the pair at a place a fresh state and slots at zero. -/
def renew (p : EnginePlan ω σ) (e : Engine ω σ) (place : Nat) : Engine ω σ × Option Fault :=
  let (world, fresh) := p.test.fresh e.world
  let arena := e.arena.modify place fun pair =>
    { pair with result := pair.result.reset, state := fresh.toOption.getD pair.state }
  ({ e with world, arena },
    match fresh with
    | .ok _ => none
    | .error fault => some fault)

/-- What is seen in the slots at a place. -/
def observe (e : Engine ω σ) (place : Nat) : Outcome :=
  (e.arena[place]?.map Pair.result).getD default

/-- Consumes the pair at a place: the arbiter looks at it, its slots are counted, and it is
renewed. Gives the tally that results, or the fault that broke it off. -/
def consume (p : EnginePlan ω σ) (e : Engine ω σ) (place : Nat) (tally : Tally Outcome) :
    Engine ω σ × Except Fault (Tally Outcome) :=
  match e.onPair place p.test.runArbiter with
  | (e, some fault) => (e, .error fault)
  | (e, none) =>
      match tally.record (e.observe place) with
      | .error fault => (e, .error fault)
      | .ok tally =>
          match e.renew p place with
          | (e, some fault) => (e, .error fault)
          | (e, none) => (e, .ok tally)

/-- What a role does once a gate let it through. -/
def pass (p : EnginePlan ω σ) (e : Engine ω σ) (r : Nat) (role : Role) : Gate → Engine ω σ
  | .start => e.setRole r { role with phase := .entering }
  | .finish =>
      let view := (e.roundAt role.round).view
      match consumeSlice r p.size view.size with
      | .ok (first, last) => e.setRole r { role with phase := .consuming (view.range first last) }
      | .error fault => e.setRole r { role with phase := .dying fault }
  | .barrier => e.setRole r { role with phase := .loading }

/-- The epoch at which the next round of a role begins. -/
def nextBase (p : EnginePlan ω σ) (role : Role) : Nat := role.base + p.size + 1

/-- The role goes on to wait for the next round. -/
def awaitNext (p : EnginePlan ω σ) (e : Engine ω σ) (r : Nat) (role : Role) : Engine ω σ :=
  e.setRole r { role with base := nextBase p role, phase := .waiting .barrier false }

/-- Enlarges the pool if the round lagged, and records that the round is over. -/
def grow (p : EnginePlan ω σ) (e : Engine ω σ) (r : Nat) (role : Role) : Engine ω σ :=
  let round := e.roundAt role.round
  let size := round.view.size
  let target := p.range.growTarget size round.lagged
  match round.view.grow p.memory target p.test.pairBytes p.test.blank p.test.fresh e.world
      e.arena with
  | (world, .error fault) => { e with world }.setRole r { role with phase := .dying fault }
  | (world, .ok (view, arena)) =>
      { e with
        world, arena
        stats := e.stats.recordPublish e.now (role.base / (p.size + 1)) (size < target) view.size
        }.setRole r { role with phase := .sampling view }

/-- One step of a role. -/
def stepRole (p : EnginePlan ω σ) (e : Engine ω σ) (r : Nat) (role : Role) : Engine ω σ :=
  match role.phase with
  | .loading =>
      if (e.roundAt e.current).stopped then
        e.setRole r { role with round := e.current, phase := .leaving (.ok role.tally) }
      else e.setRole r { role with round := e.current, phase := .arriving }
  | .arriving =>
      (e.onRound role Round.arrive).setRole r { role with phase := .waiting .start false }
  | .waiting gate false =>
      if e.isOpen role gate then e.pass p r role gate
      else e.setRole r { role with phase := .waiting gate true }
  | .waiting gate true =>
      if e.control.aborted then e.setRole r { role with phase := .leaving (.ok role.tally) }
      else e.setRole r { role with phase := .waiting gate false }
  | .entering =>
      (e.onRound role Round.enter).setRole r
        { role with phase := .acting (e.roundAt role.round).view.places }
  | .acting (place :: rest) =>
      match e.onPair place (p.test.runActor r) with
      | (e, some fault) => e.setRole r { role with phase := .dying fault }
      | (e, none) => e.setRole r { role with phase := .acting rest }
  | .acting [] =>
      if (e.roundAt role.round).isEarly then e.setRole r { role with phase := .lagging }
      else e.setRole r { role with phase := .departing }
  | .lagging => (e.onRound role Round.lag).setRole r { role with phase := .departing }
  | .departing =>
      (e.onRound role Round.depart).setRole r { role with phase := .waiting .finish false }
  | .consuming (place :: rest) =>
      match e.consume p place role.tally with
      | (e, .error fault) => e.setRole r { role with phase := .dying fault }
      | (e, .ok tally) => e.setRole r { role with tally, phase := .consuming rest }
  | .consuming [] =>
      let e := { e with epoch := e.epoch + 1 }
      if e.epoch = role.base + p.size then e.setRole r { role with phase := .growing }
      else e.awaitNext p r role
  | .growing => e.grow p r role
  | .sampling view => e.setRole r { role with phase := .storing view e.control.stopped }
  | .storing view stopped =>
      { e with rounds := e.rounds.push (Round.published stopped view p.size) }.setRole r
        { role with phase := .releasing }
  | .releasing => { e with epoch := e.epoch + 1 }.awaitNext p r role
  | .dying fault =>
      { e with control := e.control.alarm }.setRole r { role with phase := .halting fault }
  | .halting fault =>
      { e with control := e.control.stop }.setRole r { role with phase := .leaving (.error fault) }
  | .leaving result =>
      { e with exited := e.exited + 1 }.setRole r { role with phase := .reporting result }
  | .reporting result =>
      { e with exits := e.exits.push ⟨r, result⟩ }.setRole r { role with phase := .gone }
  | .gone => e

/-- What can happen next in a run. -/
inductive Move where
  | role (r : Nat)
  | stop
  /-- The alarm is given from outside. A stop follows it, but moves of roles may come between. -/
  | abort
  /-- Time passes. -/
  | tick (nanos : Nat)
deriving DecidableEq, Repr

/-- One move. A role that does not exist or is gone changes nothing. -/
def apply (p : EnginePlan ω σ) (e : Engine ω σ) : Move → Engine ω σ
  | .role r =>
      match e.roles[r]? with
      | some role => e.stepRole p r role
      | none => e
  | .stop => { e with control := e.control.stop }
  | .abort => { e with control := e.control.alarm }
  | .tick nanos => { e with now := e.now + nanos }

/-- The engine after a list of moves. -/
def run (p : EnginePlan ω σ) (e : Engine ω σ) (moves : List Move) : Engine ω σ :=
  moves.foldl (apply p) e

/-! ### Seen from outside -/

/-- The state of a run as its owner sees it. -/
inductive Activity where
  | running
  /-- A stop was requested, and some role is not gone yet. -/
  | stopping
  | stopped
deriving DecidableEq, Repr

def Activity.name : Activity → String
  | .running => "Running"
  | .stopping => "Stopping"
  | .stopped => "Stopped"

def allExited (e : Engine ω σ) : Bool := e.exited = e.roles.size

def activity (e : Engine ω σ) : Activity :=
  if e.allExited then .stopped
  else if e.control.stopped then .stopping
  else .running

end Engine
end Litmus
