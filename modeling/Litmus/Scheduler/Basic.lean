import Litmus.Class.Enumeration
import Litmus.Placement.Search
import Litmus.Scheduler.Grant
import Litmus.Scheduler.Spread

/-!
The scheduler hands out disjoint sets of hardware threads. A grant is all or nothing: either every
role of a class gets a thread or the table stays as it is. Calls that must not happen, such as a
second release, are refused and change nothing.
-/
namespace Litmus

open Placement

/-- The free and taken threads of a machine, and who holds them. -/
structure Scheduler where
  /-- Tells grants of different schedulers apart. -/
  id : Nat
  topology : Topology
  /-- The threads that may be handed out, in spread order. -/
  owned : List Nat
  /-- Whether every change is followed by an audit. -/
  debug : Bool
  /-- Threads that are not owned are never free. -/
  free : FreeSet
  freeCount : Nat
  nextTicket : Nat
  /-- The threads of each grant that has not been released, by ticket. -/
  outstanding : List (Nat × List Nat)
  /-- How many grants will never be released. -/
  quarantined : Nat
  /-- The shapes of the classes asked for so far. -/
  shapes : List (Class × Shape)
deriving Repr

/-- A table that contradicts itself. -/
inductive Imbalance where
  | drifted
  | heldTwice (thread ticket : Nat)
  | heldButFree (thread : Nat)
  | unaccounted (thread : Nat)
deriving DecidableEq, Repr

def Imbalance.message : Imbalance → String
  | .drifted => "free counter drifted"
  | .heldTwice thread ticket => s!"thread {thread} held by two maps (ticket {ticket})"
  | .heldButFree thread => s!"thread {thread} outstanding but marked free"
  | .unaccounted thread => s!"owned thread {thread} is neither free nor held"

/-- Why a call is refused. -/
inductive Refusal where
  | foreignRelease (g : Grant)
  | notOutstanding (g : Grant)
  | altered (g : Grant)
  | alreadyFree (thread : Nat) (g : Grant)
  | foreignQuarantine (g : Grant)
  | unknownQuarantine (g : Grant)
  | imbalance (cause : Imbalance)
deriving DecidableEq, Repr

def Refusal.message : Refusal → String
  | .foreignRelease g => s!"CpuMap {g.render} released to a scheduler that did not issue it"
  | .notOutstanding g => s!"CpuMap {g.render} is not outstanding (double release?)"
  | .altered g => s!"CpuMap {g.render} does not match its reservation"
  | .alreadyFree thread g => s!"thread {thread} of {g.render} is already free"
  | .foreignQuarantine g =>
      s!"CpuMap {g.render} quarantined by a scheduler that did not issue it"
  | .unknownQuarantine g => s!"CpuMap {g.render} is not outstanding"
  | .imbalance cause => cause.message

namespace Scheduler

/-- The threads of a machine of which exactly the listed ones are free. -/
def poolOf (t : Topology) (threads : List Nat) : FreeSet :=
  mark (List.replicate t.totalThreads false) true threads

/-- A scheduler over the first `maxThreads` threads of a machine in spread order; it owns none
only if it may own none. -/
def start? (id : Nat) (topology : Topology) (maxThreads : Nat) : Option Scheduler :=
  if maxThreads = 0 then none
  else
    let limit := min maxThreads topology.totalThreads
    let owned := topology.spreadOrder limit
    some
      { id, topology, owned
        debug := false
        free := poolOf topology owned
        freeCount := limit
        nextTicket := 0
        outstanding := []
        quarantined := 0
        shapes := [] }

def enableDebug (s : Scheduler) : Scheduler :=
  { s with debug := true }

def maxThreads (s : Scheduler) : Nat := s.owned.length

/-- The first `limit` owned threads, all free. -/
def idlePool (s : Scheduler) (limit : Nat) : FreeSet :=
  poolOf s.topology (s.owned.take limit)

/-- Whether a class fits the owned threads when none is taken. -/
def fitsIdle (s : Scheduler) (c : Class) : Bool :=
  c.size ≤ s.maxThreads &&
    (find s.topology (s.idlePool s.maxThreads) (Shape.ofClass c)).isSome

/-- Every class with `roles` roles that fits the first `maxThreads` owned threads when none is
taken, whatever is taken now. -/
def localAffinity (s : Scheduler) (roles maxThreads : Nat) : List Class :=
  let limit := min maxThreads s.maxThreads
  if roles = 0 ∨ limit < roles then []
  else
    let pool := s.idlePool limit
    (Class.enumerate roles).filter fun c =>
      (find s.topology pool (Shape.ofClass c)).isSome

/-- The shape of a class, from the table of shapes if it is there, and the table with it. -/
def shapeFor (s : Scheduler) (c : Class) : Shape × List (Class × Shape) :=
  match s.shapes.lookup c with
  | some shape => (shape, s.shapes)
  | none => (Shape.ofClass c, (c, Shape.ofClass c) :: s.shapes)

/-- The first defect among the threads of one grant; `seen` are the threads held so far. -/
def auditGrant (s : Scheduler) (ticket : Nat) (seen : FreeSet) :
    List Nat → Except Imbalance FreeSet
  | [] => .ok seen
  | th :: rest =>
      if isFree seen th then .error (.heldTwice th ticket)
      else if isFree s.free th then .error (.heldButFree th)
      else auditGrant s ticket (seen.set th true) rest

/-- Checks that the free counter counts the free threads, that no thread is held twice or both
held and free, and that every owned thread is free or held. -/
def audit (s : Scheduler) : Except Imbalance Unit :=
  if countFree s.free ≠ s.freeCount then .error .drifted
  else
    match s.outstanding.foldlM (fun seen e => s.auditGrant e.1 seen e.2)
        (List.replicate s.free.length false) with
    | .error e => .error e
    | .ok seen =>
        match s.owned.find? fun th => isFree seen th == isFree s.free th with
        | some th => .error (.unaccounted th)
        | none => .ok ()

/-- The outcome of a change: an audit that fails in debug mode is reported after the change. -/
def settle {α : Type} (s : Scheduler) (value : α) : Scheduler × Except Refusal α :=
  if s.debug then
    match s.audit with
    | .error e => (s, .error (.imbalance e))
    | .ok () => (s, .ok value)
  else (s, .ok value)

/-- Reserves a thread for each role of a class, or grants nothing if the free threads cannot host
it. -/
def tryAcquire (s : Scheduler) (c : Class) : Scheduler × Except Refusal (Option Grant) :=
  if s.freeCount < c.size then (s, .ok none)
  else
    let (shape, shapes) := s.shapeFor c
    let s := { s with shapes }
    match find s.topology s.free shape with
    | none => (s, .ok none)
    | some seats =>
        let g := Grant.issue s.id s.nextTicket c seats
        settle
          { s with
            free := mark s.free false seats
            freeCount := s.freeCount - seats.length
            nextTicket := s.nextTicket + 1
            outstanding := (g.ticket, g.threads) :: s.outstanding }
          (some g)

/-- Gives the threads of a grant back. -/
def release (s : Scheduler) (g : Grant) : Scheduler × Except Refusal Unit :=
  if g.issuer ≠ s.id then (s, .error (.foreignRelease g))
  else
    match s.outstanding.lookup g.ticket with
    | none => (s, .error (.notOutstanding g))
    | some threads =>
        if threads ≠ g.threads then (s, .error (.altered g))
        else
          match g.threads.find? (isFree s.free) with
          | some th => (s, .error (.alreadyFree th g))
          | none =>
              settle
                { s with
                  free := mark s.free true g.threads
                  freeCount := s.freeCount + g.threads.length
                  outstanding := s.outstanding.filter (·.1 ≠ g.ticket) }
                ()

/-- Keeps the threads of a grant reserved for as long as the scheduler lives. -/
def quarantine (s : Scheduler) (g : Grant) : Scheduler × Except Refusal Unit :=
  if g.issuer ≠ s.id then (s, .error (.foreignQuarantine g))
  else if (s.outstanding.lookup g.ticket).isNone then (s, .error (.unknownQuarantine g))
  else ({ s with quarantined := s.quarantined + 1 }, .ok ())

end Scheduler
end Litmus
