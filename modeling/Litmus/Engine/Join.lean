import Litmus.Engine.Machine

/-!
Joining a run: its owner collects the reports of the roles as they arrive and merges what the roles
observed. One role that broke off spoils the run.
-/
namespace Litmus

/-- A run whose reports are collected. -/
structure Joining where
  test : String
  actors : List String
  /-- What each role observed, as far as it has reported. -/
  perRole : List (Option (Tally Outcome))

/-- How collecting ends. -/
inductive JoinEnd where
  | merged (tally : Tally Outcome)
  /-- Collecting broke off. -/
  | broken (fault : Fault)
  /-- The run failed, and so many reports have not arrived. -/
  | failed (cause : StressError) (missing : Nat)

namespace Joining

def start (test : String) (actors : List String) : Joining :=
  { test, actors, perRole := List.replicate actors.length none }

/-- How many roles have not reported. -/
def pending (j : Joining) : Nat := j.perRole.countP Option.isNone

/-- The roles did not report in time. -/
def timeout (j : Joining) : StressError :=
  .timeout s!"{j.pending} of {j.actors.length} roles of '{j.test}' did not stop"

/-- A role broke off. -/
def panicked (j : Joining) (role : Nat) (fault : Fault) : StressError :=
  .actorPanicked role (j.actors[role]?.getD "") fault.message

/-- What all roles observed together, in role order. -/
def merge (j : Joining) : Except Fault (Tally Outcome) :=
  (j.perRole.filterMap id).foldlM Tally.merge .empty

/-- Waits for a number of reports, which are of no use any more: how many never arrive. -/
def drain (awaited : Nat) (arriving : List Exit) : Nat := awaited - arriving.length

/-- What is left to do after a role broke off: to wait for the roles that have not reported. -/
def abandon (j : Joining) (role : Nat) (fault : Fault) (arriving : List Exit) : JoinEnd :=
  match Word.sub j.pending 1 with
  | .error fault => .broken fault
  | .ok others => .failed (j.panicked role fault) (drain others arriving)

/-- Collects the reports that arrive in time. After the first role that broke off, the reports of
the others are only waited for. -/
def collect (j : Joining) : List Exit → JoinEnd
  | [] =>
      if j.pending = 0 then
        match j.merge with
        | .ok tally => .merged tally
        | .error fault => .broken fault
      else .failed j.timeout j.pending
  | exit :: rest =>
      match exit.result with
      | .ok tally => collect { j with perRole := j.perRole.set exit.role (some tally) } rest
      | .error fault => j.abandon exit.role fault rest

end Joining
end Litmus
