import Litmus.Proofs.Runner.Events
import Litmus.Proofs.Runner.Stages
import Litmus.Proofs.Runner.Waiting
import Litmus.Runner.Live

/-!
Settlement: whatever becomes of a run, the table afterwards holds what others have made of it
meanwhile. Only if an iteration failed and left roles behind there is one grant more, that of the
run, which is set aside.
-/
namespace Litmus

open Scheduler

variable {ω σ : Type} {others : Others ω} {engine : Iterate ω} {c : Class} {g : Grant}
  {b : Bench ω}

/-- Others that change a scheduler by calls of it. -/
structure Calling (hook : Bench ω → Bench ω) where
  calls : Bench ω → List Call
  formed : ∀ b, ∀ k ∈ calls b, k.Formed
  made : ∀ b, (hook b).scheduler = (b.scheduler.session (calls b)).1

def Calling.events {hook : Bench ω → Bench ω} (h : Calling hook) (b : Bench ω) : List RunEvent :=
  (h.calls b).map .other

structure Others.Calling (others : Others ω) where
  attempt : ∀ k, Litmus.Calling (others.beforeAttempt k)
  iteration : ∀ n, Litmus.Calling (others.beforeIteration n)
  finish : Litmus.Calling others.beforeEnd

theorem Calling.follow_events {hook : Bench ω → Bench ω} (h : Calling hook) (b : Bench ω) :
    b.scheduler.follow (h.events b) = (hook b).scheduler := by
  rw [events, follow_other, h.made]

theorem Calling.foreign_events {hook : Bench ω → Bench ω} (h : Calling hook) (b : Bench ω) :
    ∀ e ∈ h.events b, e.Foreign :=
  List.forall_mem_map.2 (h.formed b)

/-! ### Waiting for a placement -/

/-- The events of up to `left` attempts to acquire. -/
def Bench.attemptEvents (calling : others.Calling) (c : Class) :
    (left k : Nat) → Bench ω → List RunEvent
  | 0, _, _ => []
  | left + 1, k, b =>
      (calling.attempt k).events b ++ .own (.acquire c) ::
        match ((others.beforeAttempt k b).scheduler.tryAcquire c).2 with
        | .ok none =>
            if (others.beforeAttempt k b).cancelled then []
            else attemptEvents calling c left (k + 1) ((others.beforeAttempt k b).attempted c)
        | _ => []

inductive Awaited (c : Class) (s : Scheduler) (es : List RunEvent) : Bench.Acquired → Prop where
  | granted {g : Grant} (stays : Stays c g s es) : Awaited c s es (.granted g)
  | refused {cause : StressError} (waits : Waits c s es) : Awaited c s es (.refused cause)
  | waiting (waits : Waits c s es) : Awaited c s es .waiting

theorem Awaited.after {es es' : List RunEvent} {s : Scheduler} {a : Bench.Acquired}
    (before : Waits c s es) (h : Awaited c (s.follow es) es' a) : Awaited c s (es ++ es') a := by
  cases h with
  | granted stays => exact .granted (before.stays stays)
  | refused waits => exact .refused (before.append waits)
  | waiting waits => exact .waiting (before.append waits)

theorem attempt_awaited (calling : others.Calling) (formed : c.Formed) (left k : Nat)
    (hs : b.scheduler.Balanced) :
    (b.attempt others c left k).1.scheduler =
        b.scheduler.follow (Bench.attemptEvents calling c left k b) ∧
      Awaited c b.scheduler (Bench.attemptEvents calling c left k b)
        (b.attempt others c left k).2 := by
  induction left generalizing k b with
  | zero => exact ⟨rfl, .waiting (.start hs)⟩
  | succ left ih =>
      have met := (calling.attempt k).follow_events b
      have before : Waits c b.scheduler _ := .foreign hs ((calling.attempt k).foreign_events b)
      have hs' := met ▸ before.balanced
      obtain ⟨result, answer⟩ := hs'.tryAcquire_ok formed
      rw [Bench.attempt_succ, Bench.attemptEvents, follow_append, met]
      cases result with
      | some g =>
          rw [answer]
          refine ⟨rfl, .after before ?_⟩
          rw [met]
          exact .granted (.granted_acquire hs' formed answer)
      | none =>
          have declined := Waits.declined_acquire hs' formed answer
          rw [answer]
          dsimp only
          split
          · refine ⟨rfl, .after before ?_⟩
            rw [met]
            exact .refused declined
          · obtain ⟨table, awaited⟩ :=
              ih (k + 1) (b := (others.beforeAttempt k b).attempted c) declined.balanced
            refine ⟨table, .after before ?_⟩
            rw [met]
            exact .after declined awaited

/-- The events of up to `left` more iterations. -/
def Runner.iterateEvents (calling : others.Calling) (engine : Iterate ω) :
    (left : Nat) → Progress → Bench ω → List RunEvent
  | 0, _, _ => []
  | left + 1, p, b =>
      (calling.iteration p.iterations).events b ++
        if (others.beforeIteration p.iterations b).cancelled then []
        else
          .ended (engine (others.beforeIteration p.iterations b)).2 ::
            match engine (others.beforeIteration p.iterations b) with
            | (b, .joined tally) =>
                match p.counted tally with
                | .error _ => []
                | .ok p => iterateEvents calling engine left p b
            | _ => []

/-- An iteration failed and left roles behind. -/
def Strands (es : List RunEvent) : Prop :=
  ∃ cause, .ended (.failed cause false) ∈ es

theorem foreign_iterateEvents (calling : others.Calling) (engine : Iterate ω) (left : Nat)
    (p : Progress) (b : Bench ω) :
    ∀ e ∈ Runner.iterateEvents calling engine left p b, e.Foreign := by
  induction left generalizing p b with
  | zero => simp [Runner.iterateEvents]
  | succ left ih =>
      rw [Runner.iterateEvents]
      refine List.forall_mem_append.2 ⟨(calling.iteration p.iterations).foreign_events b, ?_⟩
      split
      · simp
      · refine List.forall_mem_cons.2 ⟨trivial, ?_⟩
        split
        · split
          · simp
          · exact ih _ _
        · simp

theorem scheduler_iterate (calling : others.Calling)
    (quiet : ∀ b, (engine b).1.scheduler = b.scheduler) (left : Nat) (p : Progress) (b : Bench ω) :
    (Runner.iterate others engine left p b).1.scheduler =
      b.scheduler.follow (Runner.iterateEvents calling engine left p b) := by
  induction left generalizing p b with
  | zero => rfl
  | succ left ih =>
      rw [Runner.iterate, Runner.iterateEvents, follow_append,
        (calling.iteration p.iterations).follow_events]
      have same := quiet (others.beforeIteration p.iterations b)
      split
      · rfl
      · change _ = (others.beforeIteration p.iterations b).scheduler.follow _
        rw [← same]
        cases engine (others.beforeIteration p.iterations b) with
        | mk b' e =>
            cases e with
            | notStarted cause => rfl
            | failed cause allExited => rfl
            | broken fault => rfl
            | joined tally =>
                dsimp only
                cases p.counted tally with
                | error fault => rfl
                | ok p => exact ih p b'

theorem strands_append {es es' : List RunEvent} :
    Strands (es ++ es') ↔ Strands es ∨ Strands es' := by
  simp only [Strands, List.mem_append, exists_or]

/-- What becomes of iterations that started with nobody left behind. -/
inductive Iterated (es : List RunEvent) : Except Fault Progress → Prop where
  | broken {fault : Fault} (safe : ¬ Strands es) : Iterated es (.error fault)
  | clear {p : Progress} (safe : ¬ Strands es) (clear : p.stranded = false) : Iterated es (.ok p)
  | stranded {p : Progress} (strands : Strands es) (stranded : p.stranded = true)
      (failed : p.status ≠ .normal) : Iterated es (.ok p)

theorem Iterated.congr {es es' : List RunEvent} {result : Except Fault Progress}
    (same : Strands es ↔ Strands es') (h : Iterated es' result) : Iterated es result := by
  cases h with
  | broken safe => exact .broken (same.not.2 safe)
  | clear safe clear => exact .clear (same.not.2 safe) clear
  | stranded strands stranded failed => exact .stranded (same.2 strands) stranded failed

theorem Iterated.after {es es' : List RunEvent} {result : Except Fault Progress}
    (safe : ¬ Strands es) (h : Iterated es' result) : Iterated (es ++ es') result :=
  h.congr (by simp [strands_append, safe])

namespace Runner

variable {r : Runner} {t : StressTest ω σ} {range : StrideRange} {first : Tally Outcome}
  {s : Scheduler} {es : List RunEvent}

/-- How a placement is handed back after some iterations. -/
def handBack (g : Grant) : Except Fault Progress → Call
  | .error _ => .release g
  | .ok p => if p.stranded then .quarantine g else .release g

/-- The end of a run from what became of its iterations. -/
def close (t : StressTest ω σ) (c : Class) (range : StrideRange) (g : Grant)
    (iterated : Except Fault Progress) (b : Bench ω) : Bench ω × RunEnd :=
  match iterated with
  | .error fault => ((b.release g).1, .escaped fault)
  | .ok p =>
      match settle g p b with
      | (b, _, some fault) => (b, .escaped fault)
      | (b, p, none) => conclude (report t c g range p) b

def strandedMessage : String := "Role threads still running, placement quarantined"

theorem conclude_done {result : TestResult} (failed : result.status ≠ .normal) (b : Bench ω) :
    (conclude result b).2 = .done result := by
  unfold conclude TestResult.log
  rw [if_neg (by simp [failed])]
  rfl

theorem settle_stranded {p : Progress} (stranded : p.stranded = true)
    (holds : b.scheduler.Holds g) :
    settle g p b = ((b.quarantine g).1, p.note [strandedMessage], none) := by
  have accepted := quarantine_known holds.own (by simp [holds.known])
  have fault : (b.quarantine g).2 = none := by
    change Bench.settled (b.scheduler.quarantine g).2 = none
    rw [accepted]
    rfl
  rw [settle, if_pos stranded, ← fault]
  rfl

theorem settle_clear {p : Progress} (clear : p.stranded = false) (balanced : b.scheduler.Balanced)
    (holds : b.scheduler.Holds g) : settle g p b = ((b.release g).1, p, none) := by
  have accepted := balanced.release_known holds.own holds.known
  have fault : (b.release g).2 = none := by
    change Bench.settled (b.scheduler.release g).2 = none
    rw [accepted]
    rfl
  rw [settle, if_neg (by simp [clear]), ← fault]

/-- The events from a grant on. -/
def occupyEvents (r : Runner) (calling : others.Calling) (engine : Iterate ω) (name : String)
    (first : Tally Outcome) (g : Grant) (b : Bench ω) : List RunEvent :=
  let start := b.say (placementLog name g ++ (r.pinPlan g).2)
  let ended := iterate others engine r.settings.iterations { results := first } start
  iterateEvents calling engine r.settings.iterations { results := first } start ++
    calling.finish.events ended.1 ++ [.own (handBack g ended.2)]

theorem occupy_eq : r.occupy others engine t c range first g b =
    let ended := iterate others engine r.settings.iterations { results := first }
      (b.say (placementLog t.name g ++ (r.pinPlan g).2))
    close t c range g ended.2 (others.beforeEnd ended.1) := by
  rw [occupy]
  cases iterate others engine r.settings.iterations { results := first }
      (b.say (placementLog t.name g ++ (r.pinPlan g).2)) with
  | mk b' result => cases result <;> rfl

/-- A run keeps its placement through its iterations. -/
theorem stays_iterate (calling : others.Calling)
    (quiet : ∀ b, (engine b).1.scheduler = b.scheduler) (stays : Stays c g s es)
    (table : b.scheduler = s.follow es) (left : Nat) (p : Progress)
    (spares : ∀ e ∈ iterateEvents calling engine left p b ++
        calling.finish.events (iterate others engine left p b).1, e.Spares g) :
    Stays c g s (es ++ (iterateEvents calling engine left p b ++
        calling.finish.events (iterate others engine left p b).1)) ∧
      (others.beforeEnd (iterate others engine left p b).1).scheduler =
        s.follow (es ++ (iterateEvents calling engine left p b ++
          calling.finish.events (iterate others engine left p b).1)) := by
  refine ⟨stays.foreign (List.forall_mem_append.2 ⟨?_, ?_⟩) spares, ?_⟩
  · exact foreign_iterateEvents _ _ _ _ _
  · exact calling.finish.foreign_events _
  · rw [follow_append, follow_append, ← table, ← calling.finish.follow_events,
      scheduler_iterate calling quiet]

def events (r : Runner) (calling : others.Calling) (engine : EnginePlan ω σ → Iterate ω)
    (t : StressTest ω σ) (c : Class) (b : Bench ω) : List RunEvent :=
  match r.prepare t c b with
  | .stopped _ _ => []
  | .ready b range first =>
      if b.scheduler.fitsIdle c then
        Bench.attemptEvents calling c others.patience 0 b ++
          match b.attempt others c others.patience 0 with
          | (b, .granted g) =>
              r.occupyEvents calling (engine ⟨t, range, b.host.memory⟩) t.name first g b
          | _ => []
      else []

/-- An engine whose roles take turns leaves the scheduler alone. -/
theorem scheduler_live (style : SpinStyle) (rounds : Nat) (p : EnginePlan ω σ) (b : Bench ω) :
    (live style rounds p b).1.scheduler = b.scheduler := by
  unfold live
  split <;> rfl

/-! ### A role that does not leave -/

def idleCalling : (Others.idle : Others ω).Calling where
  attempt _ := ⟨fun _ => [], by simp, fun _ => rfl⟩
  iteration _ := ⟨fun _ => [], by simp, fun _ => rfl⟩
  finish := ⟨fun _ => [], by simp, fun _ => rfl⟩

/-- A test of one role that does nothing. -/
def soloTest : StressTest Unit Unit :=
  { name := "solo"
    actors := [⟨"a", fun w s o => { world := w, state := s, result := o }⟩]
    fresh := fun w => (w, .ok ())
    slots := 1
    pairBytes := 8 }

def stuckEnd : IterationEnd := .failed (.timeout "1 role is running") false

/-- An engine whose role does not leave in time. -/
def stuck : EnginePlan Unit Unit → Iterate Unit := fun _ b => (b, stuckEnd)

def soloRunner : Runner := { settings := { minStride := 1, maxStride := 1 } }

def soloBench : Bench Unit := { scheduler := lopsidedIdle, host := .swift 8, world := () }

theorem attempt_lost {b : Bench ω} (table : b.scheduler = lopsidedIdle) :
    b.attempt Others.idle lostGrant.shape 1 0 =
      (b.attempted lostGrant.shape, .granted lostGrant) := by
  have answer : (lopsidedIdle.tryAcquire lostGrant.shape).2 = .ok (some lostGrant) := by cbv
  rw [Bench.attempt_succ]
  simp only [Others.idle, table, answer]

end Runner
end Litmus
