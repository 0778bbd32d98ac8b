import Litmus.Proofs.Engine.Breaks
import Litmus.Runner.Live

/-!
Iterations on an engine. Nothing is asked of an engine run but that its roles take some steps, in
whatever order and for however long, and that the reports which have arrived by then are joined.
-/
namespace Litmus.Runner

variable {ω σ : Type} {b : Bench ω} {fault : Fault}

/-- An iteration whose roles take the steps of a schedule, if they are launched at all. -/
inductive Scheduled (p : EnginePlan ω σ) (b : Bench ω) (ms : List Engine.Move) :
    Bench ω × IterationEnd → Prop where
  | unstarted (cause : StressError) : Scheduled p b ms (b, .notStarted cause)
  | unlaunched (fault : Fault) (refused : p.start b.world = .error fault) :
      Scheduled p b ms (b, .broken fault)
  | joined (start e : Engine ω σ) (late : Bench ω) (launched : p.start b.world = .ok start)
      (ran : start.run p ms = e) (table : late.scheduler = b.scheduler)
      (world : late.world = e.world) (cancelled : late.cancelled = (b.cancelled || e.cancelled)) :
      Scheduled p b ms (late, endOf e (p.join e))

theorem start_eq_ok {p : EnginePlan ω σ} {world : ω} {start : Engine ω σ}
    (launched : p.start world = .ok start) : start = p.launch world := by
  unfold EnginePlan.start at launched
  split at launched
  · simp at launched
  · exact (Except.ok.inj launched).symm

theorem start_eq_error {p : EnginePlan ω σ} {world : ω} (refused : p.start world = .error fault) :
    ∃ role, '\x00' ∈ (p.threadName role).toList ∧ fault = .threadName (p.threadName role) := by
  unfold EnginePlan.start at refused
  split at refused
  case h_1 name found =>
    obtain ⟨role, -, rfl⟩ := List.mem_map.1 (List.mem_of_find?_eq_some found)
    have zero := List.find?_some found
    exact ⟨role, by simpa using zero, (Except.error.inj refused).symm⟩
  case h_2 => simp at refused

namespace Scheduled

variable {p : EnginePlan ω σ} {ms : List Engine.Move} {ended : Bench ω × IterationEnd}

theorem scheduler (h : Scheduled p b ms ended) : ended.1.scheduler = b.scheduler := by
  cases h with
  | unstarted cause => rfl
  | unlaunched fault refused => rfl
  | joined start e late launched ran table => exact table

/-- An engine run in which a role meets a fault is one that failed. -/
theorem failed (h : Scheduled p b ms ended) {start : Engine ω σ}
    (launched : p.start b.world = .ok start) (broke : Engine.BreaksOff p start ms) :
    (∃ cause, ended.2 = .notStarted cause) ∨
      ∃ cause allExited, ended.2 = .failed cause allExited := by
  cases h with
  | unstarted cause => exact .inl ⟨cause, rfl⟩
  | unlaunched fault refused => simp [launched] at refused
  | joined start' e late launched' ran =>
      obtain rfl : start = start' := Except.ok.inj (launched.symm.trans launched')
      obtain rfl := start_eq_ok launched
      obtain ⟨cause, missing, joined⟩ := EnginePlan.join_failed (.launch p b.world) broke
      refine .inr ⟨cause, e.allExited, ?_⟩
      rw [← ran, joined]
      rfl

theorem broken (h : Scheduled p b ms ended) (broke : ended.2 = .broken fault) :
    (∃ role, '\x00' ∈ (p.threadName role).toList ∧ fault = .threadName (p.threadName role)) ∨
      fault = .addOverflow := by
  cases h with
  | unstarted cause => simp at broke
  | unlaunched fault' refused =>
      obtain rfl : fault' = fault := by simpa using broke
      exact .inl (start_eq_error refused)
  | joined start e late launched ran =>
      obtain rfl := start_eq_ok launched
      cases joined : p.join e with
      | merged tally => simp [joined, endOf] at broke
      | failed cause missing => simp [joined, endOf] at broke
      | broken fault' =>
          obtain rfl : fault' = fault := by simpa [joined, endOf] using broke
          rw [← ran] at joined
          exact .inr (EnginePlan.join_broken (.launch p b.world) joined)

end Scheduled

/-! ### Engines that take the steps of schedules -/

/-- An engine whose roles take the steps of given schedules. -/
def scripted (moves : EnginePlan ω σ → Bench ω → List Engine.Move) (p : EnginePlan ω σ) :
    Iterate ω := fun b =>
  match p.start b.world with
  | .error fault => (b, .broken fault)
  | .ok start =>
      let e := start.run p (moves p b)
      ({ b with world := e.world, cancelled := b.cancelled || e.cancelled }, endOf e (p.join e))

theorem scheduled_scripted (moves : EnginePlan ω σ → Bench ω → List Engine.Move)
    (p : EnginePlan ω σ) (b : Bench ω) : Scheduled p b (moves p b) (scripted moves p b) := by
  unfold scripted
  cases launched : p.start b.world with
  | error fault => exact .unlaunched fault launched
  | ok start => exact .joined start _ _ launched rfl rfl rfl rfl

theorem exists_turn_eq (p : EnginePlan ω σ) (held : Engine.Held ω σ) (e : Engine ω σ) :
    ∃ ms, Engine.turn p held e = e.run p ms := by
  unfold Engine.turn
  induction List.range p.size generalizing e with
  | nil => exact ⟨[], rfl⟩
  | cons r rs ih =>
      obtain ⟨ms, rest⟩ := ih (if held e r then e else e.apply p (.role r))
      rw [List.foldl_cons, rest]
      split
      · exact ⟨ms, rfl⟩
      · exact ⟨.role r :: ms, rfl⟩

theorem exists_turnsUntil_eq (p : EnginePlan ω σ) (held : Engine.Held ω σ)
    (done : Engine ω σ → Bool) (fuel : Nat) (e : Engine ω σ) :
    ∃ ms, Engine.turnsUntil p held done fuel e = e.run p ms := by
  induction fuel generalizing e with
  | zero => exact ⟨[], rfl⟩
  | succ fuel ih =>
      rw [Engine.turnsUntil]
      split
      · exact ⟨[], rfl⟩
      · obtain ⟨ms, first⟩ := exists_turn_eq p held e
        obtain ⟨ms', rest⟩ := ih (e.run p ms)
        exact ⟨ms ++ ms', by rw [first, rest, Engine.run_append]⟩

/-- An engine whose roles take turns takes the steps of some schedule. -/
theorem exists_scheduled_live (style : SpinStyle) (rounds : Nat) (p : EnginePlan ω σ)
    (b : Bench ω) : ∃ ms, Scheduled p b ms (live style rounds p b) := by
  unfold live
  cases launched : p.start b.world with
  | error fault => exact ⟨[], .unlaunched fault launched⟩
  | ok start =>
      obtain ⟨ms, going⟩ := exists_turnsUntil_eq p Engine.noneHeld
        (fun e => e.cancelled || e.allExited || rounds ≤ e.stats.publishes)
        (Engine.turnsFor rounds p.poolBound) start
      obtain ⟨ms', ending⟩ := exists_turnsUntil_eq p Engine.noneHeld p.allReported
        (Engine.turnsFor 1 p.poolBound) ((start.run p ms).apply p .stop)
      refine ⟨ms ++ .stop :: ms', .joined start _ _ launched ?_ rfl rfl rfl⟩
      rw [Engine.run_append, Engine.run_cons, ← ending, EnginePlan.runFor, going]
      rfl

end Litmus.Runner
