import Litmus.Proofs.Runner.Schedules
import Litmus.Proofs.Runner.Settlement
import Litmus.Proofs.Stride.Climb
import Litmus.Suite.Basic

/-!
Faults that bodies raise in a run. The trial catches them and so does the engine: the run then ends
with a result that is not normal. The search for a stride range in between does not; a fault that a
body raises there leaves the run.
-/
namespace Litmus

open Scheduler

variable {ω σ : Type} {others : Others ω} {c : Class} {g : Grant} {b : Bench ω} {fault : Fault}

namespace Runner

/-! ### Iterations -/

/-- The benches on which up to `left` more iterations start their engine. -/
def starts (others : Others ω) (engine : Iterate ω) :
    (left : Nat) → Progress → Bench ω → List (Bench ω)
  | 0, _, _ => []
  | left + 1, p, b =>
      let b := others.beforeIteration p.iterations b
      if b.cancelled then []
      else
        b :: match engine b with
          | (b, .joined tally) =>
              match p.counted tally with
              | .error _ => []
              | .ok p => starts others engine left p b
          | _ => []

variable {engine : Iterate ω} {left : Nat} {p : Progress}

theorem head_mem_starts (left : Nat)
    (going : (others.beforeIteration p.iterations b).cancelled = false) :
    others.beforeIteration p.iterations b ∈ starts others engine (left + 1) p b := by
  rw [starts, if_neg (by simp [going])]
  exact List.mem_cons_self

theorem status_failed (p : Progress) (cause : StressError) (allExited : Bool) :
    (p.failed cause allExited).status ≠ .normal := by
  unfold Progress.failed
  split <;> simp [Progress.note]

/-- An iteration whose engine fails ends the iterations, and is not passed over. -/
theorem iterate_failed {b₁ : Bench ω} (mem : b₁ ∈ starts others engine left p b)
    (failed : (∃ cause, (engine b₁).2 = .notStarted cause) ∨
      ∃ cause allExited, (engine b₁).2 = .failed cause allExited) :
    ∃ p', (iterate others engine left p b).2 = .ok p' ∧ p'.status ≠ .normal := by
  -- Only the last of the starts can have failed: those before it handed their benches on.
  induction left generalizing p b with
  | zero => simp [starts] at mem
  | succ left ih =>
      rw [starts] at mem
      rw [iterate]
      split at mem
      · simp at mem
      case isFalse going =>
        rw [if_neg going]
        cases ran : engine (others.beforeIteration p.iterations b) with
        | mk b' e =>
            rw [ran] at mem
            cases e with
            | notStarted cause => exact ⟨_, rfl, by simp [Progress.unstarted, Progress.note]⟩
            | failed cause allExited => exact ⟨_, rfl, status_failed p cause allExited⟩
            | broken fault =>
                obtain rfl : b₁ = _ := by simpa using mem
                simp [ran] at failed
            | joined tally =>
                rcases List.mem_cons.1 mem with rfl | later
                · simp [ran] at failed
                · dsimp only at later ⊢
                  cases counted : p.counted tally with
                  | error fault => simp [counted] at later
                  | ok p' =>
                      rw [counted] at later
                      exact ih later

theorem counted_eq_error {tally : Tally Outcome} (h : p.counted tally = .error fault) :
    fault = .addOverflow := by
  unfold Progress.counted at h
  cases merged : p.results.merge tally with
  | error fault' =>
      obtain rfl : fault' = fault := by simpa [merged, Except.map] using h
      exact Tally.merge_eq_error merged
  | ok results => simp [merged, Except.map] at h

theorem iterate_eq_error (broke : (iterate others engine left p b).2 = .error fault) :
    (∃ b₁, (engine b₁).2 = .broken fault) ∨ fault = .addOverflow := by
  induction left generalizing p b with
  | zero => simp [iterate] at broke
  | succ left ih =>
      rw [iterate] at broke
      split at broke
      · simp at broke
      · cases ran : engine (others.beforeIteration p.iterations b) with
        | mk b' e =>
            rw [ran] at broke
            cases e with
            | notStarted cause => simp at broke
            | failed cause allExited => simp at broke
            | broken fault' =>
                obtain rfl : fault' = fault := by simpa using broke
                exact .inl ⟨_, congrArg Prod.snd ran⟩
            | joined tally =>
                dsimp only at broke
                cases counted : p.counted tally with
                | error fault' =>
                    obtain rfl : fault' = fault := by simpa [counted] using broke
                    exact .inr (counted_eq_error counted)
                | ok p' =>
                    rw [counted] at broke
                    exact ih broke

/-! ### Handing the placement back -/

theorem log_eq_error {result : TestResult} (h : result.log = .error fault) :
    fault = .addOverflow := by
  unfold TestResult.log at h
  split at h
  · cases sum : result.samples with
    | error fault' =>
        obtain rfl : fault' = fault := by simpa [sum, bind, Except.bind] using h
        exact Tally.sum_eq_error sum
    | ok samples => simp [sum, bind, Except.bind, pure, Except.pure] at h
  · exact nomatch h

theorem conclude_escaped {result : TestResult} (h : (conclude result b).2 = .escaped fault) :
    fault = .addOverflow := by
  unfold conclude at h
  cases logged : result.log with
  | ok log => simp [logged] at h
  | error fault' =>
      obtain rfl : fault' = fault := by simpa [logged] using h
      exact log_eq_error logged

variable {t : StressTest ω σ} {range : StrideRange} {iterated : Except Fault Progress}

theorem close_done {p : Progress} (failed : p.status ≠ .normal) (balanced : b.scheduler.Balanced)
    (holds : b.scheduler.Holds g) :
    ∃ result, (close t c range g (.ok p) b).2 = .done result ∧ result.status ≠ .normal := by
  rw [close]
  cases stranded : p.stranded with
  | true =>
      rw [settle_stranded stranded holds]
      exact ⟨_, conclude_done failed _, failed⟩
  | false =>
      rw [settle_clear stranded balanced holds]
      exact ⟨_, conclude_done failed _, failed⟩

theorem close_escaped (balanced : b.scheduler.Balanced) (holds : b.scheduler.Holds g)
    (h : (close t c range g iterated b).2 = .escaped fault) :
    iterated = .error fault ∨ fault = .addOverflow := by
  cases iterated with
  | error fault' =>
      obtain rfl : fault' = fault := by simpa [close] using h
      exact .inl rfl
  | ok p =>
      rw [close] at h
      cases stranded : p.stranded with
      | true =>
          rw [settle_stranded stranded holds] at h
          exact .inr (conclude_escaped h)
      | false =>
          rw [settle_clear stranded balanced holds] at h
          exact .inr (conclude_escaped h)

/-! ### Whole runs -/

/-- The engine runs of a run, each with its plan and the bench on which it starts. -/
def launches (r : Runner) (others : Others ω) (engine : EnginePlan ω σ → Iterate ω)
    (t : StressTest ω σ) (c : Class) (b : Bench ω) : List (EnginePlan ω σ × Bench ω) :=
  match r.prepare t c b with
  | .stopped _ _ => []
  | .ready b range first =>
      match b.acquire others c with
      | (b, .granted g) =>
          (starts others (engine ⟨t, range, b.host.memory⟩) r.settings.iterations
            { results := first } (b.say (placementLog t.name g ++ (r.pinPlan g).2))).map
              (⟨t, range, b.host.memory⟩, ·)
      | _ => []

def RaisesInTrial (t : StressTest ω σ) (b : Bench ω) (fault : Fault) : Prop :=
  (t.sanityTrial b.world).result = .error fault

/-- A body raises a fault in the search that follows a trial without one. -/
def RaisesInSearch (r : Runner) (t : StressTest ω σ) (b : Bench ω) (fault : Fault) : Prop :=
  (∀ fault', ¬ RaisesInTrial t b fault') ∧
    ∃ size, (size, .broken fault) ∈ (r.search t (tried t b)).readings

/-- A role meets a fault in an iteration, whose roles take the steps of a schedule. -/
def RaisesInIteration (r : Runner) (others : Others ω) (engine : EnginePlan ω σ → Iterate ω)
    (moves : EnginePlan ω σ → Bench ω → List Engine.Move) (t : StressTest ω σ) (c : Class)
    (b : Bench ω) : Prop :=
  ∃ p b₁ start, (p, b₁) ∈ r.launches others engine t c b ∧ p.start b₁.world = .ok start ∧
    Engine.BreaksOff p start (moves p b₁)

/-- Faults of a run that no body raises: something in it does not fit. -/
inductive Unfit (r : Runner) (t : StressTest ω σ) : Fault → Prop where
  | budget (large : Word.bound ≤ r.settings.maxFootprintMb * 1024 * 1024 ∨
      Word.signedBound < r.settings.maxStride) : Unfit r t .mulOverflow
  | count : Unfit r t .addOverflow
  | name (p : EnginePlan ω σ) (tested : p.test = t) (role : Nat)
      (zero : '\x00' ∈ (p.threadName role).toList) : Unfit r t (.threadName (p.threadName role))

/-- What becomes of the faults that bodies raise in a run. -/
structure Contains (r : Runner) (others : Others ω) (engine : EnginePlan ω σ → Iterate ω)
    (moves : EnginePlan ω σ → Bench ω → List Engine.Move) (t : StressTest ω σ) (c : Class)
    (b : Bench ω) (ended : RunEnd) : Prop where
  trial : ∀ fault, RaisesInTrial t b fault → ended =
    .done (.unrun t.name c .checkTestError ["Check test failed", fault.message])
  iteration : RaisesInIteration r others engine moves t c b →
    ∃ result, ended = .done result ∧ result.status ≠ .normal
  search : ∀ fault, RaisesInSearch r t b fault → ended = .escaped fault
  escaped : ∀ fault, ended = .escaped fault → RaisesInSearch r t b fault ∨ Unfit r t fault

variable {r : Runner} {first : Tally Outcome}

inductive Prepares (r : Runner) (t : StressTest ω σ) (c : Class) (b : Bench ω) :
    Prepared ω → Prop where
  | tried (b' : Bench ω) (fault : Fault) (raised : RaisesInTrial t b fault) :
      Prepares r t c b (.stopped b'
        (.done (.unrun t.name c .checkTestError ["Check test failed", fault.message])))
  | searched (b' : Bench ω) (fault : Fault) (calm : ∀ fault, ¬ RaisesInTrial t b fault)
      (broke : (r.search t (Runner.tried t b)).range = .error fault) :
      Prepares r t c b (.stopped b' (.escaped fault))
  | ready (b' : Bench ω) (range : StrideRange) (first : Tally Outcome)
      (same : b'.scheduler = b.scheduler) (calm : ∀ fault, ¬ RaisesInTrial t b fault)
      (found : (r.search t (Runner.tried t b)).range = .ok range) :
      Prepares r t c b (.ready b' range first)

theorem prepares (sized : c.size = t.size) : Prepares r t c b (r.prepare t c b) := by
  unfold prepare
  rw [if_neg (not_not.2 sized)]
  cases trial : (t.sanityTrial b.world).result with
  | error fault =>
      have counted : firstTally t b = .error fault := by
        rw [firstTally, trial]
        rfl
      rw [counted]
      dsimp only
      rw [conclude_done (by simp [TestResult.unrun])]
      exact .tried _ fault trial
  | ok o =>
      have counted : firstTally t b = .ok ⟨[(o, 1)]⟩ := by
        rw [firstTally, trial]
        rfl
      have calm (fault : Fault) : ¬ RaisesInTrial t b fault := by simp [RaisesInTrial, trial]
      rw [counted]
      dsimp only
      cases found : (r.search t (Runner.tried t b)).range with
      | error fault => exact .searched _ fault calm found
      | ok range => exact .ready _ range _ rfl calm found

/-- A run still holds its placement when its iterations are over. -/
theorem holds_iterated (calling : others.Calling)
    (quiet : ∀ b, (engine b).1.scheduler = b.scheduler) {s : Scheduler} {es : List RunEvent}
    (stays : Stays c g s es) (table : b.scheduler = s.follow es) {name : String}
    (spares : ∀ e ∈ r.occupyEvents calling engine name first g b, e.Spares g) :
    let ended := iterate others engine r.settings.iterations { results := first }
      (b.say (placementLog name g ++ (r.pinPlan g).2))
    (others.beforeEnd ended.1).scheduler.Balanced ∧
      (others.beforeEnd ended.1).scheduler.Holds g := by
  obtain ⟨kept, late⟩ := stays_iterate calling quiet stays table r.settings.iterations
    { results := first } (b := b.say (placementLog name g ++ (r.pinPlan g).2))
    fun e mem => spares e (List.mem_append_left _ mem)
  exact ⟨late ▸ kept.balanced, late ▸ kept.holds⟩

/-- In its placement a run ends with a value, unless an engine run breaks off or a count does not
fit; a failed engine run shows in the value. -/
theorem occupy_contains (range : StrideRange) (calling : others.Calling)
    (quiet : ∀ b, (engine b).1.scheduler = b.scheduler) {s : Scheduler} {es : List RunEvent}
    (stays : Stays c g s es) (table : b.scheduler = s.follow es)
    (spares : ∀ e ∈ r.occupyEvents calling engine t.name first g b, e.Spares g) :
    (∀ b₁ ∈ starts others engine r.settings.iterations { results := first }
        (b.say (placementLog t.name g ++ (r.pinPlan g).2)),
      ((∃ cause, (engine b₁).2 = .notStarted cause) ∨
        ∃ cause allExited, (engine b₁).2 = .failed cause allExited) →
      ∃ result, (r.occupy others engine t c range first g b).2 = .done result ∧
        result.status ≠ .normal) ∧
    ∀ fault, (r.occupy others engine t c range first g b).2 = .escaped fault →
      (∃ b₁, (engine b₁).2 = .broken fault) ∨ fault = .addOverflow := by
  obtain ⟨balanced, holds⟩ := holds_iterated calling quiet stays table spares
  rw [occupy_eq]
  dsimp only
  refine ⟨fun b₁ mem failed => ?_, fun fault escaped => ?_⟩
  · obtain ⟨p, iterated, status⟩ := iterate_failed mem failed
    rw [iterated]
    exact close_done status balanced holds
  · rcases close_escaped balanced holds escaped with iterated | count
    · exact iterate_eq_error iterated
    · exact .inr count

/-- A run that is granted a placement, up to its iterations. -/
structure Housed (r : Runner) (calling : others.Calling) (engine : EnginePlan ω σ → Iterate ω)
    (t : StressTest ω σ) (c : Class) (b : Bench ω) (range : StrideRange) (first : Tally Outcome)
    (late : Bench ω) (g : Grant) (es : List RunEvent) : Prop where
  stays : Stays c g b.scheduler es
  table : late.scheduler = b.scheduler.follow es
  events : r.events calling engine t c b =
    es ++ r.occupyEvents calling (engine ⟨t, range, late.host.memory⟩) t.name first g late
  run : r.run others engine t c b =
    r.occupy others (engine ⟨t, range, late.host.memory⟩) t c range first g late
  launches : r.launches others engine t c b =
    (starts others (engine ⟨t, range, late.host.memory⟩) r.settings.iterations { results := first }
      (late.say (placementLog t.name g ++ (r.pinPlan g).2))).map (⟨t, range, late.host.memory⟩, ·)

theorem Housed.contains {calling : others.Calling} {engine : EnginePlan ω σ → Iterate ω}
    {moves : EnginePlan ω σ → Bench ω → List Engine.Move} {late : Bench ω} {es : List RunEvent}
    (h : Housed r calling engine t c b range first late g es)
    (scheduled : ∀ p b, Scheduled p b (moves p b) (engine p b))
    (spares : ∀ e ∈ r.events calling engine t c b, e.Spares g) :
    (RaisesInIteration r others engine moves t c b →
      ∃ result, (r.run others engine t c b).2 = .done result ∧ result.status ≠ .normal) ∧
    ∀ fault, (r.run others engine t c b).2 = .escaped fault → Unfit r t fault := by
  rw [h.events] at spares
  obtain ⟨caught, escapes⟩ := occupy_contains range calling
    (fun b => (scheduled ⟨t, range, late.host.memory⟩ b).scheduler) h.stays h.table
    (fun e mem => spares e (List.mem_append_right es mem))
  rw [h.run]
  refine ⟨?_, fun fault escaped => ?_⟩
  · rintro ⟨p, b₁, start, mem, launched, broke⟩
    rw [h.launches, List.mem_map] at mem
    obtain ⟨b₂, mem, heq⟩ := mem
    obtain ⟨rfl, rfl⟩ := Prod.mk.inj heq
    exact caught b₂ mem ((scheduled _ b₂).failed launched broke)
  · rcases escapes fault escaped with ⟨b₁, broken⟩ | rfl
    · rcases (scheduled _ b₁).broken broken with ⟨role, zero, rfl⟩ | rfl
      · exact .name _ rfl role zero
      · exact .count
    · exact .count

theorem housed_of_granted (calling : others.Calling) (engine : EnginePlan ω σ → Iterate ω)
    (formed : c.Formed) (balanced : b.scheduler.Balanced) {ready late : Bench ω}
    (prepared : r.prepare t c b = .ready ready range first)
    (granted : ready.acquire others c = (late, .granted g)) :
    Housed r calling engine t c b range first late g
      (Bench.attemptEvents calling c others.patience 0 ready) := by
  have same : ready.scheduler = b.scheduler := scheduler_ready prepared
  obtain ⟨table, awaited⟩ :=
    attempt_awaited calling formed others.patience 0 (b := ready) (same ▸ balanced)
  cases fits : ready.scheduler.fitsIdle c with
  | false => simp [Bench.acquire, fits] at granted
  | true =>
      have attempted : ready.attempt others c others.patience 0 = (late, .granted g) := by
        simpa [Bench.acquire, fits] using granted
      rw [attempted, same] at awaited
      rw [attempted, same] at table
      cases awaited with
      | granted stays =>
          refine ⟨stays, table, ?_, ?_, ?_⟩
          · simp [events, prepared, fits, attempted]
          · simp [run_eq, prepared, granted]
          · simp [launches, prepared, granted]

/-- After the search a run gets a placement, or starts no engine and ends without a fault. -/
theorem housed_or_idle (calling : others.Calling) (engine : EnginePlan ω σ → Iterate ω)
    (formed : c.Formed) (balanced : b.scheduler.Balanced) {b' : Bench ω}
    (same : b'.scheduler = b.scheduler) (prepared : r.prepare t c b = .ready b' range first) :
    (∃ late g es, Housed r calling engine t c b range first late g es) ∨
      r.launches others engine t c b = [] ∧
        ∀ fault, (r.run others engine t c b).2 ≠ .escaped fault := by
  cases acquired : b'.acquire others c with
  | mk late result =>
      cases result with
      | granted g =>
          exact .inl ⟨late, g, _,
            housed_of_granted calling engine formed balanced prepared acquired⟩
      | refused cause | waiting =>
          refine .inr ⟨?_, fun fault => ?_⟩
          · simp [launches, prepared, acquired]
          · simp [run_eq, prepared, acquired]
      | escaped fault =>
          have awaited := (attempt_awaited calling formed others.patience 0 (same ▸ balanced)).2
          simp only [Bench.acquire] at acquired
          split at acquired
          · rw [acquired] at awaited
            cases awaited
          · simp at acquired

/-- A fault that a body raises in the trial or on the engine ends in a result that is not normal;
one raised in the search for a stride range leaves the run, and no other does. -/
theorem run_contains (r : Runner) (calling : others.Calling)
    (engine : EnginePlan ω σ → Iterate ω) (moves : EnginePlan ω σ → Bench ω → List Engine.Move)
    (scheduled : ∀ p b, Scheduled p b (moves p b) (engine p b)) (t : StressTest ω σ) (c : Class)
    (sized : c.size = t.size) (formed : c.Formed) (b : Bench ω)
    (reachable : b.scheduler.Reachable)
    (spares : ∀ g, (.acquire c, .acquired (.ok (some g))) ∈
        b.scheduler.ownCalls (r.events calling engine t c b) →
      ∀ e ∈ r.events calling engine t c b, e.Spares g) :
    Contains r others engine moves t c b (r.run others engine t c b).2 := by
  have prepares := prepares sized (r := r) (b := b)
  cases prepared : r.prepare t c b with
  | stopped b' ended =>
      have idle : ¬ RaisesInIteration r others engine moves t c b := by
        rintro ⟨p, b₁, start, mem, -⟩
        simp [launches, prepared] at mem
      rw [run_eq, prepared]
      rw [prepared] at prepares
      cases prepares with
      | tried _ fault raised =>
          refine ⟨fun fault' raised' => ?_, fun raised' => absurd raised' idle,
            fun fault' raised' => absurd raised (raised'.1 fault), by simp⟩
          obtain rfl := Except.error.inj (raised.symm.trans raised')
          rfl
      | searched _ fault calm broke =>
          refine ⟨fun fault' raised' => absurd raised' (calm fault'),
            fun raised' => absurd raised' idle, fun fault' raised' => ?_, fun fault' ended => ?_⟩
          · obtain ⟨-, size, mem⟩ := raised'
            obtain rfl := Except.error.inj (broke.symm.trans (StridePolicy.range_adjust mem))
            rfl
          · obtain rfl : fault = fault' := by simpa using ended
            rcases StridePolicy.broken_of_adjust broke with raised | ⟨rfl, large⟩
            · exact .inl ⟨calm, raised⟩
            · exact .inr (.budget large)
  | ready b' range first =>
      rw [prepared] at prepares
      cases prepares with
      | ready _ _ _ same calm found =>
          have searched (fault : Fault) : ¬ RaisesInSearch r t b fault := by
            rintro ⟨-, size, mem⟩
            exact nomatch found.symm.trans (StridePolicy.range_adjust mem)
          obtain ⟨late, g, es, housed⟩ | ⟨idle, ends⟩ :=
            housed_or_idle calling engine formed reachable.balanced same prepared
          · have granted : (.acquire c, .acquired (.ok (some g))) ∈
                b.scheduler.ownCalls (r.events calling engine t c b) := by
              obtain ⟨declined, -, calls⟩ := housed.stays.calls
              rw [housed.events, ownCalls_append, calls]
              simp
            obtain ⟨caught, unfit⟩ := housed.contains scheduled (spares g granted)
            exact ⟨fun fault raised => absurd raised (calm fault), caught,
              fun fault raised => absurd raised (searched fault),
              fun fault escaped => .inr (unfit fault escaped)⟩
          · refine ⟨fun fault raised => absurd raised (calm fault), ?_,
              fun fault raised => absurd raised (searched fault),
              fun fault escaped => absurd escaped (ends fault)⟩
            rintro ⟨p, b₁, start, mem, -⟩
            simp [idle] at mem

/-! ### A body that raises once -/

/-- A test of one role that counts the calls of its body and breaks off in one of them. -/
def raisingTest (call : Nat) : StressTest Nat Unit :=
  { name := "raising"
    actors := [⟨"a", fun calls state result =>
      { world := calls + 1, state, result
        fault := if calls + 1 = call then some (.raised "one call too many") else none }⟩]
    fresh := fun calls => (calls, .ok ())
    slots := 1
    pairBytes := 8 }

/-- A machine on which a rehearsal takes five milliseconds. -/
def slowHost : Host := { memory := .ofSize 64, elapsed := fun _ => .ofMillis 5 }

def raisingBench : Bench Nat := { scheduler := lopsidedIdle, host := slowHost, world := 0 }

theorem escapes_of_world (engine : EnginePlan Nat Unit → Iterate Nat) {b : Bench Nat}
    (host : b.host = slowHost) (world : b.world = 0) :
    (soloRunner.run Others.idle engine (raisingTest 2) lostGrant.shape b).2 =
      .escaped (.raised "one call too many") := by
  have trial : (raisingTest 2).sanityTrial 0 = ⟨1, {}, .ok ⟨[0]⟩⟩ := by cbv
  have counted : firstTally (raisingTest 2) b = .ok ⟨[(⟨[0]⟩, 1)]⟩ := by
    rw [firstTally, world, trial]
    rfl
  have search : (soloRunner.settings.stridePolicy.adjust ((raisingTest 2).estimator slowHost)
      (1, {})).range = .error (.raised "one call too many") := by cbv
  have searched : (soloRunner.search (raisingTest 2) (tried (raisingTest 2) b)).range =
      .error (.raised "one call too many") := by
    rw [Runner.search, tried, world, trial, host]
    exact search
  rw [run_eq, prepare, if_neg (by decide), counted]
  dsimp only
  rw [searched]

/-- The second call is made by the search, which does not catch what it raises: the run has no
value, and a suite of this one job no results. -/
theorem run_escapes : soloRunner.settings.validate = .ok () ∧
    lostGrant.shape.size = (raisingTest 2).size ∧
    (soloRunner.run Others.idle (live .yield 1) (raisingTest 2) lostGrant.shape raisingBench).2 =
      .escaped (.raised "one call too many") ∧
    ((Suite.mk soloRunner).run Others.idle (live .yield 1) [⟨raisingTest 2, lostGrant.shape⟩]
      raisingBench).2 = .error (.raised "a scoped thread panicked") := by
  refine ⟨rfl, by decide, escapes_of_world _ rfl rfl, ?_⟩
  have job (b : Bench Nat) (host : b.host = slowHost) (world : b.world = 0) :
      (Suite.runJob ⟨soloRunner⟩ Others.idle (live .yield 1) b
        ⟨raisingTest 2, lostGrant.shape⟩).2 = .escaped := by
    have escaped := escapes_of_world (live .yield 1) host world
    rw [Suite.runJob]
    cases ran : soloRunner.run Others.idle (live .yield 1) (raisingTest 2) lostGrant.shape b with
    | mk late ended =>
        rw [ran] at escaped
        obtain rfl : ended = _ := escaped
        rfl
  obtain ⟨late, broke⟩ : ∃ late, Suite.runJob ⟨soloRunner⟩ Others.idle (live .yield 1)
      (raisingBench.say (Suite.startLog ⟨soloRunner⟩ 1)) ⟨raisingTest 2, lostGrant.shape⟩ =
        (late, .escaped) := ⟨_, Prod.ext rfl (job _ rfl rfl)⟩
  have workers : Suite.workers ⟨soloRunner⟩ 1 = 1 := by decide
  have turns : Floor.inTurn 1 1 = [0, 0, 0, 0] := by decide
  rw [Suite.run, List.length_singleton, workers, turns]
  simp [Floor.runSteps, Floor.start, Floor.step, Floor.put, broke, Floor.isBroken]

/-- A runner whose iterations take a millisecond. -/
def hurriedRunner : Runner := { settings := { timeMs := 1, minStride := 1, maxStride := 4 } }

/-- On the slow machine the search of the hurried runner ends after one rehearsal. -/
def hurriedRange : StrideRange := ⟨1, 1, .time⟩

/-- Up to the call that raises, if that is the third. -/
def raisingMoves : List Engine.Move := List.replicate 18 (.role 0)

def raisingPlan : EnginePlan Nat Unit := ⟨raisingTest 3, hurriedRange, slowHost.memory⟩

theorem breaksOff_raising : Engine.BreaksOff raisingPlan (raisingPlan.launch 2) raisingMoves := by
  have found : ((raisingPlan.launch 2).run raisingPlan (List.replicate 17 (.role 0))).roles[0]? =
      some ⟨.acting [0], 2, 1, .empty⟩ := by cbv
  have raised : (((raisingPlan.launch 2).run raisingPlan (List.replicate 17 (.role 0))).onPair 0
      (raisingPlan.test.runActor 0)).2 = some (.raised "one call too many") := by cbv
  exact ⟨List.replicate 17 (.role 0), 0, [], _, _, rfl, found,
    .acting 0 [] _ rfl raised⟩

theorem spares_attemptEvents_idle (left k : Nat) (b : Bench ω) :
    ∀ e ∈ Bench.attemptEvents idleCalling c left k b, e.Spares g := by
  induction left generalizing k b with
  | zero => simp [Bench.attemptEvents]
  | succ left ih =>
      rw [Bench.attemptEvents]
      refine List.forall_mem_append.2 ⟨List.forall_mem_nil _, List.forall_mem_cons.2 ⟨trivial, ?_⟩⟩
      split
      · split
        · exact List.forall_mem_nil _
        · exact ih _ _
      · exact List.forall_mem_nil _

theorem spares_iterateEvents_idle (engine : Iterate ω) (left : Nat) (p : Progress) (b : Bench ω) :
    ∀ e ∈ iterateEvents idleCalling engine left p b, e.Spares g := by
  induction left generalizing p b with
  | zero => simp [iterateEvents]
  | succ left ih =>
      rw [iterateEvents]
      refine List.forall_mem_append.2 ⟨List.forall_mem_nil _, ?_⟩
      split
      · exact List.forall_mem_nil _
      · refine List.forall_mem_cons.2 ⟨trivial, ?_⟩
        split
        · split
          · exact List.forall_mem_nil _
          · exact ih _ _
        · exact List.forall_mem_nil _

theorem spares_idle (engine : EnginePlan ω σ → Iterate ω) :
    ∀ e ∈ r.events idleCalling engine t c b, e.Spares g := by
  unfold events
  split
  case h_1 => exact List.forall_mem_nil _
  case h_2 range first _ =>
    split
    case isFalse => exact List.forall_mem_nil _
    case isTrue =>
      refine List.forall_mem_append.2 ⟨spares_attemptEvents_idle _ _ _, ?_⟩
      split
      · rw [occupyEvents]
        refine List.forall_mem_append.2 ⟨List.forall_mem_append.2 ⟨?_, List.forall_mem_nil _⟩, ?_⟩
        · exact spares_iterateEvents_idle _ _ _ _
        · exact List.forall_mem_singleton.2 trivial
      · exact List.forall_mem_nil _

def raisingReady : Bench Nat :=
  searched (hurriedRunner.search (raisingTest 3) (tried (raisingTest 3) raisingBench))
    (tried (raisingTest 3) raisingBench)

theorem prepare_raising : hurriedRunner.prepare (raisingTest 3) lostGrant.shape raisingBench =
    .ready raisingReady hurriedRange ⟨[(⟨[0]⟩, 1)]⟩ :=
  prepare_eq_ready (by decide) (by cbv) (by cbv)

theorem acquire_raising : raisingReady.acquire Others.idle lostGrant.shape =
    (raisingReady.attempted lostGrant.shape, .granted lostGrant) := by
  have fits : raisingReady.scheduler.fitsIdle lostGrant.shape = true := by
    change lopsidedIdle.fitsIdle lostGrant.shape = true
    cbv
  rw [Bench.acquire, if_pos fits, show (Others.idle : Others Nat).patience = 1 from rfl,
    attempt_lost rfl]

theorem raisingReady_going : (raisingReady.attempted lostGrant.shape).cancelled = false ∧
    (raisingReady.attempted lostGrant.shape).world = 2 := by
  have trial : (tried (raisingTest 3) raisingBench).cancelled = false := by cbv
  have search : (hurriedRunner.search (raisingTest 3)
      (tried (raisingTest 3) raisingBench)).world = (2, {}) := by cbv
  refine ⟨?_, congrArg Prod.fst search⟩
  change ((tried (raisingTest 3) raisingBench).cancelled || (hurriedRunner.search (raisingTest 3)
    (tried (raisingTest 3) raisingBench)).world.2.cancel) = false
  rw [trial, search]
  rfl

theorem launches_raising (engine : EnginePlan Nat Unit → Iterate Nat) : ∃ b₁ : Bench Nat,
    (raisingPlan, b₁) ∈
      hurriedRunner.launches Others.idle engine (raisingTest 3) lostGrant.shape raisingBench ∧
    b₁.world = 2 := by
  obtain ⟨going, world⟩ := raisingReady_going
  rw [launches, prepare_raising]
  dsimp only
  rw [acquire_raising]
  exact ⟨_, List.mem_map_of_mem (head_mem_starts 4 going), world⟩

/-- The third call raises. On the slow machine the engine makes it, and the run has a value; on a
swift one the search goes on and makes it, and the run has none. -/
theorem run_contains_raising :
    raisingBench.scheduler.Reachable ∧
      (∃ result, (hurriedRunner.run Others.idle (scripted fun _ _ => raisingMoves) (raisingTest 3)
          lostGrant.shape raisingBench).2 = .done result ∧ result.status ≠ .normal) ∧
      (hurriedRunner.run Others.idle (scripted fun _ _ => raisingMoves) (raisingTest 3)
          lostGrant.shape { raisingBench with host := .swift 64 }).2 =
        .escaped (.raised "one call too many") := by
  have described : lopsided.Described := .records lopsided.threads (by cbv)
  have one : lostGrant.shape.Formed := .made [0] [0] (by cbv)
  have reachable : lopsidedIdle.Reachable := .start described (by cbv : start? 0 lopsided 3 = _)
  have contains (b : Bench Nat) (table : b.scheduler = lopsidedIdle) :=
    run_contains hurriedRunner idleCalling (scripted fun _ _ => raisingMoves)
      (fun _ _ => raisingMoves) (scheduled_scripted _) (raisingTest 3) lostGrant.shape (by decide)
      one b (table ▸ reachable) fun _ _ => spares_idle _
  obtain ⟨b₁, mem, world⟩ := launches_raising (scripted fun _ _ => raisingMoves)
  refine ⟨reachable, (contains raisingBench rfl).iteration
    ⟨raisingPlan, b₁, raisingPlan.launch 2, mem, ?_, breaksOff_raising⟩,
    (contains { raisingBench with host := .swift 64 } rfl).search _ ⟨fun fault' => ?_, 2, ?_⟩⟩
  · rw [world]
    cbv
  · have trial : ((raisingTest 3).sanityTrial 0).result = .ok ⟨[0]⟩ := by cbv
    exact fun raised => absurd (trial.symm.trans raised) (by simp)
  · have readings : (hurriedRunner.search (raisingTest 3) (tried (raisingTest 3)
        { raisingBench with host := .swift 64 })).readings =
          [(1, .sample 8 (.ofNanos 0)), (2, .broken (.raised "one call too many"))] := by cbv
    rw [readings]
    exact List.mem_cons_of_mem _ (List.mem_singleton_self _)

end Runner
end Litmus
