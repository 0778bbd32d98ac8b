import Litmus.Proofs.Runner.Stages
import Litmus.Proofs.Runner.Waiting

/-!
Refusals: why a run that nothing broke off has no result. A class is refused for its number of
roles, or because it never fits, or the wait for its placement is cancelled; there is no other
cause.
-/
namespace Litmus

variable {ω σ : Type}

def arityError (t : StressTest ω σ) (c : Class) : StressError :=
  .invalidClass s!"{c.render} has {c.size} roles, '{t.name}' has {t.size} actors"

def placementError (c : Class) (threads : Nat) : StressError :=
  .scheduling s!"class {c.render} cannot be placed on {threads} owned threads"

def cancelError (c : Class) : StressError :=
  .scheduling s!"cancelled while waiting for {c.render}"

/-- The causes for which a run is refused, and when each of them arises. -/
inductive Refuses (t : StressTest ω σ) (c : Class) (s : Scheduler) : StressError → Prop where
  | arity (differs : c.size ≠ t.size) : Refuses t c s (arityError t c)
  | placement (never : s.fitsIdle c = false) : Refuses t c s (placementError c s.maxThreads)
  | cancelled : Refuses t c s (cancelError c)

/-- The text of a wait that is cancelled is not that of a class that never fits. -/
theorem cancelError_ne_placementError (c d : Class) (threads : Nat) :
    cancelError c ≠ placementError d threads := by
  intro same
  have texts := congrArg String.toList (StressError.scheduling.inj same)
  simp [toString] at texts

variable {r : Runner} {others : Others ω} {engine : EnginePlan ω σ → Iterate ω}
  {t : StressTest ω σ} {c : Class} {b : Bench ω} {cause : StressError}

theorem attempt_refused {left k : Nat} (h : (b.attempt others c left k).2 = .refused cause) :
    cause = cancelError c := by
  induction left generalizing k b with
  | zero => simp [Bench.attempt] at h
  | succ left ih =>
      rw [Bench.attempt_succ] at h
      split at h
      · simp at h
      · simp at h
      · split at h
        · exact (Bench.Acquired.refused.inj h).symm
        · exact ih h

theorem acquire_refused (h : (b.acquire others c).2 = .refused cause) :
    b.scheduler.fitsIdle c = false ∧ cause = placementError c b.scheduler.maxThreads ∨
      cause = cancelError c := by
  unfold Bench.acquire at h
  split at h
  case isTrue => exact .inr (attempt_refused h)
  case isFalse never =>
    exact .inl ⟨Bool.eq_false_iff.2 never, (Bench.Acquired.refused.inj h).symm⟩

namespace Runner

theorem conclude_ne_refused (result : TestResult) (b : Bench ω) :
    (conclude result b).2 ≠ .refused cause := by
  unfold conclude
  split <;> simp

theorem occupy_ne_refused {engine : Iterate ω} {range : StrideRange} {first : Tally Outcome}
    {g : Grant} : (r.occupy others engine t c range first g b).2 ≠ .refused cause := by
  unfold occupy
  dsimp only
  split
  · simp
  · split
    · simp
    · exact conclude_ne_refused _ _

theorem prepare_refused {b' : Bench ω} (h : r.prepare t c b = .stopped b' (.refused cause)) :
    c.size ≠ t.size ∧ cause = arityError t c := by
  unfold prepare at h
  split at h
  case isTrue differs => exact ⟨differs, (RunEnd.refused.inj (Prepared.stopped.inj h).2).symm⟩
  case isFalse =>
    cases counted : firstTally t b with
    | error fault =>
        rw [counted] at h
        exact absurd (Prepared.stopped.inj h).2 (conclude_ne_refused _ _)
    | ok first =>
        rw [counted] at h
        dsimp only at h
        split at h <;> simp at h

/-- A run is refused for one of three causes, which are read off the class, the test and the table
before the run. -/
theorem run_refused (h : (r.run others engine t c b).2 = .refused cause) :
    Refuses t c b.scheduler cause := by
  have same := scheduler_prepare (r := r) (t := t) (c := c) (b := b)
  rw [run_eq] at h
  cases prepared : r.prepare t c b with
  | stopped b' e =>
      rw [prepared] at h
      obtain rfl : e = .refused cause := h
      obtain ⟨differs, rfl⟩ := prepare_refused prepared
      exact .arity differs
  | ready b' range first =>
      rw [prepared] at h same
      dsimp only at h
      obtain same : b'.scheduler = b.scheduler := same
      cases acquired : b'.acquire others c with
      | mk late result =>
          rw [acquired] at h
          cases result with
          | granted g => exact absurd h occupy_ne_refused
          | escaped fault | waiting => simp at h
          | refused cause' =>
              obtain rfl : cause' = cause := RunEnd.refused.inj h
              rcases acquire_refused (congrArg Prod.snd acquired) with ⟨never, rfl⟩ | rfl
              · rw [same] at never ⊢
                exact .placement never
              · exact .cancelled

end Runner
end Litmus
