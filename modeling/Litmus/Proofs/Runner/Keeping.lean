import Litmus.Proofs.Runner.Settlement

/-!
What every call keeps true of a scheduler is kept by a run, whatever becomes of the run: it changes
the scheduler by calls only, and so do the others meanwhile.
-/
namespace Litmus

open Scheduler

variable {ω σ : Type} {others : Others ω} {engine : Iterate ω} {c : Class} {g : Grant}
  {b : Bench ω} {kept : Scheduler → Prop}

/-- No call takes it away. -/
def Keeps (kept : Scheduler → Prop) : Prop :=
  ∀ s k, k.Formed → kept s → kept (s.call k).1

/-- A scheduler is in a state that it can reach, and it is still the same scheduler. -/
theorem keeps_reachable (s : Scheduler) : Keeps fun s' => s'.Reachable ∧ Fixed s s' :=
  fun _ _ formed ⟨reachable, fixed⟩ =>
    ⟨reachable.call formed, fixed.trans (reachable.balanced.happens formed).fixed⟩

namespace Keeps

variable (h : Keeps kept)
include h

theorem session {calls : List Call} (formed : ∀ k ∈ calls, k.Formed) {s : Scheduler}
    (start : kept s) : kept (s.session calls).1 := by
  induction calls generalizing s with
  | nil => exact start
  | cons k calls ih =>
      obtain ⟨first, rest⟩ := List.forall_mem_cons.1 formed
      exact ih rest (h s k first start)

theorem hook {hook : Bench ω → Bench ω} (calling : Calling hook) (start : kept b.scheduler) :
    kept (hook b).scheduler := by
  rw [calling.made]
  exact h.session (calling.formed b) start

theorem attempt (calling : others.Calling) (formed : c.Formed) (left k : Nat)
    (start : kept b.scheduler) : kept (b.attempt others c left k).1.scheduler := by
  induction left generalizing k b with
  | zero => exact start
  | succ left ih =>
      have met := h.hook (calling.attempt k) start
      have tried := h _ (.acquire c) formed met
      rw [Bench.attempt_succ]
      split
      · exact tried
      · exact tried
      · split
        · exact tried
        · exact ih (k + 1) tried

theorem acquire (calling : others.Calling) (formed : c.Formed) (start : kept b.scheduler) :
    kept (b.acquire others c).1.scheduler := by
  unfold Bench.acquire
  split
  · exact h.attempt calling formed _ _ start
  · exact start

theorem iterate (calling : others.Calling) (quiet : ∀ b, (engine b).1.scheduler = b.scheduler)
    (left : Nat) (p : Progress) (start : kept b.scheduler) :
    kept (Runner.iterate others engine left p b).1.scheduler := by
  induction left generalizing p b with
  | zero => exact start
  | succ left ih =>
      have met := h.hook (calling.iteration p.iterations) start
      have same := quiet (others.beforeIteration p.iterations b)
      rw [Runner.iterate]
      split
      · exact met
      · rw [← same] at met
        generalize engine (others.beforeIteration p.iterations b) = ended at met
        cases ended with
        | mk b' e =>
            cases e with
            | notStarted cause | failed cause allExited | broken fault => exact met
            | joined tally =>
                dsimp only
                cases p.counted tally with
                | error fault => exact met
                | ok p' => exact ih p' met

theorem settle (p : Progress) (start : kept b.scheduler) :
    kept (Runner.settle g p b).1.scheduler := by
  unfold Runner.settle
  split
  · exact h _ (.quarantine g) trivial start
  · exact h _ (.release g) trivial start

theorem close {t : StressTest ω σ} {range : StrideRange} (iterated : Except Fault Progress)
    (start : kept b.scheduler) : kept (Runner.close t c range g iterated b).1.scheduler := by
  cases iterated with
  | error fault => exact h _ (.release g) trivial start
  | ok p =>
      have settled := h.settle (g := g) p start
      rw [Runner.close]
      generalize Runner.settle g p b = after at settled
      obtain ⟨b', p', fault⟩ := after
      cases fault with
      | some fault => exact settled
      | none =>
          change kept (Runner.conclude _ _).1.scheduler
          rwa [Runner.scheduler_conclude]

/-- A run keeps what every call keeps. -/
theorem run (r : Runner) (calling : others.Calling) {engine : EnginePlan ω σ → Iterate ω}
    (quiet : ∀ p b, (engine p b).1.scheduler = b.scheduler) (t : StressTest ω σ)
    (formed : c.Formed) (start : kept b.scheduler) :
    kept (r.run others engine t c b).1.scheduler := by
  have same := Runner.scheduler_prepare (r := r) (t := t) (c := c) (b := b)
  rw [← same] at start
  rw [Runner.run_eq]
  generalize r.prepare t c b = prepared at start
  cases prepared with
  | stopped b' e => exact start
  | ready b' range first =>
      have acquired := h.acquire calling formed start
      dsimp only [Prepared.bench] at acquired ⊢
      generalize b'.acquire others c = after at acquired
      obtain ⟨late, result⟩ := after
      cases result with
      | refused cause | escaped fault | waiting => exact acquired
      | granted g =>
          dsimp only
          rw [Runner.occupy_eq]
          refine h.close _ (h.hook calling.finish ?_)
          exact h.iterate calling (quiet _) _ _ acquired

end Keeps
end Litmus
