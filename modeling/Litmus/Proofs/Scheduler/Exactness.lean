import Litmus.Proofs.Scheduler.Calls
import Mathlib

/-!
Placement is exact: a scheduler grants a class if and only if the free threads can seat it, whatever
was asked of the scheduler before, and what it grants is a seating.
-/
namespace Litmus.Scheduler

open Placement

variable {s : Scheduler} {c : Class}

theorem Balanced.grants_iff (h : s.Balanced) (hc : c.WellFormed) :
    (∃ s' g, s.tryAcquire c = (s', .ok (some g))) ↔
      ∃ seats, Seating s.topology s.free c seats := by
  rw [← find_isSome_iff h.machine hc h.mask]
  constructor
  · rintro ⟨s', g, hgrant⟩
    cases found : find s.topology s.free (Shape.ofClass c) with
    | some seats => exact ⟨seats, rfl⟩
    | none => rcases h.tryAcquire_none found with heq | heq <;> simp [heq] at hgrant
  · rintro ⟨seats, found⟩
    exact ⟨_, _, h.tryAcquire_some hc found⟩

theorem Balanced.seats_of_grant (h : s.Balanced) (hc : c.WellFormed) {s' : Scheduler} {g : Grant}
    (hgrant : s.tryAcquire c = (s', .ok (some g))) :
    ∃ seats, Seating s.topology s.free c seats ∧ s' = s.granted c seats ∧
      g = s.nextGrant c seats := by
  cases found : find s.topology s.free (Shape.ofClass c) with
  | none => rcases h.tryAcquire_none found with heq | heq <;> simp [heq] at hgrant
  | some seats =>
      rw [h.tryAcquire_some hc found] at hgrant
      simp only [Prod.mk.injEq, Except.ok.injEq, Option.some.injEq] at hgrant
      exact ⟨seats, seating_of_find h.machine hc found, hgrant.1.symm, hgrant.2.symm⟩

theorem Balanced.answers_none (h : s.Balanced) (hc : c.WellFormed)
    (full : ¬ ∃ seats, Seating s.topology s.free c seats) : (s.tryAcquire c).2 = .ok none := by
  have stuck : find s.topology s.free (Shape.ofClass c) = none := by
    refine Option.eq_none_iff_forall_ne_some.2 fun seats found => ?_
    exact full ((find_isSome_iff h.machine hc h.mask).1 ⟨seats, found⟩)
  rcases h.tryAcquire_none stuck with heq | heq <;> rw [heq]

/-- The search answers with a seating exactly if the free threads of a machine can seat a class,
and so does a scheduler in use; a grant lists the same threads in ascending order. -/
theorem placement_exact (formed : c.Formed) :
    (∀ t : Topology, t.Described → ∀ free : FreeSet, free.length = t.totalThreads →
      ((∃ seats, find t free (Shape.ofClass c) = some seats) ↔
        ∃ seats, Seating t free c seats) ∧
      ∀ seats, find t free (Shape.ofClass c) = some seats → Seating t free c seats) ∧
    ∀ s : Scheduler, s.Reachable →
      ((∃ s' g, s.tryAcquire c = (s', .ok (some g))) ↔
        ∃ seats, Seating s.topology s.free c seats) ∧
      (∀ s' g, s.tryAcquire c = (s', .ok (some g)) →
        Seating s.topology s.free c g.seats ∧ g.threads.Pairwise (· < ·) ∧
          ∀ x, x ∈ g.threads ↔ x ∈ g.seats) ∧
      ((¬ ∃ seats, Seating s.topology s.free c seats) → (s.tryAcquire c).2 = .ok none) := by
  have hc := formed.wellFormed
  refine ⟨fun t described free len => ?_, fun s reachable => ?_⟩
  · have ht := described.wellFormed
    exact ⟨find_isSome_iff ht hc len, fun seats found => seating_of_find ht hc found⟩
  · have h := reachable.balanced
    refine ⟨h.grants_iff hc, fun s' g hgrant => ?_, h.answers_none hc⟩
    obtain ⟨seats, seating, -, rfl⟩ := h.seats_of_grant hc hgrant
    exact ⟨seating, s.nextGrant_threads_ascending c seating.distinct,
      fun _ => mem_nextGrant_threads⟩

/-- A package with one core of two threads and a package with one thread. -/
def lopsided : Topology :=
  { origin := .records
    threads := [⟨0, 0, 0⟩, ⟨0, 0, 1⟩, ⟨1, 1, 2⟩]
    coreThreads := [[0, 1], [2]]
    packageCores := [[0], [1]] }

/-- A scheduler that owns all threads of that machine and has granted none. -/
def lopsidedIdle : Scheduler :=
  { id := 0
    topology := lopsided
    owned := [0, 2, 1]
    debug := false
    free := [true, true, true]
    freeCount := 3
    nextTicket := 0
    outstanding := []
    quarantined := 0
    shapes := [] }

/-- With thread 0 taken, two roles that must lie apart still get a seat each. -/
theorem placement_exact_lopsided :
    (∃ seats, find lopsided [false, true, true] (Shape.ofClass ⟨[0, 1], [0, 1]⟩) = some seats) ∧
      ∃ s' g, (lopsidedIdle.tryAcquire ⟨[0], [0]⟩).1.tryAcquire ⟨[0, 1], [0, 1]⟩ =
          (s', .ok (some g)) ∧
        Seating lopsided [false, true, true] ⟨[0, 1], [0, 1]⟩ g.seats := by
  have formed : (⟨[0, 1], [0, 1]⟩ : Class).Formed := .made [5, 3] [2, 9] (by cbv)
  have described : lopsided.Described := .records lopsided.threads (by cbv)
  have started : start? 0 lopsided 3 = some lopsidedIdle := by cbv
  have idle : lopsidedIdle.Reachable := .start described started
  have reachable := idle.tryAcquire (c := ⟨[0], [0]⟩) (.made [0] [0] (by cbv))
  obtain ⟨searched, called⟩ := placement_exact formed
  obtain ⟨granted, seated, -⟩ := called _ reachable
  have found : find lopsided [false, true, true] (Shape.ofClass ⟨[0, 1], [0, 1]⟩) =
      some [2, 1] := by cbv
  have seating := (searched lopsided described [false, true, true] rfl).2 _ found
  have machine : (lopsidedIdle.tryAcquire ⟨[0], [0]⟩).1.topology = lopsided := by cbv
  have free : (lopsidedIdle.tryAcquire ⟨[0], [0]⟩).1.free = [false, true, true] := by cbv
  rw [machine, free] at granted seated
  obtain ⟨s', g, hgrant⟩ := granted.2 ⟨_, seating⟩
  exact ⟨⟨_, found⟩, s', g, hgrant, (seated s' g hgrant).1⟩

end Litmus.Scheduler
