import Litmus.Proofs.Scheduler.Custody
import Litmus.Runner.Bench

/-!
Waiting for a placement. The check before a wait looks at all owned threads, those of grants that
were set aside too. What it promises is that a class is granted once all other grants are back, if
the threads that were set aside can be spared; then no attempt that meets such a scheduler waits on.
-/
namespace Litmus

open Placement Scheduler

variable {ω : Type} {others : Others ω} {c : Class}

namespace Bench

/-- The bench after an attempt to acquire. -/
def attempted (c : Class) (b : Bench ω) : Bench ω :=
  let (after, result) := b.scheduler.tryAcquire c
  { b with scheduler := after }.say (b.scheduler.acquireLog c after result)

/-- The bench that attempt `k + n` meets if attempt `k` starts from a given one and none before
ends the wait. -/
def met (others : Others ω) (c : Class) : (n k : Nat) → Bench ω → Bench ω
  | 0, k, b => others.beforeAttempt k b
  | n + 1, k, b => met others c n (k + 1) ((others.beforeAttempt k b).attempted c)

theorem attempt_succ (left k : Nat) (b : Bench ω) : attempt others c (left + 1) k b =
    match ((others.beforeAttempt k b).scheduler.tryAcquire c).2 with
    | .error refusal =>
        ((others.beforeAttempt k b).attempted c, .escaped (.raised refusal.message))
    | .ok (some grant) => ((others.beforeAttempt k b).attempted c, .granted grant)
    | .ok none =>
        if (others.beforeAttempt k b).cancelled then
          ((others.beforeAttempt k b).attempted c,
            .refused (.scheduling s!"cancelled while waiting for {c.render}"))
        else attempt others c left (k + 1) ((others.beforeAttempt k b).attempted c) :=
  rfl

/-- A wait ends at the latest with the first attempt that meets a scheduler that grants. -/
theorem attempt_ne_waiting {n left : Nat} (within : n < left) (k : Nat) (b : Bench ω)
    (grants : ∃ s' g, (met others c n k b).scheduler.tryAcquire c = (s', .ok (some g))) :
    (attempt others c left k b).2 ≠ .waiting := by
  induction n generalizing left k b with
  | zero =>
      obtain ⟨left, rfl⟩ := Nat.exists_eq_succ_of_ne_zero (Nat.ne_of_gt within)
      obtain ⟨s', g, called⟩ := grants
      rw [met] at called
      rw [attempt_succ, called]
      simp
  | succ n ih =>
      obtain ⟨left, rfl⟩ := Nat.exists_eq_succ_of_ne_zero (Nat.ne_of_gt (Nat.zero_lt_of_lt within))
      rw [attempt_succ]
      -- The attempt before either ends the wait or hands its bench on to the next.
      split
      · simp
      · simp
      · split
        · simp
        · exact ih (Nat.lt_of_succ_lt_succ within) (k + 1) _ grants

theorem acquire_ne_waiting {n : Nat} (within : n < others.patience) (b : Bench ω)
    (grants : ∃ s' g, (met others c n 0 b).scheduler.tryAcquire c = (s', .ok (some g))) :
    (b.acquire others c).2 ≠ .waiting := by
  rw [acquire]
  split
  · exact attempt_ne_waiting within 0 b grants
  · simp

end Bench

/-- What a class that fits the owned threads may hope for once the grants in hand are back. -/
structure Promise (s : Scheduler) (kept order : List Grant) (c : Class) : Prop where
  settled : ∀ a ∈ (s.session (handBack order)).2, a = .settled (.ok ())
  granted : (∃ s' g, (s.session (handBack order)).1.tryAcquire c = (s', .ok (some g))) ↔
    ∃ seats, Seating s.topology (s.poolBut kept) c seats
  spared : kept = [] →
    ∃ s' g, (s.session (handBack order)).1.tryAcquire c = (s', .ok (some g))
  awaited : ∀ (ω : Type) (others : Others ω) (b : Bench ω) (n : Nat), n < others.patience →
    (Bench.met others c n 0 b).scheduler = (s.session (handBack order)).1 →
      (∃ seats, Seating s.topology (s.poolBut kept) c seats) → (b.acquire others c).2 ≠ .waiting

/-- A class that passes the check before a wait is granted once the grants in hand are released in
any order, exactly if it fits the owned threads that no grant set aside holds. -/
theorem promise_kept {s : Scheduler} {hand kept : List Grant} (custody : Custody s hand kept)
    (formed : c.Formed) (fits : s.fitsIdle c = true) {order : List Grant}
    (perm : order.Perm hand) : Promise s kept order c := by
  have granted := custody.grants_iff formed perm
  refine ⟨(custody.of_handBack perm).2, granted, fun none => ?_, ?_⟩
  · subst none
    exact granted.2 ((custody.balanced.fitsIdle_iff formed.wellFormed).1 fits)
  · intro ω others b n within back seated
    refine Bench.acquire_ne_waiting within b ?_
    rw [back]
    exact granted.2 seated

/-! ### Threads that never come back -/

/-- A grant of thread 0 for a single role. -/
def lostGrant : Grant :=
  { issuer := 0, ticket := 0, shape := ⟨[0], [0]⟩, seats := [0], threads := [0] }

/-- The lopsided machine after that grant was set aside, its other threads granted. -/
def lopsidedThird : Scheduler :=
  (((lopsidedIdle.tryAcquire lostGrant.shape).1.tryAcquire lopsidedGrant.shape).1.quarantine
    lostGrant).1

/-- The grant in hand then. -/
def spareGrant : Grant :=
  { lopsidedGrant with ticket := 1, seats := [2, 1], threads := [1, 2] }

theorem promise_kept_lopsided :
    Custody lopsidedThird [spareGrant] [lostGrant] ∧
      lopsidedThird.fitsIdle spareGrant.shape = true ∧
      Promise lopsidedThird [lostGrant] [spareGrant] spareGrant.shape ∧
      ∃ seats, Seating lopsided [false, true, true] spareGrant.shape seats := by
  have described : lopsided.Described := .records lopsided.threads (by cbv)
  have one : lostGrant.shape.Formed := .made [0] [0] (by cbv)
  have pair : lopsidedGrant.shape.Formed := .made [5, 3] [2, 9] (by cbv)
  have started : start? 0 lopsided 3 = some lopsidedIdle := by cbv
  have idle : Custody lopsidedIdle [] [] := .start described started
  have lost : Custody _ [lostGrant] [] := idle.granted one (g := lostGrant) (by cbv)
  have both : Custody _ [spareGrant, lostGrant] [] := lost.granted pair (g := spareGrant) (by cbv)
  have third : Custody lopsidedThird ([spareGrant, lostGrant].erase lostGrant) [lostGrant] :=
    both.quarantined (by simp)
  have fits : lopsidedThird.fitsIdle spareGrant.shape = true := by cbv
  have kept : Promise lopsidedThird [lostGrant] [spareGrant] spareGrant.shape :=
    promise_kept third pair fits (.refl _)
  have pool : lopsidedThird.poolBut [lostGrant] = [false, true, true] := by cbv
  have answer : ((lopsidedThird.session (handBack [spareGrant])).1.tryAcquire
      spareGrant.shape).2 = .ok (some { spareGrant with ticket := 2 }) := by cbv
  have seated := kept.granted.1 ⟨_, _, Prod.ext rfl answer⟩
  have machine : lopsidedThird.topology = lopsided := by cbv
  rw [pool, machine] at seated
  exact ⟨third, fits, kept, seated⟩

/-- A machine of one thread. -/
def single : Topology :=
  { origin := .preset, threads := [⟨0, 0, 0⟩], coreThreads := [[0]], packageCores := [[0]] }

/-- A scheduler that owns that thread and has granted nothing. -/
def singleIdle : Scheduler :=
  { lopsidedIdle with topology := single, owned := [0], free := [true], freeCount := 1 }

/-- The same after its only grant was set aside. -/
def singleLost : Scheduler :=
  ((singleIdle.tryAcquire lostGrant.shape).1.quarantine lostGrant).1

/-- The check alone is no promise: the only thread of a machine is set aside, and the class of one
role passes the check and is never granted. -/
theorem promise_broken :
    ¬ ∀ (s : Scheduler) (hand kept order : List Grant) (c : Class), Custody s hand kept →
      c.Formed → s.fitsIdle c = true → order.Perm hand →
        ∃ s' g, (s.session (handBack order)).1.tryAcquire c = (s', .ok (some g)) := by
  intro promised
  have described : single.Described := .preset 1 1 1 (by cbv)
  have one : lostGrant.shape.Formed := .made [0] [0] (by cbv)
  have started : start? 0 single 1 = some singleIdle := by cbv
  have idle : Custody singleIdle [] [] := .start described started
  have granted : Custody _ [lostGrant] [] := idle.granted one (g := lostGrant) (by cbv)
  have lost : Custody singleLost ([lostGrant].erase lostGrant) [lostGrant] :=
    granted.quarantined (by simp)
  have fits : singleLost.fitsIdle lostGrant.shape = true := by cbv
  have declined : (singleLost.tryAcquire lostGrant.shape).2 = .ok none := by cbv
  obtain ⟨s', g, called⟩ := promised singleLost _ _ [] _ lost one fits (by simp)
  have called : singleLost.tryAcquire lostGrant.shape = (s', .ok (some g)) := called
  rw [called] at declined
  simp at declined

end Litmus
