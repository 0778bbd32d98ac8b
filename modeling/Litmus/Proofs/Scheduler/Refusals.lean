import Litmus.Proofs.Scheduler.Sessions

/-!
Which calls go through, and what the others leave. A grant can be given back exactly if the table
lists it as it is shown, and set aside exactly if the table lists its ticket; a call that fails
changes nothing but the table of shapes.
-/
namespace Litmus.Scheduler

open Placement

variable {s s' : Scheduler} {g : Grant} {k : Call}

/-! ### Calls that fail -/

/-- Two tables that differ at most in the shapes they remember. -/
structure SameTable (s s' : Scheduler) : Prop where
  fixed : Fixed s s'
  debug : s'.debug = s.debug
  free : s'.free = s.free
  freeCount : s'.freeCount = s.freeCount
  outstanding : s'.outstanding = s.outstanding
  nextTicket : s'.nextTicket = s.nextTicket
  quarantined : s'.quarantined = s.quarantined

theorem SameTable.refl (s : Scheduler) : SameTable s s :=
  ⟨Fixed.refl s, rfl, rfl, rfl, rfl, rfl, rfl⟩

theorem SameTable.cachedFor (s : Scheduler) (c : Class) : SameTable s (s.cachedFor c) :=
  ⟨⟨rfl, rfl, rfl⟩, rfl, rfl, rfl, rfl, rfl, rfl⟩

/-- A call failed if it granted nothing or was refused. -/
def Answer.Failed : Answer → Prop
  | .acquired (.ok (some _)) | .settled (.ok ()) => False
  | _ => True

theorem Happens.sameTable {a : Answer} (h : Happens s k s' a) (failed : a.Failed) :
    SameTable s s' := by
  cases h with
  | declined _ table =>
      rcases table with rfl | rfl
      · exact SameTable.refl _
      · exact SameTable.cachedFor s _
  | granted | returned | withheld => exact failed.elim
  | notReturned | notWithheld => exact SameTable.refl s

theorem Reachable.call (h : s.Reachable) (formed : k.Formed) : (s.call k).1.Reachable := by
  cases k with
  | acquire c => exact h.tryAcquire formed
  | release g => exact h.release g
  | quarantine g => exact h.quarantine g

/-! ### Calls that go through -/

/-- What a release that goes through does: the entry of the grant goes, its threads become free. -/
structure Returns (s : Scheduler) (g : Grant) (s' : Scheduler) : Prop where
  fixed : Fixed s s'
  outstanding : s.outstanding.Perm ((g.ticket, g.threads) :: s'.outstanding)
  taken : ∀ x ∈ g.threads, isFree s.free x = false
  freed : ∀ x, isFree s'.free x = true ↔ isFree s.free x = true ∨ x ∈ g.threads
  counted : s'.freeCount = s.freeCount + g.threads.length
  nextTicket : s'.nextTicket = s.nextTicket
  quarantined : s'.quarantined = s.quarantined

theorem Balanced.returns (h : s.Balanced)
    (known : s.outstanding.lookup g.ticket = some g.threads) : Returns s g (s.returned g) := by
  have hheld {x : Nat} (hx : x ∈ g.threads) : x ∈ s.held :=
    List.mem_flatMap.2 ⟨_, (lookup_eq_some_iff h.tickets).1 known, hx⟩
  refine ⟨⟨rfl, rfl, rfl⟩, perm_of_lookup h.tickets known,
    fun x hx => h.not_free_of_held (hheld hx), fun x => ?_, rfl, rfl, rfl⟩
  change isFree (mark s.free true g.threads) x = true ↔ _
  rw [isFree_mark]
  by_cases hx : x ∈ g.threads
  · simp [hx, h.lt_of_held (hheld hx)]
  · simp [hx]

structure ReleaseRule (s : Scheduler) (g : Grant) : Prop where
  accepted : (s.release g).2 = .ok () ↔
    g.issuer = s.id ∧ (g.ticket, g.threads) ∈ s.outstanding
  neverFree : ∀ th g', (s.release g).2 ≠ .error (.alreadyFree th g')
  returns : (s.release g).2 = .ok () → Returns s g (s.release g).1

theorem Balanced.releaseRule (h : s.Balanced) (g : Grant) : ReleaseRule s g := by
  by_cases hknown : g.issuer = s.id ∧ s.outstanding.lookup g.ticket = some g.threads
  · obtain ⟨own, known⟩ := hknown
    have accepted := h.release_known own known
    refine ⟨?_, ?_, ?_⟩
    · simp [accepted, own, (lookup_eq_some_iff h.tickets).1 known]
    · simp [accepted]
    · rw [accepted]
      exact fun _ => h.returns known
  · have refused := release_unknown hknown
    rw [lookup_eq_some_iff h.tickets] at hknown
    refine ⟨?_, fun th g' => ?_, ?_⟩
    · simp [refused, hknown]
    · rw [refused, releaseFault]
      split
      · simp
      · split <;> simp
    · simp [refused]

structure QuarantineRule (s : Scheduler) (g : Grant) : Prop where
  accepted : (s.quarantine g).2 = .ok () ↔
    g.issuer = s.id ∧ g.ticket ∈ s.outstanding.map (·.1)
  withheld : (s.quarantine g).2 = .ok () →
    (s.quarantine g).1 = { s with quarantined := s.quarantined + 1 }

theorem quarantineRule (s : Scheduler) (g : Grant) : QuarantineRule s g := by
  by_cases hknown : g.issuer = s.id ∧ (s.outstanding.lookup g.ticket).isSome
  · obtain ⟨own, known⟩ := hknown
    have accepted := quarantine_known own known
    refine ⟨?_, fun _ => ?_⟩
    · rw [accepted, ← isSome_lookup_iff]
      exact iff_of_true rfl ⟨own, known⟩
    · rw [accepted]
      rfl
  · have refused := quarantine_unknown hknown
    rw [isSome_lookup_iff] at hknown
    refine ⟨?_, ?_⟩
    · rw [refused]
      exact iff_of_false (by simp) hknown
    · simp [refused]

/-- Which calls of a scheduler in use go through; after one that failed the table is as before, so
that every outstanding grant can still be given back. -/
theorem refusals_harmless (reachable : s.Reachable) :
    (∀ g, ReleaseRule s g) ∧ (∀ g, QuarantineRule s g) ∧
      ∀ k : Call, k.Formed → (s.call k).2.Failed →
        SameTable s (s.call k).1 ∧ (s.call k).1.Reachable ∧
          ∀ g : Grant, g.issuer = s.id → (g.ticket, g.threads) ∈ s.outstanding →
            ((s.call k).1.release g).2 = .ok () := by
  have h := reachable.balanced
  refine ⟨h.releaseRule, quarantineRule s, fun k formed failed => ?_⟩
  have same := (h.happens formed).sameTable failed
  have next := reachable.call formed
  refine ⟨same, next, fun g own listed => ?_⟩
  rw [(next.balanced.releaseRule g).accepted, same.fixed.id, same.outstanding]
  exact ⟨own, listed⟩

/-- The lopsided machine with two threads granted to two roles. -/
def lopsidedFull : Scheduler :=
  (lopsidedPair.tryAcquire lopsidedGrant.shape).1

/-- The grant of those threads, claiming only one of them. -/
def alteredGrant : Grant :=
  { lopsidedGrant with threads := [0] }

theorem refusals_harmless_lopsided :
    lopsidedFull.Reachable ∧
      (lopsidedFull.release alteredGrant).2 = .error (.altered alteredGrant) ∧
      ((lopsidedFull.release alteredGrant).1.release lopsidedGrant).2 = .ok () := by
  have described : lopsided.Described := .records lopsided.threads (by cbv)
  have pair : lopsidedGrant.shape.Formed := .made [5, 3] [2, 9] (by cbv)
  have started : start? 0 lopsided 2 = some lopsidedPair := by cbv
  have reachable : lopsidedFull.Reachable := (Reachable.start described started).tryAcquire pair
  have refused : (lopsidedFull.release alteredGrant).2 = .error (.altered alteredGrant) := by cbv
  have failed : (lopsidedFull.call (.release alteredGrant)).2.Failed := by
    simp only [call, refused, Answer.Failed]
  have listed : lopsidedFull.outstanding = [(0, [0, 2])] := by cbv
  obtain ⟨-, -, failing⟩ := refusals_harmless reachable
  obtain ⟨-, -, later⟩ := failing (.release alteredGrant) trivial failed
  exact ⟨reachable, refused, later lopsidedGrant (by cbv) (by simp [listed, lopsidedGrant])⟩

end Litmus.Scheduler
