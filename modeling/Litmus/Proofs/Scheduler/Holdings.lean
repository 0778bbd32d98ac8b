import Litmus.Proofs.Scheduler.Custody

/-!
Holdings: what is free, what is outstanding, and how many grants were set aside. What a call does to
them can be read off its answer. While a grant is held, a call that spares it does to the holdings
without that grant what it would do if the grant had been returned.
-/
namespace Litmus.Scheduler

open Placement

structure Holdings where
  free : FreeSet
  freeCount : Nat
  outstanding : List (Nat × List Nat)
  quarantined : Nat
deriving DecidableEq

def holdings (s : Scheduler) : Holdings :=
  ⟨s.free, s.freeCount, s.outstanding, s.quarantined⟩

/-- What a call that got an answer does. -/
def Holdings.effect (h : Holdings) : Call → Answer → Holdings
  | .acquire _, .acquired (.ok (some g)) =>
      { h with
        free := mark h.free false g.seats
        freeCount := h.freeCount - g.seats.length
        outstanding := g.entry :: h.outstanding }
  | .release g, .settled (.ok ()) =>
      { h with
        free := mark h.free true g.threads
        freeCount := h.freeCount + g.threads.length
        outstanding := h.outstanding.filter (·.1 ≠ g.ticket) }
  | .quarantine _, .settled (.ok ()) => { h with quarantined := h.quarantined + 1 }
  | _, _ => h

/-- A grant that the table lists as it is shown. -/
structure Holds (s : Scheduler) (g : Grant) : Prop where
  own : g.issuer = s.id
  known : s.outstanding.lookup g.ticket = some g.threads

/-- A call that does not hand a certain grant back. -/
def Call.Spares (g : Grant) : Call → Prop
  | .acquire _ => True
  | .release g' | .quarantine g' => ¬ (g'.issuer = g.issuer ∧ g'.ticket = g.ticket)

variable {s s' : Scheduler} {c : Class} {g : Grant} {k : Call} {a : Answer} {seats : List Nat}

theorem Happens.holdings (h : Happens s k s' a) : s'.holdings = s.holdings.effect k a := by
  cases h with
  | declined _ table =>
      cases table with
      | inl same => rw [same]; rfl
      | inr cached => rw [cached]; rfl
  | granted | returned | notReturned | withheld | notWithheld => rfl

/-! ### Grants that are out -/

theorem mark_comm (free : FreeSet) (value value' : Bool) (xs ys : List Nat)
    (apart : value = value' ∨ xs.Disjoint ys) :
    mark (mark free value xs) value' ys = mark (mark free value' ys) value xs := by
  refine freeSet_ext (by simp) fun x => ?_
  rw [isFree_mark, isFree_mark, isFree_mark, isFree_mark, length_mark, length_mark]
  cases apart with
  | inl same =>
      subst same
      split <;> split <;> rfl
  | inr disjoint =>
      by_cases hx : x ∈ xs
      · have hy : x ∉ ys := fun hy => disjoint hx hy
        simp [hx, hy]
      · simp [hx]

/-- Threads that are marked and marked back are as they were. -/
theorem mark_mark (free : FreeSet) (value : Bool) {xs ys : List Nat} (same : ∀ x, x ∈ ys ↔ x ∈ xs)
    (all : ∀ x ∈ xs, isFree free x = value) : mark (mark free (!value) xs) value ys = free := by
  refine freeSet_ext (by simp) fun x => ?_
  rw [isFree_mark, isFree_mark, length_mark]
  by_cases hx : x ∈ xs
  · by_cases inside : x < free.length
    · simp [same x, hx, all x hx, inside]
    · simp [inside]
  · simp [same x, hx]

theorem Holds.mem (h : Holds s g) (hs : s.Balanced) : g.entry ∈ s.outstanding :=
  (lookup_eq_some_iff hs.tickets).1 h.known

theorem Holds.held (h : Holds s g) (hs : s.Balanced) {x : Nat} (hx : x ∈ g.threads) : x ∈ s.held :=
  List.mem_flatMap.2 ⟨g.entry, h.mem hs, hx⟩

theorem Balanced.tryAcquire_ok (hs : s.Balanced) (formed : c.Formed) :
    ∃ result, (s.tryAcquire c).2 = .ok result := by
  cases found : find s.topology s.free (Shape.ofClass c) with
  | none =>
      cases hs.tryAcquire_none found with
      | inl same => exact ⟨none, by rw [same]⟩
      | inr cached => exact ⟨none, by rw [cached]⟩
  | some seats => exact ⟨_, by rw [hs.tryAcquire_some formed.wellFormed found]⟩

/-- A new grant is listed, and without it the table is as it was. -/
theorem Balanced.holds_granted (hs : s.Balanced) (seating : Seating s.topology s.free c seats) :
    Holds (s.granted c seats) (s.nextGrant c seats) ∧
      ((s.granted c seats).returned (s.nextGrant c seats)).holdings = s.holdings := by
  have enough := length_le_countFree seating.distinct seating.free
  rw [← hs.counted] at enough
  have size := (s.nextGrant_threads_perm c seats).length_eq
  have others : s.outstanding.filter (·.1 ≠ s.nextTicket) = s.outstanding :=
    List.filter_eq_self.2 fun e he => by simpa using Nat.ne_of_lt (hs.issued e he)
  refine ⟨⟨rfl, List.lookup_cons_self⟩, ?_⟩
  simp only [Scheduler.holdings, Scheduler.returned, Scheduler.granted, Holdings.mk.injEq]
  refine ⟨mark_mark _ true (fun _ => mem_nextGrant_threads) seating.free, by omega, ?_, rfl⟩
  rw [List.filter_cons_of_neg (by simp [nextGrant, Grant.issue])]
  exact others

theorem Happens.holds (h : Happens s k s' a) (hs : s.Balanced) (held : Holds s g)
    (spares : k.Spares g) : Holds s' g := by
  refine ⟨held.own.trans h.fixed.id.symm, (lookup_eq_some_iff (h.balanced hs).tickets).2 ?_⟩
  cases h with
  | declined _ table =>
      cases table with
      | inl same => exact same ▸ held.mem hs
      | inr cached => exact cached ▸ held.mem hs
  | granted => exact List.mem_cons_of_mem _ (held.mem hs)
  | returned own known =>
      refine List.mem_filter.2 ⟨held.mem hs, ?_⟩
      simpa using fun same => spares ⟨own.trans held.own.symm, same.symm⟩
  | notReturned | withheld | notWithheld => exact held.mem hs

/-- A call that spares a grant does to the table without it what its answer says. -/
theorem Happens.frame (h : Happens s k s' a) (hs : s.Balanced) (held : Holds s g)
    (spares : k.Spares g) :
    (s'.returned g).holdings = (s.returned g).holdings.effect k a := by
  cases h with
  | declined _ table =>
      cases table with
      | inl same => rw [same]; rfl
      | inr cached => rw [cached]; rfl
  | @granted c seats seating =>
      have enough := length_le_countFree seating.distinct seating.free
      rw [← hs.counted] at enough
      have apart : seats.Disjoint g.threads := fun x hx hx' => by
        simpa [seating.free x hx] using hs.not_free_of_held (held.held hs hx')
      have other : s.nextTicket ≠ g.ticket := Nat.ne_of_gt (hs.issued _ (held.mem hs))
      simp only [Scheduler.holdings, Scheduler.returned, Scheduler.granted, Holdings.effect,
        Holdings.mk.injEq]
      refine ⟨mark_comm _ _ _ _ _ (.inr apart), ?_, ?_, rfl⟩
      · change s.freeCount - seats.length + g.threads.length =
          s.freeCount + g.threads.length - seats.length
        omega
      · rw [List.filter_cons_of_pos (by simpa using other)]
        rfl
  | returned own known =>
      simp only [Scheduler.holdings, Scheduler.returned, Holdings.effect, Holdings.mk.injEq]
      exact ⟨mark_comm _ _ _ _ _ (.inl rfl), Nat.add_right_comm .., List.filter_comm .., trivial⟩
  | notReturned | withheld | notWithheld => rfl

end Litmus.Scheduler
