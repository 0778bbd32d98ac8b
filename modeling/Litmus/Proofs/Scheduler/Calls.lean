import Litmus.Proofs.Class.Enumeration
import Litmus.Proofs.Placement.Search
import Litmus.Proofs.Scheduler.Accounts
import Litmus.Proofs.Topology.Build

/-!
The calls of a scheduler one by one: what each does to a balanced table, that the table stays
balanced, and so that every scheduler in use is.
-/
namespace Litmus.Scheduler

open Placement

variable {s : Scheduler} {c : Class} {g : Grant}

/-- The table of a new scheduler. -/
def fresh (id : Nat) (t : Topology) (maxThreads : Nat) : Scheduler where
  id
  topology := t
  debug := false
  owned := t.spreadOrder (min maxThreads t.totalThreads)
  free := poolOf t (t.spreadOrder (min maxThreads t.totalThreads))
  freeCount := min maxThreads t.totalThreads
  nextTicket := 0
  outstanding := []
  quarantined := 0
  shapes := []

/-- The table after the shape of a class has been looked up. -/
def cachedFor (s : Scheduler) (c : Class) : Scheduler :=
  { s with shapes := (s.shapeFor c).2 }

/-- The grant that is issued next. -/
def nextGrant (s : Scheduler) (c : Class) (seats : List Nat) : Grant :=
  Grant.issue s.id s.nextTicket c seats

/-- The table after seats have been granted to a class. -/
def granted (s : Scheduler) (c : Class) (seats : List Nat) : Scheduler :=
  { s.cachedFor c with
    free := mark s.free false seats
    freeCount := s.freeCount - seats.length
    nextTicket := s.nextTicket + 1
    outstanding := (s.nextTicket, (s.nextGrant c seats).threads) :: s.outstanding }

/-- The table after a grant has been given back. -/
def returned (s : Scheduler) (g : Grant) : Scheduler :=
  { s with
    free := mark s.free true g.threads
    freeCount := s.freeCount + g.threads.length
    outstanding := s.outstanding.filter (·.1 ≠ g.ticket) }

theorem start?_eq_some {id maxThreads : Nat} {t : Topology} :
    start? id t maxThreads = some s ↔ 0 < maxThreads ∧ fresh id t maxThreads = s := by
  unfold start?
  split
  case isTrue zero => simp [zero]
  case isFalse nonzero => simp [fresh, Nat.pos_of_ne_zero nonzero]

theorem tryAcquire_eq (s : Scheduler) (c : Class) : s.tryAcquire c =
    if s.freeCount < c.size then (s, .ok none)
    else match find s.topology s.free (s.shapeFor c).1 with
      | none => (s.cachedFor c, .ok none)
      | some seats => (s.granted c seats).settle (some (s.nextGrant c seats)) :=
  rfl

theorem release_eq (s : Scheduler) (g : Grant) : s.release g =
    if g.issuer ≠ s.id then (s, .error (.foreignRelease g))
    else match s.outstanding.lookup g.ticket with
      | none => (s, .error (.notOutstanding g))
      | some threads =>
          if threads ≠ g.threads then (s, .error (.altered g))
          else match g.threads.find? (isFree s.free) with
            | some th => (s, .error (.alreadyFree th g))
            | none => (s.returned g).settle () :=
  rfl

/-- The table after a grant has been set aside for good. -/
def withheld (s : Scheduler) : Scheduler :=
  { s with quarantined := s.quarantined + 1 }

/-- Why a grant that is not outstanding as it is shown cannot be given back. -/
def releaseFault (s : Scheduler) (g : Grant) : Refusal :=
  if g.issuer ≠ s.id then .foreignRelease g
  else if (s.outstanding.lookup g.ticket).isNone then .notOutstanding g
  else .altered g

def quarantineFault (s : Scheduler) (g : Grant) : Refusal :=
  if g.issuer ≠ s.id then .foreignQuarantine g else .unknownQuarantine g

theorem release_unknown
    (h : ¬ (g.issuer = s.id ∧ s.outstanding.lookup g.ticket = some g.threads)) :
    s.release g = (s, .error (s.releaseFault g)) := by
  rw [release_eq, releaseFault]
  by_cases own : g.issuer = s.id
  case neg => rw [if_pos own, if_pos own]
  case pos =>
    rw [if_neg (not_not.2 own), if_neg (not_not.2 own)]
    cases known : s.outstanding.lookup g.ticket with
    | none => simp
    | some threads =>
        have altered : threads ≠ g.threads := fun heq => h ⟨own, heq ▸ known⟩
        simp [altered]

theorem quarantine_known (own : g.issuer = s.id)
    (known : (s.outstanding.lookup g.ticket).isSome) :
    s.quarantine g = (s.withheld, .ok ()) := by
  have listed : ¬ (s.outstanding.lookup g.ticket).isNone := by
    rw [Option.isNone_iff_eq_none]
    exact Option.isSome_iff_ne_none.1 known
  rw [quarantine, if_neg (not_not.2 own), if_neg listed]
  rfl

theorem quarantine_unknown
    (h : ¬ (g.issuer = s.id ∧ (s.outstanding.lookup g.ticket).isSome)) :
    s.quarantine g = (s, .error (s.quarantineFault g)) := by
  rw [quarantine, quarantineFault]
  by_cases own : g.issuer = s.id
  case neg => rw [if_pos own, if_pos own]
  case pos =>
    have unknown : (s.outstanding.lookup g.ticket).isNone :=
      Option.isNone_iff_eq_none.2 (Option.not_isSome_iff_eq_none.1 fun known => h ⟨own, known⟩)
    rw [if_neg (not_not.2 own), if_neg (not_not.2 own), if_pos unknown]

/-! ### Grants -/

theorem mem_nextGrant_threads {seats : List Nat} {x : Nat} :
    x ∈ (s.nextGrant c seats).threads ↔ x ∈ seats :=
  List.mem_mergeSort

theorem nextGrant_threads_perm (s : Scheduler) (c : Class) (seats : List Nat) :
    (s.nextGrant c seats).threads.Perm seats :=
  List.mergeSort_perm _ _

theorem nextGrant_threads_ascending (s : Scheduler) (c : Class) {seats : List Nat}
    (distinct : seats.Nodup) :
    (s.nextGrant c seats).threads.Pairwise (· < ·) := by
  have sorted : (s.nextGrant c seats).threads.Pairwise fun x y => x ≤ y := by
    refine (List.pairwise_mergeSort ?_ ?_ seats).imp fun h => of_decide_eq_true h
    · simp only [decide_eq_true_eq]
      exact fun _ _ _ => Nat.le_trans
    · simp only [Bool.or_eq_true, decide_eq_true_eq]
      exact Nat.le_total
  have nodup := (s.nextGrant_threads_perm c seats).nodup_iff.2 distinct
  exact (sorted.and nodup).imp fun h => Nat.lt_of_le_of_ne h.1 h.2

/-! ### Each call keeps the table balanced -/

namespace Balanced

theorem cachedFor (h : s.Balanced) (c : Class) : (s.cachedFor c).Balanced :=
  { h with cached := h.shapeFor_cached c }

theorem granted (h : s.Balanced) {seats : List Nat}
    (found : Seating s.topology s.free c seats) : (s.granted c seats).Balanced where
  machine := h.machine
  mask := (length_mark ..).trans h.mask
  counted := by
    have taken := (freeThreads_take found.distinct found.free).length_eq
    rw [List.length_append, length_freeThreads, length_freeThreads] at taken
    change s.freeCount - seats.length = countFree (mark s.free false seats)
    rw [h.counted]
    omega
  owned_nodup := h.owned_nodup
  owned_inside := h.owned_inside
  conserved := by
    refine List.Perm.trans ?_ h.conserved
    change (freeThreads (mark s.free false seats) ++
      ((s.nextGrant c seats).threads ++ s.held)).Perm _
    rw [← List.append_assoc]
    refine List.Perm.append_right _ ?_
    refine (List.perm_append_comm.trans ?_).trans (freeThreads_take found.distinct found.free)
    exact (s.nextGrant_threads_perm c seats).append_right _
  ascending := by
    intro e he
    rcases List.mem_cons.1 he with rfl | he
    · exact s.nextGrant_threads_ascending c found.distinct
    · exact h.ascending e he
  tickets := by
    refine List.nodup_cons.2 ⟨fun hmem => ?_, h.tickets⟩
    obtain ⟨e, he, heq⟩ := List.mem_map.1 hmem
    exact Nat.lt_irrefl _ (heq ▸ h.issued e he)
  issued := by
    intro e he
    rcases List.mem_cons.1 he with rfl | he
    · exact Nat.lt_succ_self _
    · exact Nat.lt_succ_of_lt (h.issued e he)
  cached := h.shapeFor_cached c

theorem returned (h : s.Balanced) (known : s.outstanding.lookup g.ticket = some g.threads) :
    (s.returned g).Balanced := by
  have parted := perm_of_lookup h.tickets known
  have heldPerm : s.held.Perm (g.threads ++ (s.returned g).held) := parted.flatMap_right _
  have hmem {x : Nat} (hx : x ∈ g.threads) : x ∈ s.held :=
    heldPerm.mem_iff.2 (List.mem_append_left _ hx)
  have distinct : g.threads.Nodup := (heldPerm.nodup_iff.1 h.nodup_held).of_append_left
  have given := freeThreads_give distinct (fun x hx => h.not_free_of_held (hmem hx))
    fun x hx => h.lt_of_held (hmem hx)
  refine ⟨h.machine, (length_mark ..).trans h.mask, ?_, h.owned_nodup, h.owned_inside, ?_, ?_, ?_,
    ?_, h.cached⟩
  · have := given.length_eq
    rw [List.length_append, length_freeThreads, length_freeThreads] at this
    change s.freeCount + g.threads.length = countFree (mark s.free true g.threads)
    rw [h.counted, this, Nat.add_comm]
  · refine List.Perm.trans ?_ h.conserved
    refine (given.append_right _).trans ?_
    rw [List.append_assoc]
    refine (List.perm_append_comm_assoc ..).trans ?_
    exact heldPerm.symm.append_left _
  · exact fun e he => h.ascending e (List.mem_of_mem_filter he)
  · exact h.tickets.sublist (List.filter_sublist.map _)
  · exact fun e he => h.issued e (List.mem_of_mem_filter he)

theorem tryAcquire_none (h : s.Balanced)
    (stuck : find s.topology s.free (Shape.ofClass c) = none) :
    s.tryAcquire c = (s, .ok none) ∨ s.tryAcquire c = (s.cachedFor c, .ok none) := by
  rw [tryAcquire_eq, h.shapeFor_eq, stuck]
  split
  case isTrue => exact .inl rfl
  case isFalse => exact .inr rfl

theorem tryAcquire_some (h : s.Balanced) (hc : c.WellFormed) {seats : List Nat}
    (found : find s.topology s.free (Shape.ofClass c) = some seats) :
    s.tryAcquire c = (s.granted c seats, .ok (some (s.nextGrant c seats))) := by
  have seating := seating_of_find h.machine hc found
  have enough := length_le_countFree seating.distinct seating.free
  rw [seating.size, ← h.counted] at enough
  rw [tryAcquire_eq, if_neg (Nat.not_lt.2 enough), h.shapeFor_eq, found]
  exact (h.granted seating).settle_eq _

theorem tryAcquire (h : s.Balanced) (hc : c.WellFormed) : (s.tryAcquire c).1.Balanced := by
  cases found : find s.topology s.free (Shape.ofClass c) with
  | none =>
      cases h.tryAcquire_none found with
      | inl heq => rwa [heq]
      | inr heq =>
          rw [heq]
          exact h.cachedFor c
  | some seats =>
      rw [h.tryAcquire_some hc found]
      exact h.granted (seating_of_find h.machine hc found)

/-- A grant that is outstanding as it is shown can be given back. -/
theorem release_known (h : s.Balanced) (own : g.issuer = s.id)
    (known : s.outstanding.lookup g.ticket = some g.threads) :
    s.release g = (s.returned g, .ok ()) := by
  have taken : g.threads.find? (isFree s.free) = none := by
    refine List.find?_eq_none.2 fun x hx => ?_
    have hheld : x ∈ s.held :=
      ((perm_of_lookup h.tickets known).flatMap_right _).mem_iff.2 (List.mem_append_left _ hx)
    simp [h.not_free_of_held hheld]
  rw [release_eq, if_neg (not_not.2 own), known]
  simp only [ne_eq, not_true_eq_false, if_false, taken]
  exact (h.returned known).settle_eq ()

theorem release (h : s.Balanced) (g : Grant) : (s.release g).1.Balanced := by
  by_cases hknown : g.issuer = s.id ∧ s.outstanding.lookup g.ticket = some g.threads
  · rw [h.release_known hknown.1 hknown.2]
    exact h.returned hknown.2
  · rwa [release_unknown hknown]

theorem quarantine (h : s.Balanced) (g : Grant) : (s.quarantine g).1.Balanced := by
  by_cases hknown : g.issuer = s.id ∧ (s.outstanding.lookup g.ticket).isSome
  · rw [quarantine_known hknown.1 hknown.2]
    exact { h with }
  · rwa [quarantine_unknown hknown]

theorem enableDebug (h : s.Balanced) : s.enableDebug.Balanced :=
  { h with }

end Balanced

theorem balanced_of_start {id maxThreads : Nat} {t : Topology} (ht : t.WellFormed)
    (h : start? id t maxThreads = some s) : s.Balanced := by
  obtain ⟨positive, rfl⟩ := start?_eq_some.1 h
  have inside {x : Nat} (hx : x ∈ t.spreadOrder (min maxThreads t.totalThreads)) :
      x < t.totalThreads := ht.lt_of_mem_spreadOrder hx
  have given := freeThreads_give (ht.nodup_spreadOrder (min maxThreads t.totalThreads))
    (fun x _ => isFree_replicate_false t.totalThreads x) (by simpa using fun x hx => inside hx)
  have idle : freeThreads (List.replicate t.totalThreads false) = [] := by
    refine List.eq_nil_iff_forall_not_mem.2 fun x hx => ?_
    simpa using mem_freeThreads.1 hx
  rw [idle, List.append_nil] at given
  refine ⟨ht, by simp [fresh, poolOf], ?_, ht.nodup_spreadOrder _, fun x hx => inside hx, ?_, ?_,
    ?_, ?_, ?_⟩
  · have := given.length_eq
    rw [length_freeThreads, ht.length_spreadOrder_min positive] at this
    exact this.symm
  · simpa [fresh, held, poolOf] using given
  all_goals simp [fresh]

/-- A scheduler after any calls, those that are refused included. -/
inductive Reachable : Scheduler → Prop where
  | start {id maxThreads : Nat} {t : Topology} {s : Scheduler} (described : t.Described)
      (h : start? id t maxThreads = some s) : Reachable s
  | enableDebug {s : Scheduler} (h : Reachable s) : Reachable s.enableDebug
  | tryAcquire {s : Scheduler} (h : Reachable s) {c : Class} (formed : c.Formed) :
      Reachable (s.tryAcquire c).1
  | release {s : Scheduler} (h : Reachable s) (g : Grant) : Reachable (s.release g).1
  | quarantine {s : Scheduler} (h : Reachable s) (g : Grant) : Reachable (s.quarantine g).1

theorem Reachable.balanced (h : Reachable s) : s.Balanced := by
  induction h with
  | start described h => exact balanced_of_start described.wellFormed h
  | enableDebug _ ih => exact ih.enableDebug
  | tryAcquire _ formed ih => exact ih.tryAcquire formed.wellFormed
  | release _ g ih => exact ih.release g
  | quarantine _ g ih => exact ih.quarantine g

end Litmus.Scheduler
