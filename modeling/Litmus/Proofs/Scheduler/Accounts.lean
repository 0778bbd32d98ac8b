import Litmus.Proofs.Placement.FreeSet
import Litmus.Proofs.Scheduler.Spread
import Litmus.Scheduler.Basic

/-!
The accounts of a scheduler: the free threads and those of the outstanding grants are together the
owned threads, each once. An audit of such a table finds nothing.
-/
namespace Litmus.Scheduler

open Placement

/-- The threads of all outstanding grants. -/
def held (s : Scheduler) : List Nat :=
  s.outstanding.flatMap (·.2)

structure Balanced (s : Scheduler) : Prop where
  machine : s.topology.WellFormed
  mask : s.free.length = s.topology.totalThreads
  counted : s.freeCount = countFree s.free
  owned_nodup : s.owned.Nodup
  owned_inside : ∀ x ∈ s.owned, x < s.topology.totalThreads
  conserved : (freeThreads s.free ++ s.held).Perm s.owned
  ascending : ∀ e ∈ s.outstanding, e.2.Pairwise (· < ·)
  tickets : (s.outstanding.map (·.1)).Nodup
  issued : ∀ e ∈ s.outstanding, e.1 < s.nextTicket
  cached : ∀ e ∈ s.shapes, e.2 = Shape.ofClass e.1

variable {s : Scheduler}

namespace Balanced

theorem nodup_accounts (h : s.Balanced) : (freeThreads s.free ++ s.held).Nodup :=
  h.conserved.nodup_iff.2 h.owned_nodup

theorem nodup_held (h : s.Balanced) : s.held.Nodup :=
  h.nodup_accounts.of_append_right

theorem not_free_of_held (h : s.Balanced) {x : Nat} (hx : x ∈ s.held) :
    isFree s.free x = false := by
  rw [Bool.eq_false_iff]
  intro hfree
  exact List.disjoint_of_nodup_append h.nodup_accounts (mem_freeThreads.2 hfree) hx

theorem lt_of_held (h : s.Balanced) {x : Nat} (hx : x ∈ s.held) : x < s.free.length := by
  rw [h.mask]
  exact h.owned_inside x (h.conserved.mem_iff.1 (List.mem_append_right _ hx))

theorem shapeFor_eq (h : s.Balanced) (c : Class) : (s.shapeFor c).1 = Shape.ofClass c := by
  unfold shapeFor
  split
  case h_1 shape hlookup =>
    obtain ⟨before, after, heq, -⟩ := List.lookup_eq_some_iff.1 hlookup
    exact h.cached (c, shape) (by simp [heq])
  case h_2 => rfl

theorem shapeFor_cached (h : s.Balanced) (c : Class) :
    ∀ e ∈ (s.shapeFor c).2, e.2 = Shape.ofClass e.1 := by
  unfold shapeFor
  split
  case h_1 => exact h.cached
  case h_2 =>
    intro e he
    rcases List.mem_cons.1 he with rfl | he
    · rfl
    · exact h.cached e he

end Balanced

/-! ### Audits -/

theorem auditGrant_eq_ok {ticket : Nat} {seen : FreeSet} {xs : List Nat} (distinct : xs.Nodup)
    (fresh : ∀ x ∈ xs, isFree seen x = false) (taken : ∀ x ∈ xs, isFree s.free x = false) :
    s.auditGrant ticket seen xs = .ok (mark seen true xs) := by
  induction xs generalizing seen with
  | nil => rfl
  | cons x xs ih =>
      obtain ⟨hx, hxs⟩ := List.nodup_cons.1 distinct
      rw [auditGrant, fresh x (by simp), taken x (by simp)]
      refine ih hxs (fun y hy => ?_) fun y hy => taken y (by simp [hy])
      have hne : x ≠ y := fun heq => hx (heq ▸ hy)
      have := fresh y (by simp [hy])
      simpa [isFree, List.getElem?_set_ne hne] using this

theorem foldlM_auditGrant {grants : List (Nat × List Nat)} {seen : FreeSet}
    (distinct : (grants.flatMap (·.2)).Nodup)
    (fresh : ∀ x ∈ grants.flatMap (·.2), isFree seen x = false)
    (taken : ∀ x ∈ grants.flatMap (·.2), isFree s.free x = false) :
    grants.foldlM (fun seen e => s.auditGrant e.1 seen e.2) seen =
      .ok (mark seen true (grants.flatMap (·.2))) := by
  induction grants generalizing seen with
  | nil => rfl
  | cons e grants ih =>
      simp only [List.flatMap_cons, List.mem_append] at distinct fresh taken
      rw [List.foldlM_cons, auditGrant_eq_ok distinct.of_append_left
        (fun x hx => fresh x (.inl hx)) fun x hx => taken x (.inl hx)]
      have later : ∀ x ∈ grants.flatMap (·.2), isFree (mark seen true e.2) x = false := by
        intro x hx
        rw [isFree_mark, if_neg fun h => List.disjoint_of_nodup_append distinct h.1 hx]
        exact fresh x (.inr hx)
      refine (ih distinct.of_append_right later fun x hx => taken x (.inr hx)).trans ?_
      simp only [List.flatMap_cons, mark, List.foldl_append]

theorem Balanced.audit_eq_ok (h : s.Balanced) : s.audit = .ok () := by
  have unseen : ∀ x ∈ s.outstanding.flatMap (·.2),
      isFree (List.replicate s.free.length false) x = false :=
    fun x _ => isFree_replicate_false _ x
  have seen := foldlM_auditGrant h.nodup_held unseen fun x hx => h.not_free_of_held hx
  have once : s.owned.find? (fun th => isFree (mark (List.replicate s.free.length false) true
      (s.outstanding.flatMap (·.2))) th == isFree s.free th) = none := by
    refine List.find?_eq_none.2 fun x hx => ?_
    cases List.mem_append.1 (h.conserved.mem_iff.2 hx) with
    | inl hfree =>
        have hfree := mem_freeThreads.1 hfree
        have hnot : x ∉ s.outstanding.flatMap (·.2) := fun hheld => by
          rw [h.not_free_of_held hheld] at hfree
          simp at hfree
        simp [isFree_mark, hnot, hfree]
    | inr hheld =>
        have hmem : x ∈ s.outstanding.flatMap (·.2) := hheld
        simp only [isFree_mark, hmem, List.length_replicate, h.lt_of_held hheld,
          h.not_free_of_held hheld]
        simp
  unfold audit
  rw [if_neg (by simp [h.counted]), seen]
  simp only [once]

theorem Balanced.settle_eq (h : s.Balanced) {α : Type} (value : α) :
    s.settle value = (s, .ok value) := by
  unfold settle
  rw [h.audit_eq_ok]
  split <;> rfl

end Litmus.Scheduler
