import Litmus.Placement.Search
import Mathlib.Data.List.Basic
import Mathlib.Data.List.Nodup
import Mathlib.Data.List.Perm.Subperm

/-!
Sets of free threads as lists without repetition: how many there are, and what marking a list of
threads as free or taken does to them.
-/
namespace Litmus.Placement

variable {free : FreeSet}

theorem lt_of_isFree {x : Nat} (h : isFree free x = true) : x < free.length := by
  refine Nat.lt_of_not_le fun hle => ?_
  simp [isFree, List.getElem?_eq_none hle] at h

theorem length_freeThreads (free : FreeSet) : (freeThreads free).length = countFree free := by
  have hmap : free = (List.range free.length).map (isFree free) := by
    apply List.ext_getElem
    · simp
    · intro i hi _
      simp [isFree, hi]
  unfold freeThreads countFree
  conv_rhs => rw [hmap]
  rw [← List.countP_eq_length_filter, List.count_eq_countP, List.countP_map]
  congr 1
  funext x
  simp

theorem nodup_freeThreads (free : FreeSet) : (freeThreads free).Nodup :=
  List.nodup_range.filter _

/-- Distinct free threads are no more than the free threads. -/
theorem length_le_countFree {xs : List Nat} (distinct : xs.Nodup)
    (h : ∀ x ∈ xs, isFree free x = true) : xs.length ≤ countFree free := by
  rw [← length_freeThreads]
  exact (distinct.subperm fun x hx => mem_freeThreads.2 (h x hx)).length_le

@[simp] theorem isFree_replicate_false (n x : Nat) :
    isFree (List.replicate n false) x = false := by
  rw [isFree, List.getElem?_replicate]
  split <;> rfl

/-- Taking free threads parts the free threads into those and the rest. -/
theorem freeThreads_take {xs : List Nat} (distinct : xs.Nodup)
    (h : ∀ x ∈ xs, isFree free x = true) :
    (xs ++ freeThreads (mark free false xs)).Perm (freeThreads free) := by
  have apart : xs.Disjoint (freeThreads (mark free false xs)) := by
    intro x hx hx'
    rw [mem_freeThreads, isFree_mark, if_pos ⟨hx, lt_of_isFree (h x hx)⟩] at hx'
    simp at hx'
  refine (List.perm_ext_iff_of_nodup (distinct.append (nodup_freeThreads _) apart)
    (nodup_freeThreads _)).2 fun x => ?_
  rw [List.mem_append, mem_freeThreads, mem_freeThreads, isFree_mark]
  by_cases hx : x ∈ xs
  · simp [hx, h x hx]
  · simp [hx]

/-- Giving back threads that are not free adds them to the free threads. -/
theorem freeThreads_give {xs : List Nat} (distinct : xs.Nodup)
    (h : ∀ x ∈ xs, isFree free x = false) (inside : ∀ x ∈ xs, x < free.length) :
    (freeThreads (mark free true xs)).Perm (xs ++ freeThreads free) := by
  have apart : xs.Disjoint (freeThreads free) := by
    intro x hx hx'
    rw [mem_freeThreads, h x hx] at hx'
    simp at hx'
  refine (List.perm_ext_iff_of_nodup (nodup_freeThreads _)
    (distinct.append (nodup_freeThreads _) apart)).2 fun x => ?_
  rw [List.mem_append, mem_freeThreads, mem_freeThreads, isFree_mark]
  by_cases hx : x ∈ xs
  · simp [hx, inside x hx]
  · simp [hx]

end Litmus.Placement
