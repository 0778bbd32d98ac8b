import Litmus.Topology.Basic
import Mathlib.Data.List.Basic
import Mathlib.Data.List.Nodup

/-!
What the tables of a topology say: each thread is listed under its core and each core under its
package, in ascending order, and no list is empty. Tables over threads with dense numbers are so.
-/
namespace Litmus.Topology

structure WellFormed (t : Topology) : Prop where
  ids : ∀ (i : Nat) th, t.threads[i]? = some th → th.id = i
  mem_threadsOf : ∀ x k, x ∈ t.threadsOf k ↔ t.coreOf x = .ok k
  mem_coresOf : ∀ k p, k ∈ t.coresOf p ↔ ∃ x, t.coreOf x = .ok k ∧ t.packageOf x = .ok p
  threadsOf_sorted : ∀ k, (t.threadsOf k).Pairwise (· < ·)
  coresOf_sorted : ∀ p, (t.coresOf p).Pairwise (· < ·)
  onePackage : ∀ x y k, t.coreOf x = .ok k → t.coreOf y = .ok k → t.packageOf x = t.packageOf y
  coresUsed : ∀ k < t.totalCores, t.threadsOf k ≠ []
  packagesUsed : ∀ p < t.totalPackages, t.coresOf p ≠ []

theorem coreOf_eq_ok {t : Topology} {x k : Nat} :
    t.coreOf x = .ok k ↔ ∃ th, t.threads[x]? = some th ∧ th.core = k := by
  unfold coreOf thread
  cases t.threads[x]? <;> simp [Except.map]

theorem packageOf_eq_ok {t : Topology} {x p : Nat} :
    t.packageOf x = .ok p ↔ ∃ th, t.threads[x]? = some th ∧ th.package = p := by
  unfold packageOf thread
  cases t.threads[x]? <;> simp [Except.map]

theorem exists_coreOf {t : Topology} {x : Nat} :
    (∃ k, t.coreOf x = .ok k) ↔ x < t.totalThreads := by
  unfold coreOf thread totalThreads
  cases Nat.lt_or_ge x t.threads.length with
  | inl h => simp [Except.map, h]
  | inr h => simp [Except.map, h]

theorem exists_packageOf {t : Topology} {x : Nat} :
    (∃ p, t.packageOf x = .ok p) ↔ x < t.totalThreads := by
  unfold packageOf thread totalThreads
  cases Nat.lt_or_ge x t.threads.length with
  | inl h => simp [Except.map, h]
  | inr h => simp [Except.map, h]

theorem WellFormed.nodup_threadsOf {t : Topology} (h : t.WellFormed) (k : Nat) :
    (t.threadsOf k).Nodup :=
  (h.threadsOf_sorted k).imp Nat.ne_of_lt

theorem WellFormed.nodup_coresOf {t : Topology} (h : t.WellFormed) (p : Nat) :
    (t.coresOf p).Nodup :=
  (h.coresOf_sorted p).imp Nat.ne_of_lt

theorem lt_totalPackages_of_mem {t : Topology} {k p : Nat} (h : k ∈ t.coresOf p) :
    p < t.totalPackages := by
  refine Nat.lt_of_not_le fun hp => ?_
  simp [coresOf, List.getElem?_eq_none hp] at h

/-! ### Ascending lists -/

theorem mem_insertAscending {n m : Nat} {ns : List Nat} :
    m ∈ insertAscending n ns ↔ m = n ∨ m ∈ ns := by
  induction ns with
  | nil => simp [insertAscending]
  | cons k ks ih =>
      unfold insertAscending
      split
      case isTrue => simp
      case isFalse =>
        split
        case isTrue h => simp [h]
        case isFalse =>
          rw [List.mem_cons, ih, List.mem_cons]
          exact or_left_comm

theorem pairwise_insertAscending {n : Nat} {ns : List Nat} (h : ns.Pairwise (· < ·)) :
    (insertAscending n ns).Pairwise (· < ·) := by
  induction ns with
  | nil => simp [insertAscending]
  | cons k ks ih =>
      obtain ⟨hk, hks⟩ := List.pairwise_cons.1 h
      unfold insertAscending
      split
      case isTrue hn =>
        refine List.pairwise_cons.2 ⟨fun m hm => ?_, h⟩
        rcases List.mem_cons.1 hm with rfl | hm
        · exact hn
        · exact Nat.lt_trans hn (hk m hm)
      case isFalse hn =>
        split
        case isTrue => exact h
        case isFalse hne =>
          refine List.pairwise_cons.2 ⟨fun m hm => ?_, ih hks⟩
          rcases mem_insertAscending.1 hm with rfl | hm
          · omega
          · exact hk m hm

theorem mem_ascending {n : Nat} {ns : List Nat} : n ∈ ascending ns ↔ n ∈ ns := by
  induction ns with
  | nil => simp [ascending]
  | cons k ks ih =>
      have hcons : ascending (k :: ks) = insertAscending k (ascending ks) := rfl
      rw [hcons, mem_insertAscending, ih, List.mem_cons]

theorem pairwise_ascending (ns : List Nat) : (ascending ns).Pairwise (· < ·) := by
  induction ns with
  | nil => simp [ascending]
  | cons k ks ih => exact pairwise_insertAscending ih

theorem nodup_ascending (ns : List Nat) : (ascending ns).Nodup :=
  (pairwise_ascending ns).imp Nat.ne_of_lt

/-- Numbers that fill an interval from zero are as many as their bound. -/
theorem length_ascending_of_dense {ns : List Nat} {n : Nat} (h : ∀ k, k ∈ ns ↔ k < n) :
    (ascending ns).length = n := by
  have : (ascending ns).Perm (List.range n) :=
    (List.perm_ext_iff_of_nodup (nodup_ascending ns) List.nodup_range).2 fun k => by
      rw [mem_ascending, h, List.mem_range]
  simpa using this.length_eq

/-- Places in the ascending list of all numbers fill an interval from zero. -/
theorem mem_map_idxOf_ascending {ns : List Nat} {k : Nat} :
    k ∈ ns.map (ascending ns).idxOf ↔ k < (ascending ns).length := by
  rw [List.mem_map]
  constructor
  · rintro ⟨n, hn, rfl⟩
    exact List.idxOf_lt_length_of_mem (mem_ascending.2 hn)
  · intro hk
    exact ⟨(ascending ns)[k], mem_ascending.1 (List.getElem_mem hk),
      (nodup_ascending ns).idxOf_getElem k hk⟩

/-! ### Tables over dense numbers -/

/-- Threads in id order whose core and package numbers leave no gap, with each core in one
package. -/
structure Dense (ths : List HardwareThread) : Prop where
  ids : ∀ (i : Nat) th, ths[i]? = some th → th.id = i
  cores : ∀ k, k ∈ ths.map (·.core) ↔ k < (ascending (ths.map (·.core))).length
  packages : ∀ p, p ∈ ths.map (·.package) ↔ p < (ascending (ths.map (·.package))).length
  coherent : ∀ a ∈ ths, ∀ b ∈ ths, a.core = b.core → a.package = b.package

theorem Dense.getElem?_id {ths : List HardwareThread} (h : Dense ths) {th : HardwareThread}
    (hth : th ∈ ths) : ths[th.id]? = some th := by
  obtain ⟨i, hi⟩ := List.mem_iff_getElem?.1 hth
  rwa [h.ids i th hi]

theorem Dense.map_id {ths : List HardwareThread} (h : Dense ths) :
    ths.map (·.id) = List.range ths.length := by
  apply List.ext_getElem
  · simp
  · intro i hi _
    have hlt : i < ths.length := by simpa using hi
    simpa using h.ids i ths[i] (List.getElem?_eq_getElem hlt)

/-- Each list gets the items that go to it, in their order. -/
theorem getElem?_foldl_modify (items : List (Nat × Nat)) (table : List (List Nat)) (k : Nat) :
    (items.foldl (fun table (k, item) => table.modify k (· ++ [item])) table)[k]? =
      (table[k]?).map (· ++ (items.filter (·.1 = k)).map (·.2)) := by
  induction items generalizing table with
  | nil => simp
  | cons e items ih =>
      rw [List.foldl_cons, ih, List.getElem?_modify]
      by_cases here : e.1 = k
      · simp [here, Function.comp_def]
      · simp [here]

theorem getElem?_fill {n k : Nat} {items : List (Nat × Nat)} :
    (fill n items)[k]? = if k < n then some ((items.filter (·.1 = k)).map (·.2)) else none := by
  rw [fill, getElem?_foldl_modify, List.getElem?_replicate]
  split <;> simp

@[simp] theorem length_fill (n : Nat) (items : List (Nat × Nat)) :
    (fill n items).length = n := by
  have kept (table : List (List Nat)) :
      (items.foldl (fun table (k, item) => table.modify k (· ++ [item])) table).length =
        table.length := by
    induction items generalizing table with
    | nil => rfl
    | cons e items ih => rw [List.foldl_cons, ih, List.length_modify]
  rw [fill, kept, List.length_replicate]

variable {ths : List HardwareThread} {origin : Origin}

theorem coreOf_ofDense {x k : Nat} :
    (ofDense origin ths).coreOf x = .ok k ↔ ∃ th, ths[x]? = some th ∧ th.core = k :=
  coreOf_eq_ok

theorem packageOf_ofDense {x p : Nat} :
    (ofDense origin ths).packageOf x = .ok p ↔ ∃ th, ths[x]? = some th ∧ th.package = p :=
  packageOf_eq_ok

theorem Dense.threadsOf_eq (h : Dense ths) (k : Nat) :
    (ofDense origin ths).threadsOf k = (ths.filter (·.core = k)).map (·.id) := by
  unfold threadsOf ofDense
  by_cases hk : k < (ascending (ths.map (·.core))).length
  · rw [getElem?_fill, if_pos hk, Option.getD_some, List.filter_map, List.map_map]
    rfl
  · have hnone : ths.filter (·.core = k) = [] := by
      rw [List.filter_eq_nil_iff]
      intro th hth hcore
      exact hk ((h.cores k).1 (List.mem_map.2 ⟨th, hth, by simpa using hcore⟩))
    rw [getElem?_fill, if_neg hk, hnone]
    rfl

theorem Dense.mem_threadsOf (h : Dense ths) {x k : Nat} :
    x ∈ (ofDense origin ths).threadsOf k ↔ (ofDense origin ths).coreOf x = .ok k := by
  rw [h.threadsOf_eq, coreOf_ofDense, List.mem_map]
  constructor
  · rintro ⟨th, hth, rfl⟩
    obtain ⟨hmem, hcore⟩ := List.mem_filter.1 hth
    exact ⟨th, h.getElem?_id hmem, by simpa using hcore⟩
  · rintro ⟨th, hth, hcore⟩
    exact ⟨th, List.mem_filter.2 ⟨List.mem_of_getElem? hth, by simpa using hcore⟩, h.ids x th hth⟩

/-- The package of a core, as the tables find it. -/
theorem Dense.owner_eq (h : Dense ths) {th : HardwareThread} (hth : th ∈ ths) :
    ((ths.find? (·.core = th.core)).map (·.package)).getD 0 = th.package := by
  cases hfind : ths.find? (·.core = th.core) with
  | none =>
      have := List.find?_eq_none.1 hfind th hth
      simp at this
  | some other =>
      have hcore : other.core = th.core := by simpa using List.find?_some hfind
      exact h.coherent other (List.mem_of_find?_eq_some hfind) th hth hcore

theorem Dense.mem_coresOf (h : Dense ths) {k p : Nat} :
    k ∈ (ofDense origin ths).coresOf p ↔
      ∃ x, (ofDense origin ths).coreOf x = .ok k ∧ (ofDense origin ths).packageOf x = .ok p := by
  have hlisted : k ∈ (ofDense origin ths).coresOf p ↔
      p < (ascending (ths.map (·.package))).length ∧ k < (ascending (ths.map (·.core))).length ∧
        ((ths.find? (·.core = k)).map (·.package)).getD 0 = p := by
    unfold coresOf ofDense
    by_cases hp : p < (ascending (ths.map (·.package))).length
    · rw [getElem?_fill, if_pos hp, Option.getD_some]
      simp only [List.mem_map, List.mem_filter, Prod.exists, List.mem_zipIdx_iff_getElem?,
        List.getElem?_map, decide_eq_true_eq, hp, true_and]
      constructor
      · rintro ⟨owner, c, ⟨hc, rfl⟩, rfl⟩
        obtain ⟨c', hc', howner⟩ := Option.map_eq_some_iff.1 hc
        obtain ⟨hlt, rfl⟩ := List.getElem?_eq_some_iff.1 hc'
        rw [List.getElem_range] at howner
        exact ⟨by simpa using hlt, howner⟩
      · rintro ⟨hk, howner⟩
        exact ⟨p, k, ⟨by simp [List.getElem?_range hk, howner], rfl⟩, rfl⟩
    · simp [hp]
  rw [hlisted]
  constructor
  · rintro ⟨-, hk, howner⟩
    obtain ⟨th, hth, hcore⟩ := List.mem_map.1 ((h.cores k).2 hk)
    subst hcore
    rw [h.owner_eq hth] at howner
    exact ⟨th.id, coreOf_ofDense.2 ⟨th, h.getElem?_id hth, rfl⟩,
      packageOf_ofDense.2 ⟨th, h.getElem?_id hth, howner⟩⟩
  · rintro ⟨x, hcore, hpackage⟩
    obtain ⟨th, hx, rfl⟩ := coreOf_ofDense.1 hcore
    obtain ⟨th', hx', rfl⟩ := packageOf_ofDense.1 hpackage
    obtain rfl : th = th' := by simpa [hx] using hx'
    have hth := List.mem_of_getElem? hx
    exact ⟨(h.packages _).1 (List.mem_map.2 ⟨th, hth, rfl⟩),
      (h.cores _).1 (List.mem_map.2 ⟨th, hth, rfl⟩), h.owner_eq hth⟩

theorem Dense.threadsOf_sorted (h : Dense ths) (k : Nat) :
    ((ofDense origin ths).threadsOf k).Pairwise (· < ·) := by
  rw [h.threadsOf_eq]
  have hsub : ((ths.filter (·.core = k)).map (·.id)).Sublist (ths.map (·.id)) :=
    List.filter_sublist.map _
  rw [h.map_id] at hsub
  exact List.pairwise_lt_range.sublist hsub

/-- Picking the indices at which an item stands keeps their order. -/
theorem pairwise_indices (owners : List Nat) (p : Nat) :
    ((owners.zipIdx.filter (·.1 = p)).map (·.2)).Pairwise (· < ·) := by
  have hsub := (List.filter_sublist (p := fun o : Nat × Nat => o.1 = p)
    (l := owners.zipIdx)).map (·.2)
  rw [List.zipIdx_map_snd] at hsub
  exact List.Pairwise.sublist hsub (List.pairwise_lt_range' ..)

theorem coresOf_ofDense_sorted (p : Nat) : ((ofDense origin ths).coresOf p).Pairwise (· < ·) := by
  unfold coresOf ofDense
  rw [getElem?_fill]
  split
  · exact pairwise_indices _ p
  · exact List.Pairwise.nil

theorem Dense.wellFormed (h : Dense ths) : (ofDense origin ths).WellFormed where
  ids := h.ids
  mem_threadsOf _ _ := h.mem_threadsOf
  mem_coresOf _ _ := h.mem_coresOf
  threadsOf_sorted := h.threadsOf_sorted
  coresOf_sorted := coresOf_ofDense_sorted
  onePackage x y k hx hy := by
    obtain ⟨a, ha, rfl⟩ := coreOf_ofDense.1 hx
    obtain ⟨b, hb, hcore⟩ := coreOf_ofDense.1 hy
    have := h.coherent a (List.mem_of_getElem? ha) b (List.mem_of_getElem? hb) hcore.symm
    rw [packageOf_ofDense.2 ⟨a, ha, this⟩, packageOf_ofDense.2 ⟨b, hb, rfl⟩]
  coresUsed k hk := by
    have hk : k < (ascending (ths.map (·.core))).length := by
      simpa [totalCores, ofDense] using hk
    obtain ⟨th, hth, hcore⟩ := List.mem_map.1 ((h.cores k).2 hk)
    exact List.ne_nil_of_mem (h.mem_threadsOf.2
      (coreOf_ofDense.2 ⟨th, h.getElem?_id hth, hcore⟩))
  packagesUsed p hp := by
    have hp : p < (ascending (ths.map (·.package))).length := by
      simpa [totalPackages, ofDense] using hp
    obtain ⟨th, hth, hpackage⟩ := List.mem_map.1 ((h.packages p).2 hp)
    exact List.ne_nil_of_mem (h.mem_coresOf.2 ⟨th.id,
      coreOf_ofDense.2 ⟨th, h.getElem?_id hth, rfl⟩,
      packageOf_ofDense.2 ⟨th, h.getElem?_id hth, hpackage⟩⟩)

end Litmus.Topology
