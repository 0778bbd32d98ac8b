import Litmus.Proofs.Topology.Records

/-!
Rectangular machines. Threads are numbered package by package and core by core, so the core and the
package of a thread are quotients of its number, and each core and each package is an interval.
-/
namespace Litmus.Topology

variable {packages cores threads : Nat} {t : Topology}

theorem zeroDimension?_eq_none : zeroDimension? packages cores threads = none ↔
    0 < packages ∧ 0 < cores ∧ 0 < threads := by
  simp [zeroDimension?, Nat.pos_iff_ne_zero]

/-! ### Intervals -/

theorem div_eq_iff_between {n k x : Nat} (pos : 0 < n) :
    x / n = k ↔ k * n ≤ x ∧ x < k * n + n := by
  rw [Nat.div_eq_iff pos]
  omega

/-- One more interval of `n` numbers fits below `m` of them. -/
theorem mul_add_le_mul {k m : Nat} (h : k < m) (n : Nat) : k * n + n ≤ m * n :=
  Nat.succ_mul k n ▸ Nat.mul_le_mul_right n h

/-- The quotients of an interval are an interval. -/
theorem exists_div_eq {m n k : Nat} (pos : 0 < n) : (∃ x < m * n, x / n = k) ↔ k < m := by
  constructor
  · rintro ⟨x, hx, rfl⟩
    exact Nat.div_lt_of_lt_mul (Nat.mul_comm m n ▸ hx)
  · exact fun hk => ⟨k * n, Nat.mul_lt_mul_of_pos_right hk pos, Nat.mul_div_cancel k pos⟩

/-! ### The grid -/

theorem getElem?_grid {x : Nat} {th : HardwareThread} :
    (grid packages cores threads)[x]? = some th ↔
      x < packages * cores * threads ∧ ⟨x / (cores * threads), x / threads, x⟩ = th := by
  rw [grid, List.getElem?_map]
  by_cases hx : x < packages * cores * threads
  · simp [hx]
  · simp [hx]

theorem mem_map_grid {f : HardwareThread → Nat} {k : Nat} :
    k ∈ (grid packages cores threads).map f ↔
      ∃ x < packages * cores * threads, f ⟨x / (cores * threads), x / threads, x⟩ = k := by
  simp [grid]

theorem coreOf_grid {origin : Origin} {x k : Nat} :
    (ofDense origin (grid packages cores threads)).coreOf x = .ok k ↔
      x < packages * cores * threads ∧ x / threads = k := by
  simp only [coreOf_ofDense, getElem?_grid, and_assoc, exists_and_left, exists_eq_left']

theorem packageOf_grid {origin : Origin} {x p : Nat} :
    (ofDense origin (grid packages cores threads)).packageOf x = .ok p ↔
      x < packages * cores * threads ∧ x / (cores * threads) = p := by
  simp only [packageOf_ofDense, getElem?_grid, and_assoc, exists_and_left, exists_eq_left']

/-- A machine of which each package has so many cores, and each core so many threads. -/
structure Rectangular (packages cores threads : Nat) (t : Topology) : Prop where
  totalThreads : t.totalThreads = packages * cores * threads
  totalCores : t.totalCores = packages * cores
  totalPackages : t.totalPackages = packages
  coreOf : ∀ x < packages * cores * threads, t.coreOf x = .ok (x / threads)
  packageOf : ∀ x < packages * cores * threads, t.packageOf x = .ok (x / (cores * threads))
  threadsOf : ∀ k < packages * cores, t.threadsOf k = List.range' (k * threads) threads
  coresOf : ∀ p < packages, t.coresOf p = List.range' (p * cores) cores

theorem mem_cores_grid (ht : 0 < threads) {k : Nat} :
    k ∈ (grid packages cores threads).map (·.core) ↔ k < packages * cores := by
  rw [mem_map_grid]
  exact exists_div_eq ht

section Grid

variable (hc : 0 < cores) (ht : 0 < threads)
include hc ht

theorem mem_packages_grid {p : Nat} :
    p ∈ (grid packages cores threads).map (·.package) ↔ p < packages := by
  rw [mem_map_grid, Nat.mul_assoc]
  exact exists_div_eq (Nat.mul_pos hc ht)

theorem dense_grid : Dense (grid packages cores threads) where
  ids i th found := by
    obtain ⟨-, rfl⟩ := getElem?_grid.1 found
    rfl
  cores k := by
    rw [length_ascending_of_dense fun _ => mem_cores_grid ht]
    exact mem_cores_grid ht
  packages p := by
    rw [length_ascending_of_dense fun _ => mem_packages_grid hc ht]
    exact mem_packages_grid hc ht
  coherent a ha b hb same := by
    obtain ⟨i, hi⟩ := List.mem_iff_getElem?.1 ha
    obtain ⟨j, hj⟩ := List.mem_iff_getElem?.1 hb
    obtain ⟨-, rfl⟩ := getElem?_grid.1 hi
    obtain ⟨-, rfl⟩ := getElem?_grid.1 hj
    have core : i / threads = j / threads := same
    simp only [Nat.mul_comm cores, ← Nat.div_div_eq_div_mul, core]

theorem threadsOf_grid {origin : Origin} {k : Nat} (hk : k < packages * cores) :
    (ofDense origin (grid packages cores threads)).threadsOf k =
      List.range' (k * threads) threads := by
  have tables : (ofDense origin (grid packages cores threads)).WellFormed :=
    (dense_grid hc ht).wellFormed
  have room : k * threads + threads ≤ packages * cores * threads := mul_add_le_mul hk threads
  refine (tables.threadsOf_sorted k).eq_of_mem_iff List.pairwise_lt_range' fun x => ?_
  rw [tables.mem_threadsOf, coreOf_grid, div_eq_iff_between ht, List.mem_range'_1]
  exact and_iff_right_of_imp fun h => Nat.lt_of_lt_of_le h.2 room

theorem coresOf_grid {origin : Origin} {p : Nat} (hp : p < packages) :
    (ofDense origin (grid packages cores threads)).coresOf p = List.range' (p * cores) cores := by
  have tables : (ofDense origin (grid packages cores threads)).WellFormed :=
    (dense_grid hc ht).wellFormed
  have room : p * cores + cores ≤ packages * cores := mul_add_le_mul hp cores
  refine (tables.coresOf_sorted p).eq_of_mem_iff List.pairwise_lt_range' fun k => ?_
  simp only [tables.mem_coresOf, coreOf_grid, packageOf_grid, List.mem_range'_1,
    ← div_eq_iff_between hc, Nat.mul_comm cores, ← Nat.div_div_eq_div_mul]
  constructor
  · rintro ⟨x, ⟨-, rfl⟩, -, rfl⟩
    rfl
  · intro inside
    have hk : k < packages * cores :=
      Nat.lt_of_lt_of_le ((div_eq_iff_between hc).1 inside).2 room
    obtain ⟨x, hx, rfl⟩ := (exists_div_eq ht).2 hk
    exact ⟨x, ⟨hx, rfl⟩, hx, inside⟩

theorem rectangular_grid (origin : Origin) :
    Rectangular packages cores threads (ofDense origin (grid packages cores threads)) where
  totalThreads := by simp [totalThreads, ofDense, grid]
  totalCores := by
    simp [totalCores, ofDense, length_ascending_of_dense fun _ => mem_cores_grid ht]
  totalPackages := by
    simp [totalPackages, ofDense, length_ascending_of_dense fun _ => mem_packages_grid hc ht]
  coreOf _ hx := (coreOf_grid).2 ⟨hx, rfl⟩
  packageOf _ hx := (packageOf_grid).2 ⟨hx, rfl⟩
  threadsOf _ hk := threadsOf_grid hc ht hk
  coresOf _ hp := coresOf_grid hc ht hp

/-- A grid passes every check, and its numbers are kept. -/
theorem build_grid (hp : 0 < packages) (origin : Origin) :
    build origin (grid packages cores threads) =
      .ok (ofDense origin (grid packages cores threads)) := by
  have dense : Dense (grid packages cores threads) := dense_grid hc ht
  have size : (grid packages cores threads).length = packages * cores * threads := by simp [grid]
  refine build_eq_ok_iff.2 ⟨⟨?_, dense.map_id ▸ .refl _, dense.coherent⟩, ?_⟩
  · exact List.ne_nil_of_length_pos (size ▸ Nat.mul_pos (Nat.mul_pos hp hc) ht)
  · rw [inIdOrder_of_ids dense.ids, dense.renumber_eq]

end Grid

theorem rectangular_of_preset (h : preset packages cores threads = .ok (.ok t)) :
    Rectangular packages cores threads t := by
  unfold preset at h
  split at h
  case h_1 => simp at h
  case h_2 positive =>
    obtain ⟨hp, hc, ht⟩ := zeroDimension?_eq_none.1 positive
    cases size : gridSize packages cores threads with
    | error fault => simp [size, Except.map] at h
    | ok _ =>
        have built : build .preset (grid packages cores threads) = .ok t := by
          simpa [size, Except.map] using h
        obtain rfl := Except.ok.inj ((build_grid hc ht hp .preset).symm.trans built)
        exact rectangular_grid hc ht .preset

end Litmus.Topology
