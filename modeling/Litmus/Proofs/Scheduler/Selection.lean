import Litmus.Proofs.Scheduler.Calls
import Litmus.Proofs.Topology.Rectangular
import Mathlib

/-!
Which threads a scheduler picks. The threads of any core are picked from the lowest on, no core gets
a further thread before all others have as many or are exhausted, and on a rectangular machine the
packages take turns.
-/
namespace Litmus.Topology

variable {t : Topology} {limit : Nat}

/-! ### From slot to slot -/

/-- One thread stands at no deeper slot of its core than another of its core. -/
def NoDeeper (t : Topology) (x y : Nat) : Prop :=
  ∀ k k' i j : Nat, (t.threadsOf k)[i]? = some x → (t.threadsOf k')[j]? = some y → i ≤ j

theorem WellFormed.slot_unique (ht : t.WellFormed) {k k' i j x : Nat}
    (h : (t.threadsOf k)[i]? = some x) (h' : (t.threadsOf k')[j]? = some x) : i = j := by
  have core := (ht.mem_threadsOf x k).1 (List.mem_of_getElem? h)
  have core' := (ht.mem_threadsOf x k').1 (List.mem_of_getElem? h')
  obtain rfl : k = k' := Except.ok.inj (core.symm.trans core')
  exact index_unique (ht.nodup_threadsOf k) h h'

/-- The threads at one slot of the cores. -/
def layer (t : Topology) (slot : Nat) : List Nat :=
  (List.range (longest t.packageCores)).flatMap fun core =>
    (List.range t.totalPackages).filterMap (t.threadIn? slot core)

theorem WellFormed.slot_of_mem_layer (ht : t.WellFormed) {slot k i x : Nat} (mem : x ∈ t.layer slot)
    (h : (t.threadsOf k)[i]? = some x) : i = slot := by
  obtain ⟨core, -, mem⟩ := List.mem_flatMap.1 mem
  obtain ⟨package, -, stands⟩ := List.mem_filterMap.1 mem
  obtain ⟨k', -, h'⟩ := threadIn?_eq_some.1 stands
  exact ht.slot_unique h h'

theorem WellFormed.pairwise_spread (ht : t.WellFormed) : t.spread.Pairwise t.NoDeeper := by
  change ((List.range (longest t.coreThreads)).flatMap t.layer).Pairwise t.NoDeeper
  refine List.pairwise_flatMap.2 ⟨fun slot _ => ?_, List.pairwise_lt_range.imp ?_⟩
  · refine List.pairwise_of_forall_mem_list fun x hx y hy k k' i j hi hj => ?_
    rw [ht.slot_of_mem_layer hx hi, ht.slot_of_mem_layer hy hj]
  · intro slot slot' lt x hx y hy k k' i j hi hj
    rw [ht.slot_of_mem_layer hx hi, ht.slot_of_mem_layer hy hj]
    exact Nat.le_of_lt lt

/-! ### The threads of one core -/

/-- The picked threads of a core, in the order in which they are picked. -/
def picked (t : Topology) (limit k : Nat) : List Nat :=
  (t.spreadOrder limit).filter (· ∈ t.threadsOf k)

/-- All threads of a core come in ascending order. -/
theorem WellFormed.filter_spread (ht : t.WellFormed) (k : Nat) :
    t.spread.filter (· ∈ t.threadsOf k) = t.threadsOf k := by
  have sorted := ht.threadsOf_sorted k
  have mem {x : Nat} : x ∈ t.spread.filter (· ∈ t.threadsOf k) ↔ x ∈ t.threadsOf k := by
    rw [List.mem_filter, decide_eq_true_eq, and_iff_right_iff_imp, ht.mem_spread_iff,
      ht.mem_threadsOf]
    exact fun core => exists_coreOf.1 ⟨k, core⟩
  refine List.Pairwise.eq_of_mem_iff (r := (· < ·)) ?_ sorted fun _ => mem
  refine ((ht.pairwise_spread.and ht.nodup_spread).filter _).imp_of_mem fun {x y} hx hy h => ?_
  obtain ⟨i, hi⟩ := List.mem_iff_getElem?.1 (mem.1 hx)
  obtain ⟨j, hj⟩ := List.mem_iff_getElem?.1 (mem.1 hy)
  have le := h.1 k k i j hi hj
  obtain ⟨inside, rfl⟩ := List.getElem?_eq_some_iff.1 hi
  obtain ⟨inside', rfl⟩ := List.getElem?_eq_some_iff.1 hj
  have ne : i ≠ j := fun same => h.2 (by simp only [same])
  exact List.pairwise_iff_getElem.1 sorted i j inside inside' (Nat.lt_of_le_of_ne le ne)

/-- The picked threads of a core are its lowest. -/
theorem WellFormed.picked_prefix (ht : t.WellFormed) (limit k : Nat) :
    t.picked limit k <+: t.threadsOf k := by
  have initial : t.picked limit k <+: t.spread.filter (· ∈ t.threadsOf k) :=
    (t.spreadOrder_prefix limit).filter _
  rwa [ht.filter_spread] at initial

/-- All threads at a slot above that of a picked thread are picked too. -/
theorem WellFormed.mem_spreadOrder_of_lt (ht : t.WellFormed) {k k' i j x y : Nat}
    (mem : x ∈ t.spreadOrder limit) (hi : (t.threadsOf k)[i]? = some x)
    (hj : (t.threadsOf k')[j]? = some y) (lt : j < i) : y ∈ t.spreadOrder limit := by
  have core := (ht.mem_threadsOf y k').1 (List.mem_of_getElem? hj)
  have listed := ht.mem_spread_iff.2 (exists_coreOf.1 ⟨k', core⟩)
  have parted := ht.pairwise_spread
  obtain ⟨rest, whole⟩ := t.spreadOrder_prefix limit
  rw [← whole] at listed parted
  rcases List.mem_append.1 listed with early | late
  · exact early
  · have le := (List.pairwise_append.1 parted).2.2 x mem y late k k' i j hi hj
    exact absurd lt (Nat.not_lt.2 le)

/-- A core from which some threads are picked is at most one ahead of any other that has threads
left. -/
theorem WellFormed.picked_even (ht : t.WellFormed) (limit k k' : Nat) :
    min ((t.picked limit k).length - 1) (t.threadsOf k').length ≤ (t.picked limit k').length := by
  rw [← List.length_take]
  have distinct := (ht.nodup_threadsOf k').sublist
    (List.take_sublist ((t.picked limit k).length - 1) (t.threadsOf k'))
  refine (distinct.subperm fun y hy => ?_).length_le
  obtain ⟨j, hj⟩ := List.mem_iff_getElem?.1 hy
  have above : j < (t.picked limit k).length - 1 := by
    have := (List.getElem?_eq_some_iff.1 hj).1
    rw [List.length_take] at this
    omega
  rw [List.getElem?_take_of_lt above] at hj
  -- The last of the picked threads stands one slot below.
  have last : (t.picked limit k).length - 1 < (t.picked limit k).length := by omega
  obtain ⟨x, found⟩ : ∃ x, (t.picked limit k)[(t.picked limit k).length - 1]? = some x :=
    ⟨_, List.getElem?_eq_getElem last⟩
  have mem := (List.mem_filter.1 (List.mem_of_getElem? found)).1
  obtain ⟨rest, whole⟩ := ht.picked_prefix limit k
  have stands : (t.threadsOf k)[(t.picked limit k).length - 1]? = some x := by
    rw [← whole, List.getElem?_append_left last, found]
  exact List.mem_filter.2 ⟨ht.mem_spreadOrder_of_lt mem stands hj above,
    decide_eq_true (List.mem_of_getElem? hj)⟩

/-! ### From package to package -/

/-- The threads at one slot of the cores at one place of the packages. -/
def row (t : Topology) (slot core : Nat) : List Nat :=
  (List.range t.totalPackages).filterMap (t.threadIn? slot core)

theorem spread_eq_flatten (t : Topology) : t.spread =
    ((List.range (longest t.coreThreads)).flatMap fun slot =>
      (List.range (longest t.packageCores)).map (t.row slot)).flatten := by
  simp only [spread, List.flatMap_def, List.flatten_flatten, List.map_map]
  rfl

/-- Where each row has one item of either of two kinds, an initial part of all rows has at most one
more of the one kind than of the other. -/
theorem countP_take_flatten_le {p q : Nat → Bool} {rows : List (List Nat)}
    (one : ∀ row ∈ rows, row.countP p = 1 ∧ row.countP q = 1) (n : Nat) :
    (rows.flatten.take n).countP p ≤ (rows.flatten.take n).countP q + 1 := by
  induction rows generalizing n with
  | nil => simp
  | cons row rows ih =>
      obtain ⟨here, later⟩ := List.forall_mem_cons.1 one
      rw [List.flatten_cons, List.take_append, List.countP_append, List.countP_append]
      by_cases whole : row.length ≤ n
      · have rest := ih later (n - row.length)
        rw [List.take_of_length_le whole, here.1, here.2]
        omega
      · have none : n - row.length = 0 := by omega
        have part : (row.take n).countP p ≤ 1 := here.1 ▸ (List.take_sublist n row).countP_le
        rw [none, List.take_zero, List.countP_nil, List.countP_nil]
        omega

theorem WellFormed.packageOf_of_threadIn? (ht : t.WellFormed) {slot core p x : Nat}
    (h : t.threadIn? slot core p = some x) : t.packageOf x = .ok p := by
  obtain ⟨k, hk, hx⟩ := threadIn?_eq_some.1 h
  obtain ⟨y, hy, package⟩ := (ht.mem_coresOf k p).1 (List.mem_of_getElem? hk)
  have core := (ht.mem_threadsOf x k).1 (List.mem_of_getElem? hx)
  rw [ht.onePackage x y k core hy, package]

theorem longest_le {xss : List (List Nat)} {n : Nat} (h : ∀ xs ∈ xss, xs.length ≤ n) :
    longest xss ≤ n := by
  induction xss with
  | nil => exact Nat.zero_le n
  | cons xs xss ih =>
      obtain ⟨first, rest⟩ := List.forall_mem_cons.1 h
      exact Nat.max_le.2 ⟨first, ih rest⟩

namespace Rectangular

variable {packages cores threads : Nat}

theorem longest_coreThreads (h : Rectangular packages cores threads t) :
    longest t.coreThreads ≤ threads := by
  refine longest_le fun xs mem => ?_
  obtain ⟨k, hk, rfl⟩ := List.mem_iff_getElem.1 mem
  have size := congrArg List.length (h.threadsOf k (h.totalCores ▸ hk))
  simpa [Topology.threadsOf, hk] using Nat.le_of_eq size

theorem longest_packageCores (h : Rectangular packages cores threads t) :
    longest t.packageCores ≤ cores := by
  refine longest_le fun ks mem => ?_
  obtain ⟨p, hp, rfl⟩ := List.mem_iff_getElem.1 mem
  have size := congrArg List.length (h.coresOf p (h.totalPackages ▸ hp))
  simpa [Topology.coresOf, hp] using Nat.le_of_eq size

/-- Every package has a thread at each slot of each of its cores. -/
theorem exists_threadIn? (h : Rectangular packages cores threads t) {slot core p : Nat}
    (hs : slot < threads) (hc : core < cores) (hp : p < packages) :
    ∃ x, t.threadIn? slot core p = some x := by
  have hk : p * cores + core < packages * cores :=
    Nat.lt_of_lt_of_le (Nat.add_lt_add_left hc _) (mul_add_le_mul hp cores)
  refine ⟨(p * cores + core) * threads + slot, threadIn?_eq_some.2 ⟨p * cores + core, ?_, ?_⟩⟩
  · rw [h.coresOf p hp, List.getElem?_range' hc, Nat.one_mul]
  · rw [h.threadsOf _ hk, List.getElem?_range' hs, Nat.one_mul]

/-- A row has one thread of each package. -/
theorem countP_row (h : Rectangular packages cores threads t) (ht : t.WellFormed)
    {slot core p : Nat} (hs : slot < threads) (hc : core < cores) (hp : p < packages) :
    (t.row slot core).countP (t.packageOf · = .ok p) = 1 := by
  have own : ∀ q ∈ List.range packages,
      ((t.threadIn? slot core q).map fun x => decide (t.packageOf x = .ok p)).getD false =
        (q == p) := by
    intro q hq
    obtain ⟨x, hx⟩ := h.exists_threadIn? hs hc (List.mem_range.1 hq)
    simp [hx, ht.packageOf_of_threadIn? hx, beq_eq_decide]
  rw [row, h.totalPackages, List.countP_filterMap, List.countP_congr fun q hq => by rw [own q hq]]
  exact List.count_range.trans (if_pos hp)

end Rectangular

/-- How many picked threads lie in a package. -/
def pickedFrom (t : Topology) (limit p : Nat) : Nat :=
  (t.spreadOrder limit).countP (t.packageOf · = .ok p)

/-- On a rectangular machine the packages take turns. -/
theorem Rectangular.pickedFrom_le {packages cores threads : Nat}
    (h : Rectangular packages cores threads t) (ht : t.WellFormed) (limit : Nat) {p q : Nat}
    (hp : p < t.totalPackages) (hq : q < t.totalPackages) :
    t.pickedFrom limit p ≤ t.pickedFrom limit q + 1 := by
  rw [h.totalPackages] at hp hq
  have initial := List.prefix_iff_eq_take.1 (t.spreadOrder_prefix limit)
  rw [pickedFrom, pickedFrom, initial, spread_eq_flatten]
  refine countP_take_flatten_le (fun row mem => ?_) _
  obtain ⟨slot, hslot, mem⟩ := List.mem_flatMap.1 mem
  obtain ⟨core, hcore, rfl⟩ := List.mem_map.1 mem
  have hs := Nat.lt_of_lt_of_le (List.mem_range.1 hslot) h.longest_coreThreads
  have hc := Nat.lt_of_lt_of_le (List.mem_range.1 hcore) h.longest_packageCores
  exact ⟨h.countP_row ht hs hc hp, h.countP_row ht hs hc hq⟩

/-! ### Selections -/

/-- What the first threads in spread order are. -/
structure Selects (t : Topology) (limit : Nat) : Prop where
  size : (t.spreadOrder limit).length = limit
  distinct : (t.spreadOrder limit).Nodup
  valid : ∀ x ∈ t.spreadOrder limit, x < t.totalThreads
  initial : t.spreadOrder limit = (t.spreadOrder t.totalThreads).take limit
  whole : (t.spreadOrder t.totalThreads).Perm (List.range t.totalThreads)
  lowest : ∀ k, t.picked limit k = (t.threadsOf k).take (t.picked limit k).length
  even : ∀ k k', t.picked limit k ≠ [] →
    min ((t.picked limit k).length - 1) (t.threadsOf k').length ≤ (t.picked limit k').length

theorem WellFormed.spreadOrder_totalThreads (ht : t.WellFormed) (some : 0 < t.totalThreads) :
    t.spreadOrder t.totalThreads = t.spread := by
  rw [spreadOrder_eq_take some, List.take_of_length_le (Nat.le_of_eq ht.length_spread)]

theorem WellFormed.selects (ht : t.WellFormed) (positive : 0 < limit)
    (h : limit ≤ t.totalThreads) : Selects t limit where
  size := ht.length_spreadOrder positive h
  distinct := ht.nodup_spreadOrder limit
  valid _ mem := ht.lt_of_mem_spreadOrder mem
  initial := by
    rw [ht.spreadOrder_totalThreads (Nat.lt_of_lt_of_le positive h), spreadOrder_eq_take positive]
  whole := ht.spreadOrder_totalThreads (Nat.lt_of_lt_of_le positive h) ▸ ht.spread_perm
  lowest k := List.prefix_iff_eq_take.1 (ht.picked_prefix limit k)
  even k k' _ := ht.picked_even limit k k'

end Litmus.Topology

namespace Litmus.Scheduler

open Placement

/-- A new scheduler owns the threads that the spread order lists first, and all of them are free. -/
structure Owns (t : Topology) (maxThreads : Nat) (s : Scheduler) : Prop where
  owned : s.owned = t.spreadOrder (min maxThreads t.totalThreads)
  size : s.owned.length = min maxThreads t.totalThreads
  counted : s.freeCount = min maxThreads t.totalThreads
  free : (freeThreads s.free).Perm s.owned

theorem owns_of_start {id maxThreads : Nat} {t : Topology} {s : Scheduler} (ht : t.WellFormed)
    (h : start? id t maxThreads = some s) : Owns t maxThreads s := by
  have conserved := (balanced_of_start ht h).conserved
  obtain ⟨positive, rfl⟩ := start?_eq_some.1 h
  refine ⟨rfl, ht.length_spreadOrder_min positive, rfl, ?_⟩
  simpa [fresh, held] using conserved

/-- The spread order of a machine lists each thread once. Any first part of it has the lowest
threads of each core, and cores differ by at most one as long as they last; on a rectangular machine
so do packages. A scheduler owns such a part, as large as it may be. -/
theorem spread_selects {t : Topology} (ht : t.WellFormed) :
    (∀ limit, 1 ≤ limit → limit ≤ t.totalThreads → t.Selects limit) ∧
      (∀ packages cores threads, Topology.preset packages cores threads = .ok (.ok t) →
        ∀ limit, ∀ p < t.totalPackages, ∀ q < t.totalPackages,
          t.pickedFrom limit p ≤ t.pickedFrom limit q + 1) ∧
      ∀ id maxThreads, 1 ≤ maxThreads →
        ∃ s, start? id t maxThreads = some s ∧ Owns t maxThreads s := by
  refine ⟨fun limit positive within => ht.selects positive within,
    fun _ _ _ made limit p hp q hq => ?_,
    fun id maxThreads room => ?_⟩
  · exact (Topology.rectangular_of_preset made).pickedFrom_le ht limit hp hq
  · have started : start? id t maxThreads = some (fresh id t maxThreads) :=
      start?_eq_some.2 ⟨room, rfl⟩
    exact ⟨_, started, owns_of_start ht started⟩

/-- A machine of two packages with two cores of two threads each. -/
def cube : Topology :=
  { origin := .preset
    threads := [⟨0, 0, 0⟩, ⟨0, 0, 1⟩, ⟨0, 1, 2⟩, ⟨0, 1, 3⟩,
      ⟨1, 2, 4⟩, ⟨1, 2, 5⟩, ⟨1, 3, 6⟩, ⟨1, 3, 7⟩]
    coreThreads := [[0, 1], [2, 3], [4, 5], [6, 7]]
    packageCores := [[0, 1], [2, 3]] }

theorem spread_selects_cube :
    Topology.preset 2 2 2 = .ok (.ok cube) ∧ cube.spreadOrder 8 = [0, 4, 2, 6, 1, 5, 3, 7] ∧
      cube.Selects 5 ∧ cube.picked 5 0 = [0, 1] ∧
      cube.pickedFrom 5 0 ≤ cube.pickedFrom 5 1 + 1 ∧
      ∃ s, start? 0 cube 5 = some s ∧ Owns cube 5 s := by
  have made : Topology.preset 2 2 2 = .ok (.ok cube) := by cbv
  obtain ⟨selects, turns, owns⟩ := spread_selects (Topology.wellFormed_of_preset made)
  exact ⟨made, by cbv, selects 5 (by decide) (by decide), by cbv,
    turns 2 2 2 made 5 0 (by decide) 1 (by decide), owns 0 5 (by decide)⟩

end Litmus.Scheduler
