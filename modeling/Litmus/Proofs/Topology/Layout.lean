import Litmus.Proofs.Topology.Rectangular

/-!
The layout of a rectangular machine. A walk through the packages, through the cores of each and the
threads of each core meets the threads in the order of their numbers; no check refuses what it
lists, and the tables that come of it are those of a rectangle.
-/
namespace Litmus.Topology

/-- The threads of one core, each with the number of those listed before it. -/
def walkCore (cores threads p : Nat) (listed : List HardwareThread) (c : Nat) :
    List HardwareThread :=
  (List.range threads).foldl (fun listed _ => listed ++ [⟨p, p * cores + c, listed.length⟩]) listed

def walkPackage (cores threads : Nat) (listed : List HardwareThread) (p : Nat) :
    List HardwareThread :=
  (List.range cores).foldl (walkCore cores threads p) listed

/-- The threads that a walk through a machine lists. -/
def walk (packages cores threads : Nat) : List HardwareThread :=
  (List.range packages).foldl (walkPackage cores threads) []

/-- The first threads of a machine whose packages all have so many cores, and its cores so many
threads. -/
def firstThreads (cores threads count : Nat) : List HardwareThread :=
  (List.range count).map fun id => ⟨id / (cores * threads), id / threads, id⟩

variable {packages cores threads : Nat}

/-- A fold over a range that goes through given states ends in the last of them. -/
theorem foldl_range_eq {α : Type} {f : α → Nat → α} {n : Nat} (state : Nat → α)
    (step : ∀ i < n, f (state i) i = state (i + 1)) :
    (List.range n).foldl f (state 0) = state n := by
  induction n with
  | zero => rfl
  | succ n ih =>
      rw [List.range_succ, List.foldl_append, ih fun i hi => step i (Nat.lt_succ_of_lt hi)]
      exact step n (Nat.lt_succ_self n)

/-- A walk lists a thread after those that have smaller numbers. -/
theorem firstThreads_succ {p c i : Nat} (hc : c < cores) (hi : i < threads) :
    firstThreads cores threads ((p * cores + c) * threads + i) ++
        [⟨p, p * cores + c, (firstThreads cores threads ((p * cores + c) * threads + i)).length⟩] =
      firstThreads cores threads ((p * cores + c) * threads + i + 1) := by
  have core : ((p * cores + c) * threads + i) / threads = p * cores + c := by
    rw [div_eq_iff_between (Nat.zero_lt_of_lt hi)]
    omega
  have package : ((p * cores + c) * threads + i) / (cores * threads) = p := by
    rw [Nat.mul_comm cores, ← Nat.div_div_eq_div_mul, core,
      div_eq_iff_between (Nat.zero_lt_of_lt hc)]
    omega
  simp only [firstThreads, List.range_succ, List.map_append, List.map_singleton, List.length_map,
    List.length_range, core, package]

/-! ### The walk

At each depth the walk has listed the threads that come first. -/

theorem walkCore_firstThreads (p : Nat) {c : Nat} (hc : c < cores) :
    walkCore cores threads p (firstThreads cores threads ((p * cores + c) * threads)) c =
      firstThreads cores threads ((p * cores + (c + 1)) * threads) := by
  rw [← Nat.add_assoc, Nat.succ_mul]
  exact foldl_range_eq (fun i => firstThreads cores threads ((p * cores + c) * threads + i))
    fun i hi => firstThreads_succ hc hi

theorem walkPackage_firstThreads (p : Nat) :
    walkPackage cores threads (firstThreads cores threads (p * cores * threads)) p =
      firstThreads cores threads ((p + 1) * cores * threads) := by
  rw [Nat.succ_mul]
  exact foldl_range_eq (fun c => firstThreads cores threads ((p * cores + c) * threads))
    fun c hc => walkCore_firstThreads p hc

theorem walk_eq_grid : walk packages cores threads = grid packages cores threads := by
  have start : firstThreads cores threads (0 * cores * threads) = [] := by
    rw [Nat.zero_mul, Nat.zero_mul]
    rfl
  rw [walk, ← start]
  exact foldl_range_eq (fun p => firstThreads cores threads (p * cores * threads))
    fun p _ => walkPackage_firstThreads p

theorem gridSize_eq_ok (ht : 0 < threads)
    (fits : packages * cores * threads * recordBytes < Word.signedBound) :
    gridSize packages cores threads = .ok (packages * cores * threads) := by
  have size : packages * cores * threads < Word.bound := by
    have : Word.signedBound < Word.bound := by decide
    simp only [recordBytes] at fits
    omega
  have cores' : packages * cores < Word.bound :=
    Nat.lt_of_le_of_lt (Nat.le_mul_of_pos_right _ ht) size
  simp only [gridSize, Word.mul_eq_ok.2 ⟨rfl, cores'⟩, Word.mul_eq_ok.2 ⟨rfl, size⟩, Word.reserve,
    if_pos fits, bind, Except.bind, pure, Except.pure]

/-- Positive dimensions give a machine, as long as there is room for the records of its threads: the
walk through it passes every check, and each of its tables is that of a rectangle. -/
theorem preset_rectangular (hp : 0 < packages) (hc : 0 < cores) (ht : 0 < threads)
    (fits : packages * cores * threads * recordBytes < Word.signedBound) :
    ∃ t, preset packages cores threads = .ok (.ok t) ∧
      build .preset (walk packages cores threads) = .ok t ∧
      Rectangular packages cores threads t := by
  have built := build_grid hc ht hp .preset
  refine ⟨_, ?_, walk_eq_grid ▸ built, rectangular_grid hc ht .preset⟩
  rw [preset, zeroDimension?_eq_none.2 ⟨hp, hc, ht⟩, gridSize_eq_ok ht fits, ← built]
  rfl

/-- The last thread, the last core and the last package of two packages of three cores of two
threads. -/
theorem preset_rectangular_twelve : 2 * 3 * 2 * recordBytes < Word.signedBound ∧
    ∃ t, preset 2 3 2 = .ok (.ok t) ∧ t.totalThreads = 12 ∧ t.coreOf 11 = .ok 5 ∧
      t.packageOf 11 = .ok 1 ∧ t.threadsOf 5 = [10, 11] ∧ t.coresOf 1 = [3, 4, 5] := by
  have fits : 2 * 3 * 2 * recordBytes < Word.signedBound := by decide
  obtain ⟨t, made, -, rectangle⟩ :=
    preset_rectangular (by decide) (by decide) (by decide) fits
  exact ⟨fits, t, made, rectangle.totalThreads, rectangle.coreOf 11 (by decide),
    rectangle.packageOf 11 (by decide), rectangle.threadsOf 5 (by decide),
    rectangle.coresOf 1 (by decide)⟩

end Litmus.Topology
