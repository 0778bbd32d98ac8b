import Litmus.Placement.Shape
import Litmus.Proofs.Class.WellFormed

/-!
The shape of a class is a partition of its roles: a core group holds the roles that share a core,
and a package group the core groups that share a package.
-/
namespace Litmus.Shape

/-- What the groups of a shape say about the roles of a class. -/
structure Partitions (c : Class) (s : Shape) : Prop where
  roles : s.roles = c.size
  covered : ∀ a < c.size, ∃ G ∈ s.groups, ∃ R ∈ G.coreGroups, a ∈ R
  bounded : ∀ G ∈ s.groups, ∀ R ∈ G.coreGroups, ∀ a ∈ R, a < c.size
  inhabited : ∀ G ∈ s.groups, ∃ R ∈ G.coreGroups, ∃ a, a ∈ R
  coreInhabited : ∀ G ∈ s.groups, ∀ R ∈ G.coreGroups, R ≠ []
  ascending : ∀ G ∈ s.groups, ∀ R ∈ G.coreGroups, R.Pairwise (· < ·)
  oneCore : ∀ G ∈ s.groups, ∀ R ∈ G.coreGroups, ∀ a ∈ R, ∀ b ∈ R, c.cores[a]? = c.cores[b]?
  onePackage : ∀ G ∈ s.groups, ∀ R ∈ G.coreGroups, ∀ R' ∈ G.coreGroups, ∀ a ∈ R, ∀ b ∈ R',
    c.packages[a]? = c.packages[b]?
  coresApart : ∀ G ∈ s.groups, G.coreGroups.Pairwise fun R R' =>
    ∀ a ∈ R, ∀ b ∈ R', c.cores[a]? ≠ c.cores[b]?
  packagesApart : s.groups.Pairwise fun G G' =>
    ∀ R ∈ G.coreGroups, ∀ R' ∈ G'.coreGroups, ∀ a ∈ R, ∀ b ∈ R', c.packages[a]? ≠ c.packages[b]?
  sorted : ∀ G ∈ s.groups, G.coreGroups.Pairwise fun R R' => precedes (coreKey R) (coreKey R')

/-! ### The order of groups -/

theorem precedes_trans (a b c : Nat × Nat) (hab : precedes a b) (hbc : precedes b c) :
    precedes a c := by
  simp only [precedes, Bool.or_eq_true, Bool.and_eq_true, decide_eq_true_eq] at *
  omega

theorem precedes_total (a b : Nat × Nat) : (precedes a b || precedes b a) = true := by
  simp only [precedes, Bool.or_eq_true, Bool.and_eq_true, decide_eq_true_eq]
  omega

theorem size_le_of_precedes {a b : Nat × Nat} (h : precedes a b = true) : b.1 ≤ a.1 := by
  simp only [precedes, Bool.or_eq_true, Bool.and_eq_true, decide_eq_true_eq] at h
  omega

/-- Sorting by a key puts the keys in order. -/
theorem pairwise_mergeSort_precedes {α : Type} (key : α → Nat × Nat) (xs : List α) :
    (xs.mergeSort fun a b => precedes (key a) (key b)).Pairwise fun a b =>
      precedes (key a) (key b) :=
  List.pairwise_mergeSort (fun a b c => precedes_trans (key a) (key b) (key c))
    (fun a b => precedes_total (key a) (key b)) xs

/-! ### Roles by label -/

theorem mem_rolesIn {ls : List Nat} {k a : Nat} : a ∈ rolesIn ls k ↔ ls[a]? = some k := by
  simp only [rolesIn, List.mem_filter, List.mem_range, decide_eq_true_eq, and_iff_right_iff_imp]
  exact fun h => (List.getElem?_eq_some_iff.1 h).1

theorem rolesIn_ascending (ls : List Nat) (k : Nat) : (rolesIn ls k).Pairwise (· < ·) :=
  List.pairwise_lt_range.filter _

theorem rolesIn_ne_nil {ls : List Nat} {k : Nat} (h : k ∈ ls) : rolesIn ls k ≠ [] := by
  obtain ⟨a, ha⟩ := List.mem_iff_getElem?.1 h
  exact List.ne_nil_of_mem (mem_rolesIn.2 ha)

theorem leader_mem {roles : List Nat} (h : roles ≠ []) : leader roles ∈ roles := by
  cases roles with
  | nil => exact absurd rfl h
  | cons a rest => simp [leader]

/-- The core groups of a package group. -/
def coreGroupsOf (c : Class) (p : Nat) : List (List Nat) :=
  ((List.range c.coreGroups).map (rolesIn c.cores)).filter fun roles =>
    c.packages[leader roles]? = some p

theorem groups_perm (c : Class) :
    (ofClass c).groups.Perm
      ((List.range c.packageGroups).map fun p => packageGroup (coreGroupsOf c p)) := by
  have h : (ofClass c).groups = (((List.range c.packageGroups).map (coreGroupsOf c)).map
      packageGroup).mergeSort fun a b => precedes (packageKey a) (packageKey b) := rfl
  rw [h, List.map_map]
  exact List.mergeSort_perm _ _

theorem coreGroups_perm (coreGroups : List (List Nat)) :
    (packageGroup coreGroups).coreGroups.Perm coreGroups :=
  List.mergeSort_perm _ _

theorem mem_groups {c : Class} {G : PackageGroup} (h : G ∈ (ofClass c).groups) :
    ∃ p < c.packageGroups, G = packageGroup (coreGroupsOf c p) := by
  obtain ⟨p, hp, rfl⟩ := List.mem_map.1 ((groups_perm c).mem_iff.1 h)
  exact ⟨p, List.mem_range.1 hp, rfl⟩

variable {c : Class}

/-- All roles of a core group lie in the package of its first one. -/
theorem mem_coreGroupsOf (h : c.WellFormed) {p : Nat} {R : List Nat} :
    R ∈ coreGroupsOf c p ↔
      ∃ k < c.coreGroups, R = rolesIn c.cores k ∧ ∀ a ∈ R, c.packages[a]? = some p := by
  simp only [coreGroupsOf, List.mem_filter, List.mem_map, List.mem_range, decide_eq_true_eq]
  constructor
  · rintro ⟨⟨k, hk, rfl⟩, hp⟩
    refine ⟨k, hk, rfl, fun a ha => ?_⟩
    have hlead := mem_rolesIn.1 (leader_mem (rolesIn_ne_nil (h.coresUsed k hk)))
    rw [mem_rolesIn] at ha
    rw [← hp]
    exact h.nested _ _ (List.getElem?_eq_some_iff.1 ha).1 (List.getElem?_eq_some_iff.1 hlead).1
      (ha.trans hlead.symm)
  · rintro ⟨k, hk, rfl, hall⟩
    exact ⟨⟨k, hk, rfl⟩, hall _ (leader_mem (rolesIn_ne_nil (h.coresUsed k hk)))⟩

theorem mem_coreGroups (h : c.WellFormed) {p : Nat} {R : List Nat} :
    R ∈ (packageGroup (coreGroupsOf c p)).coreGroups ↔
      ∃ k < c.coreGroups, R = rolesIn c.cores k ∧ ∀ a ∈ R, c.packages[a]? = some p := by
  rw [(coreGroups_perm _).mem_iff, mem_coreGroupsOf h]

/-- The core group of a role, in the package group of the role. -/
theorem mem_coreGroups_of_role (h : c.WellFormed) {a k p : Nat} (hk : c.cores[a]? = some k)
    (hp : c.packages[a]? = some p) :
    rolesIn c.cores k ∈ (packageGroup (coreGroupsOf c p)).coreGroups := by
  refine (mem_coreGroups h).2 ⟨k, ?_, rfl, fun b hb => ?_⟩
  · exact Class.lt_groupCount.2 ⟨k, List.mem_of_getElem? hk, Nat.le_refl k⟩
  · rw [mem_rolesIn] at hb
    rw [← hp]
    exact h.nested _ _ (List.getElem?_eq_some_iff.1 hb).1 (List.getElem?_eq_some_iff.1 hk).1
      (hb.trans hk.symm)

theorem mem_groups_of_role {a p : Nat} (hp : c.packages[a]? = some p) :
    packageGroup (coreGroupsOf c p) ∈ (ofClass c).groups := by
  have hlt := Class.lt_groupCount.2 ⟨p, List.mem_of_getElem? hp, Nat.le_refl p⟩
  exact (groups_perm c).mem_iff.2 (List.mem_map.2 ⟨p, List.mem_range.2 hlt, rfl⟩)

theorem exists_labels (h : c.WellFormed) {a : Nat} (ha : a < c.size) :
    ∃ k p, c.cores[a]? = some k ∧ c.packages[a]? = some p :=
  ⟨_, _, List.getElem?_eq_getElem ha, List.getElem?_eq_getElem (by rw [h.lengths]; exact ha)⟩

/-- The list of all core groups has none twice, since each label makes one of its own. -/
theorem coreGroupsOf_apart (c : Class) (p : Nat) :
    (coreGroupsOf c p).Pairwise fun R R' => ∀ a ∈ R, ∀ b ∈ R', c.cores[a]? ≠ c.cores[b]? := by
  refine List.Pairwise.filter _ (List.pairwise_map.2 (List.nodup_range.imp fun hne a ha b hb => ?_))
  rw [mem_rolesIn.1 ha, mem_rolesIn.1 hb]
  simpa using hne

theorem partitions_ofClass (h : c.WellFormed) : Partitions c (ofClass c) where
  roles := rfl
  covered a ha := by
    obtain ⟨k, p, hk, hp⟩ := exists_labels h ha
    exact ⟨_, mem_groups_of_role hp, _, mem_coreGroups_of_role h hk hp, mem_rolesIn.2 hk⟩
  bounded G hG R hR a ha := by
    obtain ⟨p, -, rfl⟩ := mem_groups hG
    obtain ⟨k, -, rfl, -⟩ := (mem_coreGroups h).1 hR
    exact (List.getElem?_eq_some_iff.1 (mem_rolesIn.1 ha)).1
  inhabited G hG := by
    obtain ⟨p, hp, rfl⟩ := mem_groups hG
    obtain ⟨a, ha⟩ := List.mem_iff_getElem?.1 (h.packagesUsed p hp)
    have hlt : a < c.cores.length := by
      rw [← h.lengths]
      exact (List.getElem?_eq_some_iff.1 ha).1
    have hk := List.getElem?_eq_getElem hlt
    exact ⟨_, mem_coreGroups_of_role h hk ha, a, mem_rolesIn.2 hk⟩
  coreInhabited G hG R hR := by
    obtain ⟨p, -, rfl⟩ := mem_groups hG
    obtain ⟨k, hk, rfl, -⟩ := (mem_coreGroups h).1 hR
    exact rolesIn_ne_nil (h.coresUsed k hk)
  ascending G hG R hR := by
    obtain ⟨p, -, rfl⟩ := mem_groups hG
    obtain ⟨k, -, rfl, -⟩ := (mem_coreGroups h).1 hR
    exact rolesIn_ascending _ k
  oneCore G hG R hR a ha b hb := by
    obtain ⟨p, -, rfl⟩ := mem_groups hG
    obtain ⟨k, -, rfl, -⟩ := (mem_coreGroups h).1 hR
    rw [mem_rolesIn.1 ha, mem_rolesIn.1 hb]
  onePackage G hG R hR R' hR' a ha b hb := by
    obtain ⟨p, -, rfl⟩ := mem_groups hG
    obtain ⟨-, -, -, hp⟩ := (mem_coreGroups h).1 hR
    obtain ⟨-, -, -, hp'⟩ := (mem_coreGroups h).1 hR'
    rw [hp a ha, hp' b hb]
  coresApart G hG := by
    obtain ⟨p, -, rfl⟩ := mem_groups hG
    refine ((coreGroups_perm _).pairwise_iff fun hab b hb a ha => ?_).2 (coreGroupsOf_apart c p)
    exact (hab a ha b hb).symm
  packagesApart := by
    refine ((groups_perm c).pairwise_iff fun hab R hR R' hR' a ha b hb => ?_).2
      (List.pairwise_map.2 (List.nodup_range.imp fun hne R hR R' hR' a ha b hb => ?_))
    · exact (hab R' hR' R hR b hb a ha).symm
    · obtain ⟨-, -, -, hp⟩ := (mem_coreGroups h).1 hR
      obtain ⟨-, -, -, hp'⟩ := (mem_coreGroups h).1 hR'
      rw [hp a ha, hp' b hb]
      simpa using hne
  sorted G hG := by
    obtain ⟨p, -, rfl⟩ := mem_groups hG
    exact pairwise_mergeSort_precedes coreKey _

theorem Partitions.lengths_sorted {s : Shape} (h : Partitions c s) {G : PackageGroup}
    (hG : G ∈ s.groups) : G.coreGroups.Pairwise fun R R' => R'.length ≤ R.length :=
  (h.sorted G hG).imp fun hle => size_le_of_precedes hle

end Litmus.Shape
