import Litmus.Proofs.Placement.Shape
import Mathlib.Logic.Function.Basic

/-!
The digest of a class: its shape put together entry by entry, where an entry that does not exist is
a fault. Roles are filed under their core labels, core groups under the package label of their first
role, and both are sorted by ranks read from first entries. In a class as it can be made no entry is
missing, the digest is the shape, and its groups are the parts into which the relations of the class
divide the roles.
-/
namespace Litmus.Shape

variable {α : Type}

/-- Puts an item at the end of the group with a label. -/
def file (groups : List (List α)) (label : Nat) (x : α) : Except Fault (List (List α)) := do
  let group ← elementAt groups label
  return groups.set label (group ++ [x])

/-- Files items one after the other into groups that are empty at first. -/
def fileAll (label : α → Except Fault Nat) (count : Nat) (xs : List α) :
    Except Fault (List (List α)) :=
  xs.foldlM (fun groups x => do file groups (← label x) x) (List.replicate count [])

/-- Sorts by ranks that have to be read, of a single item too. -/
def sortByRank (rank : α → Except Fault (Nat × Nat)) (xs : List α) : Except Fault (List α) := do
  let ranked ← xs.mapM fun x => do return (← rank x, x)
  return (ranked.mergeSort fun a b => precedes a.1 b.1).map (·.2)

def readCoreKey (roles : List Nat) : Except Fault (Nat × Nat) := do
  return (roles.length, ← elementAt roles 0)

def readPackageKey (g : PackageGroup) : Except Fault (Nat × Nat) := do
  let roles ← elementAt g.coreGroups 0
  return (g.demand, ← elementAt roles 0)

/-- The package label of the first role. -/
def readPackage (c : Class) (roles : List Nat) : Except Fault Nat := do
  elementAt c.packages (← elementAt roles 0)

def readPackageGroup (coreGroups : List (List Nat)) : Except Fault PackageGroup := do
  let sorted ← sortByRank readCoreKey coreGroups
  return { coreGroups := sorted, demand := sorted.flatten.length }

def digest (c : Class) : Except Fault Shape := do
  let cores ← fileAll (elementAt c.cores) c.coreGroups (List.range c.cores.length)
  let packages ← fileAll (readPackage c) c.packageGroups cores
  let groups ← packages.mapM readPackageGroup
  return { groups := ← sortByRank readPackageKey groups, roles := c.size }

/-! ### No entry is missing -/

theorem mapM_eq_ok {β : Type} {f : α → Except Fault β} {g : α → β} {xs : List α}
    (h : ∀ x ∈ xs, f x = .ok (g x)) : xs.mapM f = .ok (xs.map g) := by
  induction xs with
  | nil => rfl
  | cons x xs ih =>
      rw [List.mapM_cons, h x (by simp), ih fun y hy => h y (by simp [hy])]
      rfl

theorem file_eq_ok {f : Nat → List α} {count label : Nat} (h : label < count) (x : α) :
    file ((List.range count).map f) label x =
      .ok ((List.range count).map (Function.update f label (f label ++ [x]))) := by
  have entry : elementAt ((List.range count).map f) label = .ok (f label) :=
    elementAt_eq_ok.2 (by simp [h])
  rw [file, entry]
  refine congrArg Except.ok (List.ext_getElem (by simp) fun i hi _ => ?_)
  by_cases heq : label = i
  · subst heq
    simp
  · simp [heq, Function.update_of_ne (Ne.symm heq)]

/-- Each group gets the items with its label, in the order in which they are filed. -/
theorem fileAll_eq_ok {label : α → Except Fault Nat} {key : α → Nat} {count : Nat} {xs : List α}
    (reads : ∀ x ∈ xs, label x = .ok (key x)) (inside : ∀ x ∈ xs, key x < count) :
    fileAll label count xs = .ok ((List.range count).map fun l => xs.filter (key · = l)) := by
  suffices ∀ f : Nat → List α,
      xs.foldlM (fun groups x => do file groups (← label x) x) ((List.range count).map f) =
        .ok ((List.range count).map fun l => f l ++ xs.filter (key · = l)) by
    simpa [fileAll, List.map_const'] using this fun _ => []
  induction xs with
  | nil =>
      intro f
      simp only [List.filter_nil, List.append_nil]
      rfl
  | cons x xs ih =>
      intro f
      rw [List.foldlM_cons, reads x (by simp)]
      change (file _ (key x) x >>= _) = _
      rw [file_eq_ok (inside x (by simp))]
      refine (ih (fun y hy => reads y (by simp [hy])) (fun y hy => inside y (by simp [hy])) _).trans
        (congrArg Except.ok (List.map_congr_left fun l _ => ?_))
      by_cases heq : key x = l
      · subst heq
        simp
      · simp [heq, Function.update_of_ne (Ne.symm heq)]

theorem sortByRank_eq_ok {rank : α → Except Fault (Nat × Nat)} {key : α → Nat × Nat} {xs : List α}
    (reads : ∀ x ∈ xs, rank x = .ok (key x)) :
    sortByRank rank xs = .ok (xs.mergeSort fun a b => precedes (key a) (key b)) := by
  have ranked : xs.mapM (fun x => do return (← rank x, x)) = .ok (xs.map fun x => (key x, x)) := by
    refine mapM_eq_ok fun x hx => ?_
    rw [reads x hx]
    rfl
  have sorted := List.map_mergeSort (r := fun a b => precedes (key a) (key b))
    (s := fun a b => precedes a.1 b.1) (f := fun x => (key x, x)) (l := xs) fun _ _ _ _ => rfl
  rw [sortByRank, ranked]
  change Except.ok _ = _
  rw [← sorted, List.map_map]
  simp [Function.comp_def]

theorem elementAt_zero {roles : List Nat} (h : roles ≠ []) :
    elementAt roles 0 = .ok (leader roles) := by
  cases roles with
  | nil => exact absurd rfl h
  | cons a rest => rfl

theorem readPackageGroup_eq_ok {coreGroups : List (List Nat)} (h : ∀ R ∈ coreGroups, R ≠ []) :
    readPackageGroup coreGroups = .ok (packageGroup coreGroups) := by
  have sorted : sortByRank readCoreKey coreGroups = .ok (packageGroup coreGroups).coreGroups := by
    refine sortByRank_eq_ok fun R hR => ?_
    rw [readCoreKey, elementAt_zero (h R hR)]
    rfl
  rw [readPackageGroup, sorted]
  change Except.ok _ = _
  rw [(coreGroups_perm coreGroups).flatten.length_eq]
  rfl

theorem readPackageKey_eq_ok {G : PackageGroup} (h : G.coreGroups ≠ [])
    (inhabited : ∀ R ∈ G.coreGroups, R ≠ []) : readPackageKey G = .ok (packageKey G) := by
  obtain ⟨_ | ⟨R, rest⟩, demand⟩ := G
  · exact absurd rfl h
  · have entry := elementAt_zero (inhabited R (by simp))
    have first : elementAt (R :: rest) 0 = .ok R := rfl
    simp only [readPackageKey, first, entry, bind, Except.bind]
    rfl

variable {c : Class}

theorem getElem?_leader (h : c.WellFormed) {k : Nat} (hk : k < c.coreGroups) :
    ∃ p < c.packageGroups, c.packages[leader (rolesIn c.cores k)]? = some p := by
  have hlead := mem_rolesIn.1 (leader_mem (rolesIn_ne_nil (h.coresUsed k hk)))
  have hlt := (List.getElem?_eq_some_iff.1 hlead).1
  rw [← h.lengths] at hlt
  exact ⟨_, Class.lt_groupCount.2 ⟨_, List.getElem_mem hlt, Nat.le_refl _⟩,
    List.getElem?_eq_getElem hlt⟩

/-- All core groups, in the order of their labels. -/
def coreGroups (c : Class) : List (List Nat) :=
  (List.range c.coreGroups).map (rolesIn c.cores)

theorem fileAll_roles (c : Class) :
    fileAll (elementAt c.cores) c.coreGroups (List.range c.cores.length) =
      .ok (coreGroups c) := by
  have entry {a : Nat} (ha : a ∈ List.range c.cores.length) :
      c.cores[a]? = some ((c.cores[a]?).getD 0) := by
    rw [List.getElem?_eq_getElem (List.mem_range.1 ha)]
    rfl
  have filed := fileAll_eq_ok (fun a ha => elementAt_eq_ok.2 (entry ha)) fun a ha =>
    Class.lt_groupCount.2 ⟨_, List.mem_of_getElem? (entry ha), Nat.le_refl _⟩
  refine filed.trans
    (congrArg Except.ok (List.map_congr_left fun k _ => List.filter_congr fun a ha => ?_))
  rw [entry ha]
  simp

theorem fileAll_coreGroups (h : c.WellFormed) :
    fileAll (readPackage c) c.packageGroups (coreGroups c) =
      .ok ((List.range c.packageGroups).map (coreGroupsOf c)) := by
  have entry {R : List Nat} (hR : R ∈ coreGroups c) : R ≠ [] ∧ ∃ p < c.packageGroups,
      c.packages[leader R]? = some p := by
    obtain ⟨k, hk, rfl⟩ := List.mem_map.1 hR
    have hk := List.mem_range.1 hk
    exact ⟨rolesIn_ne_nil (h.coresUsed k hk), getElem?_leader h hk⟩
  have reads : ∀ R ∈ coreGroups c,
      readPackage c R = .ok ((c.packages[leader R]?).getD 0) := by
    intro R hR
    obtain ⟨hne, p, -, hp⟩ := entry hR
    rw [readPackage, elementAt_zero hne, hp]
    exact elementAt_eq_ok.2 hp
  have inside : ∀ R ∈ coreGroups c, (c.packages[leader R]?).getD 0 < c.packageGroups := by
    intro R hR
    obtain ⟨-, p, hlt, hp⟩ := entry hR
    rwa [hp]
  refine (fileAll_eq_ok reads inside).trans
    (congrArg Except.ok (List.map_congr_left fun l _ => List.filter_congr fun R hR => ?_))
  obtain ⟨-, p, -, hp⟩ := entry hR
  rw [hp]
  simp

/-- No entry is missing, and the digest is the shape. -/
theorem digest_eq_ok (h : c.WellFormed) : digest c = .ok (ofClass c) := by
  have hs := partitions_ofClass h
  let groups := ((List.range c.packageGroups).map (coreGroupsOf c)).map packageGroup
  have same : (ofClass c).groups = groups.mergeSort fun a b =>
      precedes (packageKey a) (packageKey b) := rfl
  have grouped : ((List.range c.packageGroups).map (coreGroupsOf c)).mapM readPackageGroup =
      .ok groups := by
    refine mapM_eq_ok fun Rs hRs => readPackageGroup_eq_ok fun R hR => ?_
    obtain ⟨p, -, rfl⟩ := List.mem_map.1 hRs
    obtain ⟨k, hk, rfl, -⟩ := (mem_coreGroupsOf h).1 hR
    exact rolesIn_ne_nil (h.coresUsed k hk)
  have sorted : sortByRank readPackageKey groups = .ok (ofClass c).groups := by
    rw [same]
    refine sortByRank_eq_ok fun G hG => ?_
    have hG : G ∈ (ofClass c).groups := by rwa [same, List.mem_mergeSort]
    obtain ⟨R, hR, -⟩ := hs.inhabited G hG
    exact readPackageKey_eq_ok (List.ne_nil_of_mem hR) (hs.coreInhabited G hG)
  simp only [digest, fileAll_roles, fileAll_coreGroups h, grouped, sorted, bind, Except.bind]
  rfl

/-- Labels with a gap make a core group without a first role. -/
example : digest ⟨[0, 0], [0, 2]⟩ = .error (.index 0 0) := by decide

/-! ### What the groups are -/

/-- Strict order of ranks: larger sizes first, ties by first role. -/
def Before (a b : Nat × Nat) : Prop :=
  b.1 < a.1 ∨ a.1 = b.1 ∧ a.2 < b.2

theorem before_of_precedes {a b : Nat × Nat} (h : precedes a b = true) (apart : a.2 ≠ b.2) :
    Before a b := by
  simp only [precedes, Bool.or_eq_true, Bool.and_eq_true, decide_eq_true_eq] at h
  unfold Before
  omega

/-- How the groups of a shape divide the roles of a class. -/
structure Digested (c : Class) (s : Shape) : Prop where
  roles : s.roles = c.size
  /-- Each role is in one core group of one package group. -/
  parted : (s.groups.flatMap fun G => G.coreGroups.flatten).Perm (List.range c.size)
  sameCore : ∀ a < c.size, ∀ b < c.size,
    (∃ G ∈ s.groups, ∃ R ∈ G.coreGroups, a ∈ R ∧ b ∈ R) ↔ c.relation a b = .ok .sameCore
  samePackage : ∀ a < c.size, ∀ b < c.size,
    (∃ G ∈ s.groups, a ∈ G.coreGroups.flatten ∧ b ∈ G.coreGroups.flatten) ↔
      c.relation a b = .ok .sameCore ∨ c.relation a b = .ok .samePackage
  inhabited : ∀ G ∈ s.groups, G.coreGroups ≠ []
  coreInhabited : ∀ G ∈ s.groups, ∀ R ∈ G.coreGroups, R ≠ []
  ascending : ∀ G ∈ s.groups, ∀ R ∈ G.coreGroups, R.Pairwise (· < ·)
  coresRanked : ∀ G ∈ s.groups, G.coreGroups.Pairwise fun R R' => Before (coreKey R) (coreKey R')
  packagesRanked : s.groups.Pairwise fun G G' => Before (packageKey G) (packageKey G')
  demand : ∀ G ∈ s.groups, G.demand = G.coreGroups.flatten.length


variable {s : Shape} {G : PackageGroup}

/-- Each role is in one group: groups that lie apart have no role in common. -/
theorem Partitions.parted (h : Partitions c s) :
    (s.groups.flatMap fun G => G.coreGroups.flatten).Perm (List.range c.size) := by
  have inside : ∀ G ∈ s.groups, G.coreGroups.flatten.Nodup := by
    intro G hG
    refine List.nodup_flatten.2 ⟨fun R hR => (h.ascending G hG R hR).imp Nat.ne_of_lt, ?_⟩
    exact (h.coresApart G hG).imp fun apart a ha ha' => apart a ha a ha' rfl
  have across : s.groups.Pairwise fun G G' =>
      G.coreGroups.flatten.Disjoint G'.coreGroups.flatten := by
    refine h.packagesApart.imp fun apart a ha ha' => ?_
    obtain ⟨R, hR, haR⟩ := List.mem_flatten.1 ha
    obtain ⟨R', hR', haR'⟩ := List.mem_flatten.1 ha'
    exact apart R hR R' hR' a haR a haR' rfl
  refine (List.perm_ext_iff_of_nodup (List.nodup_flatMap.2 ⟨inside, across⟩) List.nodup_range).2
    fun a => ?_
  simp only [List.mem_flatMap, List.mem_flatten, List.mem_range]
  constructor
  · rintro ⟨G, hG, R, hR, ha⟩
    exact h.bounded G hG R hR a ha
  · exact h.covered a

theorem Partitions.coresRanked (h : Partitions c s) (hG : G ∈ s.groups) :
    G.coreGroups.Pairwise fun R R' => Before (coreKey R) (coreKey R') := by
  refine ((h.sorted G hG).and (h.coresApart G hG)).imp_of_mem fun hR hR' ⟨sorted, apart⟩ => ?_
  have first := leader_mem (h.coreInhabited G hG _ hR)
  have first' := leader_mem (h.coreInhabited G hG _ hR')
  exact before_of_precedes sorted fun (same : leader _ = leader _) =>
    apart _ first _ first' (by rw [same])

theorem Partitions.coreGroups_ne_nil (h : Partitions c s) (hG : G ∈ s.groups) :
    G.coreGroups ≠ [] := by
  obtain ⟨R, hR, -⟩ := h.inhabited G hG
  exact List.ne_nil_of_mem hR

theorem exists_packageKey_mem (h : G.coreGroups ≠ []) (inhabited : ∀ R ∈ G.coreGroups, R ≠ []) :
    ∃ R ∈ G.coreGroups, (packageKey G).2 ∈ R := by
  obtain ⟨_ | ⟨R, rest⟩, demand⟩ := G
  · exact absurd rfl h
  · exact ⟨R, by simp, leader_mem (inhabited R (by simp))⟩

theorem packagesRanked_ofClass (h : c.WellFormed) :
    (ofClass c).groups.Pairwise fun G G' => Before (packageKey G) (packageKey G') := by
  have hs := partitions_ofClass h
  have sorted : (ofClass c).groups.Pairwise fun G G' => precedes (packageKey G) (packageKey G') :=
    pairwise_mergeSort_precedes packageKey _
  refine (sorted.and hs.packagesApart).imp_of_mem fun hG hG' ⟨sorted, apart⟩ => ?_
  obtain ⟨R, hR, first⟩ := exists_packageKey_mem (hs.coreGroups_ne_nil hG) (hs.coreInhabited _ hG)
  obtain ⟨R', hR', first'⟩ :=
    exists_packageKey_mem (hs.coreGroups_ne_nil hG') (hs.coreInhabited _ hG')
  exact before_of_precedes sorted fun same => apart R hR R' hR' _ first _ first' (by rw [same])

theorem sameCore_ofClass (h : c.WellFormed) {a b : Nat} (ha : a < c.size) (hb : b < c.size) :
    (∃ G ∈ (ofClass c).groups, ∃ R ∈ G.coreGroups, a ∈ R ∧ b ∈ R) ↔
      c.relation a b = .ok .sameCore := by
  rw [h.sameCore_iff ha hb]
  constructor
  · rintro ⟨G, hG, R, hR, haR, hbR⟩
    exact (partitions_ofClass h).oneCore G hG R hR a haR b hbR
  · intro same
    obtain ⟨k, p, hk, hp⟩ := exists_labels h ha
    exact ⟨_, mem_groups_of_role hp, _, mem_coreGroups_of_role h hk hp, mem_rolesIn.2 hk,
      mem_rolesIn.2 (same ▸ hk)⟩

theorem samePackage_ofClass (h : c.WellFormed) {a b : Nat} (ha : a < c.size) (hb : b < c.size) :
    (∃ G ∈ (ofClass c).groups, a ∈ G.coreGroups.flatten ∧ b ∈ G.coreGroups.flatten) ↔
      c.relation a b = .ok .sameCore ∨ c.relation a b = .ok .samePackage := by
  rw [h.sharesPackage_iff ha hb]
  constructor
  · rintro ⟨G, hG, haG, hbG⟩
    obtain ⟨R, hR, haR⟩ := List.mem_flatten.1 haG
    obtain ⟨R', hR', hbR'⟩ := List.mem_flatten.1 hbG
    exact (partitions_ofClass h).onePackage G hG R hR R' hR' a haR b hbR'
  · intro same
    obtain ⟨k, p, hk, hp⟩ := exists_labels h ha
    obtain ⟨k', p', hk', hp'⟩ := exists_labels h hb
    obtain rfl : p = p' := Option.some.inj (hp.symm.trans (same.trans hp'))
    exact ⟨_, mem_groups_of_role hp,
      List.mem_flatten.2 ⟨_, mem_coreGroups_of_role h hk hp, mem_rolesIn.2 hk⟩,
      List.mem_flatten.2 ⟨_, mem_coreGroups_of_role h hk' hp', mem_rolesIn.2 hk'⟩⟩

theorem demand_ofClass (hG : G ∈ (ofClass c).groups) : G.demand = G.coreGroups.flatten.length := by
  obtain ⟨p, -, rfl⟩ := mem_groups hG
  exact (coreGroups_perm _).flatten.length_eq.symm

theorem digested_ofClass (h : c.WellFormed) : Digested c (ofClass c) :=
  have hs := partitions_ofClass h
  { roles := hs.roles
    parted := hs.parted
    sameCore := fun _ ha _ hb => sameCore_ofClass h ha hb
    samePackage := fun _ ha _ hb => samePackage_ofClass h ha hb
    inhabited := fun _ hG => hs.coreGroups_ne_nil hG
    coreInhabited := hs.coreInhabited
    ascending := hs.ascending
    coresRanked := fun _ hG => hs.coresRanked hG
    packagesRanked := packagesRanked_ofClass h
    demand := fun _ hG => demand_ofClass hG }

end Litmus.Shape
