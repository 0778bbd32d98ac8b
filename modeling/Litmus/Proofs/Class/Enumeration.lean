import Litmus.Proofs.Class.Canonical
import Mathlib.Data.Prod.Lex

/-!
The enumeration of classes is exact: growth strings are the lists of numbers that are their own
labels, so that the classes that are listed are those that labels can give, each of them once. They
come in the order of their cores and, for equal cores, of their packages.
-/
namespace Litmus.Class

variable {ls cores packageOf packageOf' : List Nat} {c : Class} {n groups k : Nat}

/-! ### Growth strings -/

theorem labelsFrom_range_cons (groups label : Nat) (rest : List Nat) :
    labelsFrom (List.range groups) (label :: rest) =
      if label < groups then label :: labelsFrom (List.range groups) rest
      else groups :: labelsFrom (List.range groups ++ [label]) rest := by
  have place : (List.range groups).idxOf? label = if label < groups then some label else none := by
    split
    case isTrue h =>
      refine List.idxOf?_eq_some_iff.2 ⟨by simpa using h, List.getElem_range _, fun j hj => ?_⟩
      simpa using Nat.ne_of_lt hj
    case isFalse h => exact List.idxOf?_eq_none_iff.2 (by simpa using h)
  rw [labelsFrom, place]
  by_cases h : label < groups
  · simp only [if_pos h]
  · simp only [if_neg h, List.length_range]

/-- The ways to continue a growth string are the lists that labelling after its labels keeps. -/
theorem mem_growthsFrom :
    ls ∈ growthsFrom n groups ↔ ls.length = n ∧ labelsFrom (List.range groups) ls = ls := by
  induction n generalizing groups ls with
  | zero =>
      rw [growthsFrom, List.mem_singleton, List.length_eq_zero_iff]
      exact ⟨fun h => ⟨h, h ▸ rfl⟩, And.left⟩
  | succ n ih =>
      cases ls with
      | nil => simp [growthsFrom]
      | cons label rest =>
          have continues : label :: rest ∈ growthsFrom (n + 1) groups ↔
              label < groups + 1 ∧ rest ∈ growthsFrom n (Nat.max groups (label + 1)) := by
            simp [growthsFrom]
          rw [continues, ih, labelsFrom_range_cons, List.length_cons]
          -- The next label is an old one, the first new one, or leaves some out.
          rcases Nat.lt_trichotomy label groups with old | rfl | gap
          · rw [show Nat.max groups (label + 1) = groups from Nat.max_eq_left old]
            simp [old, Nat.lt_succ_of_lt old]
          · simp [List.range_succ]
          · simp [Nat.not_lt.2 gap, Nat.not_lt.2 (Nat.le_of_lt gap), Nat.ne_of_lt gap]

theorem mem_growths : ls ∈ growths n ↔ ls ≠ [] ∧ ls.length = n ∧ labels ls = ls := by
  unfold growths
  split
  case isTrue none =>
    subst none
    simp only [List.not_mem_nil, List.length_eq_zero_iff, false_iff]
    exact fun h => h.1 h.2.1
  case isFalse some =>
    rw [mem_growthsFrom, List.range_zero, ← labels]
    refine (and_iff_right_of_imp fun growth none => some ?_).symm
    rw [← growth.1, none, List.length_nil]

theorem growthsFrom_ascending (n groups : Nat) : (growthsFrom n groups).Pairwise (· < ·) := by
  induction n generalizing groups with
  | zero => exact List.pairwise_singleton _ _
  | succ n ih =>
      rw [growthsFrom, List.pairwise_flatMap]
      constructor
      · intro label _
        exact List.pairwise_map.2 ((ih _).imp fun h => List.cons_lt_cons_iff.2 (.inr ⟨rfl, h⟩))
      · refine List.pairwise_lt_range.imp fun {label label'} hlt s hs s' hs' => ?_
        obtain ⟨rest, -, rfl⟩ := List.mem_map.1 hs
        obtain ⟨rest', -, rfl⟩ := List.mem_map.1 hs'
        exact List.cons_lt_cons_iff.2 (.inl hlt)

theorem growths_ascending (n : Nat) : (growths n).Pairwise (· < ·) := by
  unfold growths
  split
  · exact List.Pairwise.nil
  · exact growthsFrom_ascending n 0

theorem firsts_of_growth (growth : labels ls = ls) : firsts [] ls = List.range (groupCount ls) := by
  have ascending := firsts_labels ls
  have count := groupCount_labels ls
  rw [growth] at ascending count
  rw [ascending, count]

theorem mem_of_growth (growth : labels ls = ls) : k ∈ ls ↔ k < groupCount ls := by
  rw [← List.mem_range, ← firsts_of_growth growth, mem_firsts]
  simp

theorem growth_take (growth : labels ls = ls) (n : Nat) : labels (ls.take n) = ls.take n := by
  have front := labels_append (ls.take n) (ls.drop n)
  rw [List.take_append_drop, growth, List.prefix_iff_eq_take, length_labels,
    List.length_take] at front
  rw [front]
  exact List.take_eq_take_iff.2 (by omega)

/-- Before a label appears, only smaller ones do. -/
theorem lt_of_lt_idxOf (growth : labels ls = ls) {j : Nat} (hj : j < ls.length)
    (before : j < ls.idxOf k) : ls[j] < k := by
  by_contra hge
  have front := growth_take growth (j + 1)
  have listed : ls[j] ∈ ls.take (j + 1) := List.mem_take_iff_getElem.2 ⟨j, by omega, rfl⟩
  have hk : k ∈ ls.take (j + 1) :=
    (mem_of_growth front).2 (lt_groupCount.2 ⟨_, listed, Nat.le_of_not_lt hge⟩)
  have place := List.idxOf_lt_length_of_mem hk
  rw [List.length_take] at place
  rw [← List.take_append_drop (j + 1) ls, List.idxOf_append_of_mem hk] at before
  omega

/-! ### Packages of core groups -/

/-- The packages of the core groups, read off a class. -/
def packageOfGroup (c : Class) (k : Nat) : Nat :=
  (c.packages[c.cores.idxOf k]?).getD 0

theorem map_packageOfGroup (lengths : c.packages.length = c.cores.length)
    (nested : ∀ a b, a < c.cores.length → b < c.cores.length → c.cores[a]? = c.cores[b]? →
      c.packages[a]? = c.packages[b]?) : c.cores.map c.packageOfGroup = c.packages := by
  refine List.ext_getElem (by simp [lengths]) fun i hi hi' => ?_
  rw [List.length_map] at hi
  have hmem := List.getElem_mem hi
  have first := List.idxOf_lt_length_of_mem hmem
  have same := nested _ i first hi (by
    rw [List.getElem?_eq_getElem first, List.getElem?_eq_getElem hi, List.getElem_idxOf])
  rw [List.getElem_map, packageOfGroup, same, List.getElem?_eq_getElem hi', Option.getD_some]

theorem ofGroups_map (h : Nat → Nat) (cores : List Nat) :
    ofGroups cores ((List.range (groupCount cores)).map h) = ⟨cores.map h, cores⟩ := by
  have each : ∀ k ∈ cores, (((List.range (groupCount cores)).map h)[k]?).getD 0 = h k := by
    intro k hk
    have inside : k < groupCount cores := lt_groupCount.2 ⟨k, hk, Nat.le_refl k⟩
    simp [List.getElem?_range inside]
  rw [ofGroups, List.map_congr_left each]

theorem exists_map_eq (size : packageOf.length = n) :
    ∃ h : Nat → Nat, (List.range n).map h = packageOf := by
  refine ⟨fun k => (packageOf[k]?).getD 0, List.ext_getElem (by simp [size]) fun k hk hk' => ?_⟩
  simp [List.getElem?_eq_getElem hk']

/-- Core groups and the packages that they are put into are numbered by first appearance together
exactly if each of the two is. -/
theorem growth_packages_iff (growth : labels cores = cores) (h : Nat → Nat) :
    labels (cores.map h) = cores.map h ↔
      labels ((List.range (groupCount cores)).map h) = (List.range (groupCount cores)).map h := by
  have firsts_eq := firsts_map h cores
  rw [firsts_of_growth growth] at firsts_eq
  constructor
  · intro packages
    rw [firsts_of_growth packages] at firsts_eq
    exact labels_eq_self firsts_eq.symm
  · intro packages
    rw [firsts_of_growth packages] at firsts_eq
    exact labels_eq_self firsts_eq

theorem consistent_ofGroups (roles : cores ≠ []) :
    Consistent (ofGroups cores packageOf).packages (ofGroups cores packageOf).cores where
  roles := by simpa [ofGroups] using roles
  lengths := by simp [ofGroups]
  nested a b _ _ same := by
    simp only [ofGroups] at same ⊢
    simp [List.getElem?_map, same]

/-- Packages of core groups that come earlier give a class that comes earlier. -/
theorem packages_lt (growth : labels cores = cores) (size : packageOf.length = groupCount cores)
    (size' : packageOf'.length = groupCount cores) (hlt : packageOf < packageOf') :
    (ofGroups cores packageOf).packages < (ofGroups cores packageOf').packages := by
  rw [List.lt_iff_exists] at hlt ⊢
  rcases hlt with ⟨-, shorter⟩ | ⟨k, hk, hk', before, here⟩
  · omega
  · have hmem : k ∈ cores := (mem_of_growth growth).2 (size ▸ hk)
    have place := List.idxOf_lt_length_of_mem hmem
    -- They part at the first role of core group `k`; all roles before it are of smaller groups.
    refine .inr ⟨cores.idxOf k, by simpa [ofGroups] using place, by simpa [ofGroups] using place,
      fun j hj => ?_, ?_⟩
    · have earlier := lt_of_lt_idxOf growth (hj.trans place) hj
      simp [ofGroups, List.getElem?_eq_getElem (earlier.trans hk),
        List.getElem?_eq_getElem (earlier.trans hk'), before _ earlier]
    · simp [ofGroups, List.getElem?_eq_getElem hk, List.getElem?_eq_getElem hk', here]

/-! ### The enumeration -/

theorem mem_enumerate_iff {roles : Nat} : c ∈ enumerate roles ↔
    c.size = roles ∧ ofLabels c.packages c.cores = .ok c := by
  simp only [enumerate, List.mem_flatMap, List.mem_map, mem_growths, ofLabels_eq_ok_iff]
  constructor
  · rintro ⟨cores, ⟨some, length, growth⟩, packageOf, ⟨-, size, growth'⟩, rfl⟩
    refine ⟨length, consistent_ofGroups some, ?_⟩
    obtain ⟨h, rfl⟩ := exists_map_eq size
    rw [ofGroups_map, growth, (growth_packages_iff growth h).2 growth']
  · rintro ⟨size, consistent, own⟩
    have growth : labels c.cores = c.cores := congrArg Class.cores own
    have growth' : labels c.packages = c.packages := congrArg Class.packages own
    have packages := map_packageOfGroup consistent.lengths consistent.nested
    have some : c.cores ≠ [] := fun none => consistent.roles
      (List.length_eq_zero_iff.1 (by rw [consistent.lengths, none, List.length_nil]))
    refine ⟨c.cores, ⟨some, size, growth⟩, (List.range (groupCount c.cores)).map c.packageOfGroup,
      ⟨?_, by simp, ?_⟩, ?_⟩
    · obtain ⟨k, hk⟩ := List.exists_mem_of_ne_nil _ some
      exact List.ne_nil_of_mem
        (List.mem_map_of_mem (List.mem_range.2 ((mem_of_growth growth).1 hk)))
    · rw [← growth_packages_iff growth, packages, growth']
    · rw [ofGroups_map, packages]

theorem Formed.wellFormed (h : c.Formed) : c.WellFormed := by
  cases h with
  | made packages cores made => exact wellFormed_of_ofLabels made
  | listed roles listed => exact wellFormed_of_ofLabels (mem_enumerate_iff.1 listed).2

/-- The listed classes are all classes with that number of roles, however they were made. -/
theorem mem_enumerate_iff_formed {roles : Nat} :
    c ∈ enumerate roles ↔ c.Formed ∧ c.size = roles := by
  constructor
  · exact fun listed => ⟨.listed roles listed, (mem_enumerate_iff.1 listed).1⟩
  · rintro ⟨formed, rfl⟩
    cases formed with
    | made packages cores made => exact mem_enumerate_iff.2 ⟨rfl, ofLabels_again made⟩
    | listed roles listed => exact (mem_enumerate_iff.1 listed).1 ▸ listed

/-- The order of the enumeration: by cores and, for equal cores, by packages, both
lexicographically. -/
def Precedes (c d : Class) : Prop :=
  Prod.Lex (· < ·) (· < ·) (c.cores, c.packages) (d.cores, d.packages)

theorem enumerate_ascending (roles : Nat) : (enumerate roles).Pairwise Precedes := by
  rw [enumerate, List.pairwise_flatMap]
  constructor
  · intro cores hcores
    have growth := (mem_growths.1 hcores).2.2
    refine List.pairwise_map.2 (List.Pairwise.imp_of_mem ?_ (growths_ascending _))
    intro packageOf packageOf' hmem hmem' hlt
    exact .right _ (packages_lt growth (mem_growths.1 hmem).2.1 (mem_growths.1 hmem').2.1
      hlt)
  · refine (growths_ascending roles).imp fun hlt c hc d hd => ?_
    obtain ⟨packageOf, -, rfl⟩ := List.mem_map.1 hc
    obtain ⟨packageOf', -, rfl⟩ := List.mem_map.1 hd
    exact .left _ _ hlt

theorem nodup_enumerate (roles : Nat) : (enumerate roles).Nodup :=
  (enumerate_ascending roles).imp fun {c d} precedes same => by
    subst same
    rcases Prod.lex_iff.1 precedes with hlt | ⟨-, hlt⟩
    · exact List.lt_irrefl _ hlt
    · exact List.lt_irrefl _ hlt

/-- The classes with a given number of roles that labels can give are listed, each of them once and
in order, and nothing else is. -/
theorem enumeration_exact (roles : Nat) :
    (∀ c, c ∈ enumerate roles ↔ ∃ packages cores : List Nat,
      packages.length = roles ∧ cores.length = roles ∧ ofLabels packages cores = .ok c) ∧
      (∀ c ∈ enumerate roles, c.size = roles ∧ ofLabels c.packages c.cores = .ok c) ∧
      (enumerate roles).Pairwise Precedes ∧ (enumerate roles).Nodup := by
  refine ⟨fun c => ?_, fun c => mem_enumerate_iff.1, enumerate_ascending roles,
    nodup_enumerate roles⟩
  rw [mem_enumerate_iff]
  constructor
  · rintro ⟨size, own⟩
    exact ⟨c.packages, c.cores, ((ofLabels_eq_ok_iff.1 own).1.lengths.trans size), size, own⟩
  · rintro ⟨packages, cores, -, length, made⟩
    exact ⟨(represents_of_ofLabels made).size.trans length, ofLabels_again made⟩

/-- Two roles on one core and a third in a package of its own are one of the twelve classes of three
roles. -/
theorem enumeration_exact_three :
    ofLabels [5, 2, 5] [8, 1, 8] = .ok ⟨[0, 1, 0], [0, 1, 0]⟩ ∧
      (⟨[0, 1, 0], [0, 1, 0]⟩ : Class) ∈ enumerate 3 ∧
      ofLabels [0, 1, 0] [0, 1, 0] = .ok ⟨[0, 1, 0], [0, 1, 0]⟩ ∧ (enumerate 3).length = 12 := by
  obtain ⟨listed, own, -⟩ := enumeration_exact 3
  have made : ofLabels [5, 2, 5] [8, 1, 8] = .ok ⟨[0, 1, 0], [0, 1, 0]⟩ := by decide
  have mem := (listed ⟨[0, 1, 0], [0, 1, 0]⟩).2 ⟨_, _, rfl, rfl, made⟩
  exact ⟨made, mem, (own _ mem).2, by decide⟩

end Litmus.Class
