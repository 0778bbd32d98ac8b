import Litmus.Class.Enumeration
import Litmus.Proofs.Class.Labels

/-!
What holds of every class that is made from labels: each role has a core group and a package group,
roles that share a core share its package, and no group is empty.
-/
namespace Litmus.Class

structure WellFormed (c : Class) : Prop where
  roles : c.cores ≠ []
  lengths : c.packages.length = c.cores.length
  nested : ∀ a b, a < c.size → b < c.size → c.cores[a]? = c.cores[b]? →
    c.packages[a]? = c.packages[b]?
  coresUsed : ∀ k < c.coreGroups, k ∈ c.cores
  packagesUsed : ∀ k < c.packageGroups, k ∈ c.packages

/-- A class as the two ways to get one give it. -/
inductive Formed (c : Class) : Prop where
  | made (packages cores : List Nat) (h : ofLabels packages cores = .ok c)
  | listed (roles : Nat) (h : c ∈ enumerate roles)

theorem lt_groupCount {ls : List Nat} {k : Nat} : k < groupCount ls ↔ ∃ l ∈ ls, k ≤ l := by
  induction ls with
  | nil => simp [groupCount]
  | cons l ls ih =>
      have hcons : groupCount (l :: ls) = max (l + 1) (groupCount ls) := rfl
      rw [List.exists_mem_cons_iff, ← ih, hcons]
      omega

theorem mem_labels_of_lt_groupCount {α : Type} [DecidableEq α] {xs : List α} {k : Nat}
    (h : k < groupCount (labels xs)) : k ∈ labels xs := by
  obtain ⟨l, hl, hkl⟩ := lt_groupCount.1 h
  rw [mem_labels] at hl ⊢
  omega

/-! ### Classes from labels -/

theorem partner?_eq_none {package core role : Nat} {rest : List (Nat × Nat)} :
    partner? package core role rest = none ↔ ∀ q ∈ rest, q.2 = core → q.1 = package := by
  induction rest generalizing role with
  | nil => simp [partner?]
  | cons q rest ih =>
      obtain ⟨p, c⟩ := q
      unfold partner?
      split
      case isTrue h =>
        simp only [reduceCtorEq, false_iff]
        exact fun hall => h.2 (hall (p, c) (by simp) h.1)
      case isFalse h =>
        rw [ih, List.forall_mem_cons]
        constructor
        · exact fun hrest => ⟨fun hc => by_contra fun hp => h ⟨hc, hp⟩, hrest⟩
        · exact fun hall => hall.2

theorem torn?_eq_none {role : Nat} {rest : List (Nat × Nat)} :
    torn? role rest = none ↔ rest.Pairwise fun q r => r.2 = q.2 → r.1 = q.1 := by
  induction rest generalizing role with
  | nil => simp [torn?]
  | cons q rest ih =>
      obtain ⟨p, c⟩ := q
      unfold torn?
      rw [List.pairwise_cons]
      split
      case h_1 other h =>
        simp only [reduceCtorEq, false_iff, not_and]
        intro hall
        rw [partner?_eq_none.2 hall] at h
        simp at h
      case h_2 h =>
        rw [ih]
        constructor
        · exact fun hrest => ⟨partner?_eq_none.1 h, hrest⟩
        · exact fun hall => hall.2

theorem ofLabels_eq_ok {packages cores : List Nat} {c : Class} :
    ofLabels packages cores = .ok c ↔
      packages ≠ [] ∧ packages.length = cores.length ∧ torn? 0 (packages.zip cores) = none ∧
        ⟨labels packages, labels cores⟩ = c := by
  unfold ofLabels
  split
  case isTrue h => simp_all
  case isFalse h =>
    split
    case isTrue hne => simp [hne]
    case isFalse heq =>
      have hp : packages ≠ [] := by simpa using h
      have hl : packages.length = cores.length := by simpa using heq
      split <;> simp_all

/-- Two roles that share a raw core label share a raw package label, if the class was accepted. -/
theorem packages_eq_of_untorn {packages cores : List Nat}
    (hl : packages.length = cores.length) (h : torn? 0 (packages.zip cores) = none) {a b : Nat}
    (ha : a < cores.length) (hb : b < cores.length) (hab : cores[a]? = cores[b]?) :
    packages[a]? = packages[b]? := by
  have hpair := torn?_eq_none.1 h
  have forward {i j : Nat} (hij : i < j) (hj : j < cores.length)
      (hc : cores[i]? = cores[j]?) : packages[i]? = packages[j]? := by
    have := List.pairwise_iff_getElem.1 hpair i j (by simp; omega) (by simp; omega) hij
    simp only [List.getElem_zip] at this
    rw [List.getElem?_eq_getElem (by omega), List.getElem?_eq_getElem (by omega)] at hc ⊢
    exact congrArg some (this (by simpa using hc.symm)).symm
  rcases Nat.lt_trichotomy a b with hlt | rfl | hlt
  · exact forward hlt hb hab
  · rfl
  · exact (forward hlt ha hab.symm).symm

theorem wellFormed_of_ofLabels {packages cores : List Nat} {c : Class}
    (h : ofLabels packages cores = .ok c) : WellFormed c := by
  obtain ⟨hne, hl, huntorn, rfl⟩ := ofLabels_eq_ok.1 h
  refine ⟨?_, by simpa using hl, ?_, ?_, ?_⟩
  · intro hnil
    have : cores.length = 0 := by simpa using congrArg List.length hnil
    exact hne (List.length_eq_zero_iff.1 (hl.trans this))
  · intro a b ha hb hab
    simp only [size, length_labels] at ha hb
    rw [getElem?_labels_eq_iff ha hb] at hab
    rw [getElem?_labels_eq_iff (by omega) (by omega)]
    exact packages_eq_of_untorn hl huntorn ha hb hab
  · exact fun k hk => mem_labels_of_lt_groupCount hk
  · exact fun k hk => mem_labels_of_lt_groupCount hk

/-! ### Relations -/

theorem WellFormed.relation_eq {c : Class} (h : c.WellFormed) {a b : Nat} (ha : a < c.size)
    (hb : b < c.size) :
    c.relation a b = .ok (if c.cores[a]? = c.cores[b]? then .sameCore
      else if c.packages[a]? = c.packages[b]? then .samePackage else .apart) := by
  have hl := h.lengths
  simp only [size] at ha hb
  have hpa : a < c.packages.length := by omega
  have hpb : b < c.packages.length := by omega
  simp only [relation, elementAt, List.getElem?_eq_getElem ha, List.getElem?_eq_getElem hb,
    List.getElem?_eq_getElem hpa, List.getElem?_eq_getElem hpb, bind, Except.bind,
    Option.some.injEq]
  split
  · rfl
  · split <;> rfl

theorem WellFormed.sameCore_iff {c : Class} (h : c.WellFormed) {a b : Nat} (ha : a < c.size)
    (hb : b < c.size) : c.relation a b = .ok .sameCore ↔ c.cores[a]? = c.cores[b]? := by
  rw [h.relation_eq ha hb]
  split
  case isTrue heq => simp [heq]
  case isFalse hne => split <;> simp [hne]

theorem WellFormed.sharesPackage_iff {c : Class} (h : c.WellFormed) {a b : Nat} (ha : a < c.size)
    (hb : b < c.size) :
    c.relation a b = .ok .sameCore ∨ c.relation a b = .ok .samePackage ↔
      c.packages[a]? = c.packages[b]? := by
  rw [h.relation_eq ha hb]
  split
  case isTrue heq => simp [h.nested a b ha hb heq]
  case isFalse => split <;> simp [*]

end Litmus.Class
