import Litmus.Proofs.Class.Relabelling
import Litmus.Proofs.Class.WellFormed

/-!
Canonical classes. Which labels are a class depends on where they repeat and on nothing else, and so
does the class: its relations are those that the labels say, and two lists of labels give one class
exactly if they say the same of every two roles.
-/
namespace Litmus

/-- How two roles lie to each other by the labels that they were given. -/
def Affinity.ofLabels (packages cores : List Nat) (a b : Nat) : Affinity :=
  if cores[a]? = cores[b]? then .sameCore
  else if packages[a]? = packages[b]? then .samePackage
  else .apart

namespace Class

/-- Labels that can be a class: one of each kind for every role, and one package for roles that
share a core. -/
structure Consistent (packages cores : List Nat) : Prop where
  roles : packages ≠ []
  lengths : packages.length = cores.length
  nested : ∀ a b, a < cores.length → b < cores.length → cores[a]? = cores[b]? →
    packages[a]? = packages[b]?

variable {packages cores packages' cores' : List Nat} {c c' : Class}

theorem Consistent.untorn (h : Consistent packages cores) (role : Nat) :
    torn? role (packages.zip cores) = none := by
  refine torn?_eq_none.2 (List.pairwise_iff_getElem.2 fun a b ha hb _ same => ?_)
  have := h.lengths
  simp only [List.length_zip] at ha hb
  have ha' : a < cores.length := by omega
  have hb' : b < cores.length := by omega
  have ha'' : a < packages.length := by omega
  have hb'' : b < packages.length := by omega
  simp only [List.getElem_zip] at same ⊢
  have nested := h.nested b a hb' ha'
  rw [List.getElem?_eq_getElem ha', List.getElem?_eq_getElem hb', List.getElem?_eq_getElem ha'',
    List.getElem?_eq_getElem hb''] at nested
  exact Option.some.inj (nested (congrArg some same))

theorem ofLabels_eq_ok_iff : ofLabels packages cores = .ok c ↔
    Consistent packages cores ∧ ⟨labels packages, labels cores⟩ = c := by
  rw [ofLabels_eq_ok]
  constructor
  · rintro ⟨roles, lengths, untorn, rfl⟩
    exact ⟨⟨roles, lengths, fun a b => packages_eq_of_untorn lengths untorn⟩, rfl⟩
  · rintro ⟨h, rfl⟩
    exact ⟨h.roles, h.lengths, h.untorn 0, rfl⟩

theorem exists_ofLabels_iff :
    (∃ c, ofLabels packages cores = .ok c) ↔ Consistent packages cores := by
  simp [ofLabels_eq_ok_iff]

/-! ### Renamed labels -/

theorem partner?_map {f g : Nat → Nat} {package core : Nat} {rest : List (Nat × Nat)}
    (hf : ∀ q ∈ rest, f q.1 = f package → q.1 = package)
    (hg : ∀ q ∈ rest, g q.2 = g core → q.2 = core) (role : Nat) :
    partner? (f package) (g core) role (rest.map (Prod.map f g)) =
      partner? package core role rest := by
  induction rest generalizing role with
  | nil => rfl
  | cons q rest ih =>
      obtain ⟨hfq, hf⟩ := List.forall_mem_cons.1 hf
      obtain ⟨hgq, hg⟩ := List.forall_mem_cons.1 hg
      have samePackage : f q.1 = f package ↔ q.1 = package := ⟨hfq, congrArg f⟩
      have sameCore : g q.2 = g core ↔ q.2 = core := ⟨hgq, congrArg g⟩
      simp only [List.map_cons, Prod.map, partner?, ne_eq, samePackage, sameCore]
      rw [← ih hf hg]

theorem torn?_map {f g : Nat → Nat} {pairs : List (Nat × Nat)}
    (hf : ∀ q ∈ pairs, ∀ r ∈ pairs, f r.1 = f q.1 → r.1 = q.1)
    (hg : ∀ q ∈ pairs, ∀ r ∈ pairs, g r.2 = g q.2 → r.2 = q.2) (role : Nat) :
    torn? role (pairs.map (Prod.map f g)) = torn? role pairs := by
  induction pairs generalizing role with
  | nil => rfl
  | cons q rest ih =>
      have later {r : Nat × Nat} (hr : r ∈ rest) : r ∈ q :: rest := List.mem_cons_of_mem q hr
      have partner := partner?_map (fun r hr => hf q List.mem_cons_self r (later hr))
        (fun r hr => hg q List.mem_cons_self r (later hr)) (role + 1)
      have others := ih (fun q hq r hr => hf q (later hq) r (later hr))
        (fun q hq r hr => hg q (later hq) r (later hr)) (role + 1)
      simp only [List.map_cons, Prod.map, torn?]
      rw [← others, ← partner]

/-- Whether labels are a class, and which, does not depend on what the labels are called. -/
theorem ofLabels_map {f g : Nat → Nat} (hf : Set.InjOn f {p | p ∈ packages})
    (hg : Set.InjOn g {k | k ∈ cores}) :
    ofLabels (packages.map f) (cores.map g) = ofLabels packages cores := by
  have left {q : Nat × Nat} (hq : q ∈ packages.zip cores) : q.1 ∈ packages :=
    (List.of_mem_zip hq).1
  have right {q : Nat × Nat} (hq : q ∈ packages.zip cores) : q.2 ∈ cores :=
    (List.of_mem_zip hq).2
  have torn := torn?_map (fun q hq r hr => @hf _ (left hr) _ (left hq))
    (fun q hq r hr => @hg _ (right hr) _ (right hq)) 0
  simp only [ofLabels, List.isEmpty_map, List.length_map, List.zip_map, torn, labels_map hf,
    labels_map hg]

/-- A class is the class of its own labels. -/
theorem ofLabels_again (h : ofLabels packages cores = .ok c) :
    ofLabels c.packages c.cores = .ok c := by
  obtain ⟨-, rfl⟩ := ofLabels_eq_ok_iff.1 h
  rw [← h, labels_eq_map_labelOf packages, labels_eq_map_labelOf cores]
  exact ofLabels_map (injOn_labelOf packages) (injOn_labelOf cores)

/-! ### What a class says -/

theorem groupCount_labels {α : Type} [DecidableEq α] (xs : List α) :
    groupCount (labels xs) = (firsts [] xs).length := by
  refine eq_of_forall_lt_iff fun k => ?_
  rw [← mem_labels]
  exact ⟨mem_labels_of_lt_groupCount, fun hk => lt_groupCount.2 ⟨k, hk, Nat.le_refl k⟩⟩

/-- What the class of some labels says of them. -/
structure Represents (packages cores : List Nat) (c : Class) : Prop where
  size : c.size = cores.length
  relation : ∀ a b, a < c.size → b < c.size →
    c.relation a b = .ok (Affinity.ofLabels packages cores a b)
  again : ofLabels c.packages c.cores = .ok c
  packagesNumbered : firsts [] c.packages = List.range c.packageGroups
  coresNumbered : firsts [] c.cores = List.range c.coreGroups

theorem represents_of_ofLabels (h : ofLabels packages cores = .ok c) :
    Represents packages cores c := by
  have again := ofLabels_again h
  have formed := wellFormed_of_ofLabels h
  obtain ⟨consistent, rfl⟩ := ofLabels_eq_ok_iff.1 h
  refine ⟨length_labels cores, fun a b ha hb => ?_, again, ?_, ?_⟩
  · rw [formed.relation_eq ha hb]
    simp only [size, length_labels] at ha hb
    have lengths := consistent.lengths
    simp only [getElem?_labels_eq_iff ha hb, Affinity.ofLabels,
      getElem?_labels_eq_iff (lengths ▸ ha) (lengths ▸ hb)]
  · rw [firsts_labels, packageGroups, groupCount_labels]
  · rw [firsts_labels, coreGroups, groupCount_labels]

/-- Roles that lie in one package are not apart. -/
theorem Consistent.ofLabels_eq_apart_iff (h : Consistent packages cores) {a b : Nat}
    (ha : a < cores.length) (hb : b < cores.length) :
    Affinity.ofLabels packages cores a b = .apart ↔ packages[a]? ≠ packages[b]? := by
  unfold Affinity.ofLabels
  split
  case isTrue hcore => simp [h.nested a b ha hb hcore]
  case isFalse => split <;> simp_all

theorem ofLabels_eq_sameCore_iff {a b : Nat} :
    Affinity.ofLabels packages cores a b = .sameCore ↔ cores[a]? = cores[b]? := by
  unfold Affinity.ofLabels
  split
  case isTrue hcore => simp [hcore]
  case isFalse hcore => split <;> simp [hcore]

/-- Labels give one class exactly if they say the same of every two roles. -/
theorem Consistent.labels_eq_iff (h : Consistent packages cores)
    (h' : Consistent packages' cores') :
    (labels packages = labels packages' ∧ labels cores = labels cores') ↔
      cores.length = cores'.length ∧ ∀ a b, a < cores.length → b < cores.length →
        Affinity.ofLabels packages cores a b = Affinity.ofLabels packages' cores' a b := by
  rw [Litmus.labels_eq_iff, Litmus.labels_eq_iff, h.lengths, h'.lengths]
  constructor
  · rintro ⟨⟨-, samePackage⟩, length, sameCore⟩
    refine ⟨length, fun a b ha hb => ?_⟩
    simp only [Affinity.ofLabels, samePackage a b ha hb, sameCore a b ha hb]
  · rintro ⟨length, same⟩
    refine ⟨⟨length, fun a b ha hb => ?_⟩, length, fun a b ha hb => ?_⟩
    · have apart := h.ofLabels_eq_apart_iff ha hb
      rw [same a b ha hb, h'.ofLabels_eq_apart_iff (length ▸ ha) (length ▸ hb)] at apart
      exact (not_iff_not.1 apart).symm
    · rw [← @ofLabels_eq_sameCore_iff packages, same a b ha hb,
        ofLabels_eq_sameCore_iff]

/-- Labels are a class exactly if they are consistent, and the class represents them; consistent
labels give one class exactly if they say the same of every two roles, and so labels may be renamed
in any way that keeps them apart. -/
theorem classes_canonical (packages cores : List Nat) :
    ((∃ c, ofLabels packages cores = .ok c) ↔ Consistent packages cores) ∧
      (∀ c, ofLabels packages cores = .ok c → Represents packages cores c) ∧
      (∀ packages' cores' c c', ofLabels packages cores = .ok c →
        ofLabels packages' cores' = .ok c' →
        (c = c' ↔ cores.length = cores'.length ∧ ∀ a b, a < cores.length → b < cores.length →
          Affinity.ofLabels packages cores a b = Affinity.ofLabels packages' cores' a b)) ∧
      ∀ f g : Nat → Nat, Set.InjOn f {p | p ∈ packages} → Set.InjOn g {k | k ∈ cores} →
        ofLabels (packages.map f) (cores.map g) = ofLabels packages cores := by
  refine ⟨exists_ofLabels_iff, fun c => represents_of_ofLabels, ?_, fun f g => ofLabels_map⟩
  intro packages' cores' c c' h h'
  obtain ⟨consistent, rfl⟩ := ofLabels_eq_ok_iff.1 h
  obtain ⟨consistent', rfl⟩ := ofLabels_eq_ok_iff.1 h'
  rw [← consistent.labels_eq_iff consistent', Class.mk.injEq]

/-- Three roles on cores of their own, the last in another package: the labels may be renamed. -/
theorem classes_canonical_three :
    Represents [7, 7, 3] [1, 2, 9] ⟨[0, 0, 1], [0, 1, 2]⟩ ∧
      ofLabels [4, 4, 0] [2, 3, 10] = ofLabels [7, 7, 3] [1, 2, 9] ∧
      (Affinity.ofLabels [7, 7, 3] [1, 2, 9] 0 1 = .samePackage ∧
        (⟨[0, 0, 1], [0, 1, 2]⟩ : Class) ≠ ⟨[0, 0, 0], [0, 0, 1]⟩) := by
  obtain ⟨-, represents, equal, renamed⟩ := classes_canonical [7, 7, 3] [1, 2, 9]
  have accepted : ofLabels [7, 7, 3] [1, 2, 9] = .ok ⟨[0, 0, 1], [0, 1, 2]⟩ := by decide
  have other : ofLabels [5, 5, 5] [8, 8, 6] = .ok ⟨[0, 0, 0], [0, 0, 1]⟩ := by decide
  refine ⟨represents _ accepted, renamed (· - 3) (· + 1) ?_ ?_, by decide, fun same => ?_⟩
  · intro x hx y hy
    exact (by decide : ∀ x ∈ [7, 7, 3], ∀ y ∈ [7, 7, 3], x - 3 = y - 3 → x = y) x hx y hy
  · exact fun x _ y _ same => Nat.succ.inj same
  · have := ((equal _ _ _ _ accepted other).1 same).2 0 1 (by decide) (by decide)
    exact absurd this (by decide)

end Class
end Litmus
