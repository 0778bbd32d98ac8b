import Litmus.Proofs.Class.Labels
import Mathlib.Data.List.Infix
import Mathlib.Data.Set.Function

/-!
Labels and renaming: items that are renamed keep their labels, so two lists have the same labels
exactly if they repeat their items at the same places. Labels that are labelled again stay as they
are; they are the numbers from zero up, in the order in which they first appear.
-/
namespace Litmus

variable {α β : Type} [DecidableEq α]

/-! ### Renamed items -/

/-- A list that repeats its items where another does is that list renamed. -/
theorem exists_renaming [Inhabited β] {xs : List α} {ys : List β} (length : xs.length = ys.length)
    (same : ∀ i j, i < xs.length → j < xs.length → (xs[i]? = xs[j]? ↔ ys[i]? = ys[j]?)) :
    ∃ f : α → β, Set.InjOn f {x | x ∈ xs} ∧ ys = xs.map f := by
  -- An item gets the name that stands where the item first stands.
  have first {x : α} (hx : x ∈ xs) : xs[xs.idxOf x]? = some x := by
    rw [List.getElem?_eq_getElem (List.idxOf_lt_length_of_mem hx), List.getElem_idxOf]
  refine ⟨fun x => ys[xs.idxOf x]?.getD default, fun x hx y hy named => ?_, ?_⟩
  · have hx' := List.idxOf_lt_length_of_mem hx
    have hy' := List.idxOf_lt_length_of_mem hy
    have repeated : ys[xs.idxOf x]? = ys[xs.idxOf y]? := by
      simp only [List.getElem?_eq_getElem (length ▸ hx'), List.getElem?_eq_getElem (length ▸ hy'),
        Option.getD_some] at named ⊢
      exact congrArg some named
    have := (same _ _ hx' hy').2 repeated
    rw [first hx, first hy] at this
    exact Option.some.inj this
  · refine List.ext_getElem (by simp [length]) fun i hi _ => ?_
    have hi' : i < xs.length := length ▸ hi
    have hmem := List.getElem_mem hi'
    have repeated : xs[xs.idxOf xs[i]]? = xs[i]? := by
      rw [first hmem, List.getElem?_eq_getElem hi']
    have := (same _ _ (List.idxOf_lt_length_of_mem hmem) hi').1 repeated
    simp [this, List.getElem?_eq_getElem hi]

variable [DecidableEq β]

theorem idxOf?_map {f : α → β} {seen : List α} {x : α} (inj : ∀ y ∈ seen, f y = f x → y = x) :
    (seen.map f).idxOf? (f x) = seen.idxOf? x := by
  induction seen with
  | nil => rfl
  | cons y seen ih =>
      obtain ⟨hy, hseen⟩ := List.forall_mem_cons.1 inj
      have same : f y = f x ↔ y = x := ⟨hy, congrArg f⟩
      simp only [List.map_cons, List.idxOf?_cons, beq_iff_eq, same, ih hseen]

theorem labelsFrom_map {f : α → β} {seen xs : List α} (inj : Set.InjOn f {x | x ∈ seen ++ xs}) :
    labelsFrom (seen.map f) (xs.map f) = labelsFrom seen xs := by
  induction xs generalizing seen with
  | nil => rfl
  | cons x xs ih =>
      have place : (seen.map f).idxOf? (f x) = seen.idxOf? x :=
        idxOf?_map fun y hy same => inj (by simp [hy]) (by simp) same
      have skip : Set.InjOn f {y | y ∈ seen ++ xs} :=
        inj.mono ((List.sublist_cons_self x xs).append_left seen).subset
      have take : Set.InjOn f {y | y ∈ (seen ++ [x]) ++ xs} := by
        rwa [List.append_assoc, List.singleton_append]
      have taken : labelsFrom (seen.map f ++ [f x]) (xs.map f) = labelsFrom (seen ++ [x]) xs := by
        rw [← ih take, List.map_append, List.map_singleton]
      simp only [List.map_cons, labelsFrom, place, ih skip, taken, List.length_map]

theorem labels_map {f : α → β} {xs : List α} (inj : Set.InjOn f {x | x ∈ xs}) :
    labels (xs.map f) = labels xs :=
  @labelsFrom_map _ _ _ _ f [] xs inj

theorem injOn_labelOf (xs : List α) : Set.InjOn (labelOf xs) {x | x ∈ xs} :=
  fun _ hx _ _ same => (labelOf_inj hx).1 same

theorem labels_labels (xs : List α) : labels (labels xs) = labels xs := by
  rw [labels_eq_map_labelOf xs, labels_map (injOn_labelOf xs), labels_eq_map_labelOf]

theorem labels_eq_iff {xs : List α} {ys : List β} : labels xs = labels ys ↔
    xs.length = ys.length ∧
      ∀ i j, i < xs.length → j < xs.length → (xs[i]? = xs[j]? ↔ ys[i]? = ys[j]?) := by
  constructor
  · intro h
    have length : xs.length = ys.length := by simpa using congrArg List.length h
    refine ⟨length, fun i j hi hj => ?_⟩
    rw [← getElem?_labels_eq_iff hi hj, h, getElem?_labels_eq_iff (length ▸ hi) (length ▸ hj)]
  · rintro ⟨length, same⟩
    cases ys with
    | nil =>
        obtain rfl := List.length_eq_zero_iff.1 length
        rfl
    | cons y ys =>
        have : Inhabited β := ⟨y⟩
        obtain ⟨f, inj, renamed⟩ := exists_renaming length same
        rw [renamed, labels_map inj]

/-! ### First appearances -/

theorem firsts_append (seen xs ys : List α) :
    firsts seen (xs ++ ys) = firsts (firsts seen xs) ys := by
  induction xs generalizing seen with
  | nil => rfl
  | cons x xs ih =>
      rw [List.cons_append, firsts, firsts]
      split
      case isTrue => exact ih seen
      case isFalse => exact ih (seen ++ [x])

theorem firsts_map_firsts (f : α → β) (seen xs : List α) :
    firsts [] ((firsts seen xs).map f) = firsts (firsts [] (seen.map f)) (xs.map f) := by
  induction xs generalizing seen with
  | nil => rfl
  | cons x xs ih =>
      rw [List.map_cons, firsts]
      split
      case isTrue hx =>
        have known : f x ∈ firsts [] (seen.map f) :=
          mem_firsts.2 (.inr (List.mem_map_of_mem hx))
        rw [ih, firsts, if_pos known]
      case isFalse =>
        rw [ih, List.map_append, firsts_append, ← firsts_append]
        rfl

/-- What comes first in a renamed list, where different items may get one name. -/
theorem firsts_map (f : α → β) (xs : List α) :
    firsts [] (xs.map f) = firsts [] ((firsts [] xs).map f) :=
  (firsts_map_firsts f [] xs).symm

theorem labels_append (xs ys : List α) : labels xs <+: labels (xs ++ ys) := by
  obtain ⟨later, hlater⟩ := prefix_firsts (firsts [] xs) ys
  rw [labels_eq_map, labels_eq_map, firsts_append, ← hlater, List.map_append]
  have same : xs.map (firsts [] xs).idxOf = xs.map (firsts [] xs ++ later).idxOf :=
    List.map_congr_left fun x hx => (List.idxOf_append_of_mem (mem_firsts.2 (.inr hx))).symm
  rw [same]
  exact List.prefix_append ..

/-- Labels first appear in ascending order. -/
theorem firsts_labels (xs : List α) :
    firsts [] (labels xs) = List.range (firsts [] xs).length := by
  have again : ∀ k ∈ labels xs, (firsts [] (labels xs)).idxOf k = k := by
    have := (labels_eq_map (labels xs)).symm.trans (labels_labels xs)
    exact List.map_inj_left.1 (this.trans (List.map_id _).symm)
  have nodup : (firsts [] (labels xs)).Nodup := nodup_firsts List.nodup_nil _
  have mem (k : Nat) : k ∈ firsts [] (labels xs) ↔ k ∈ List.range (firsts [] xs).length := by
    rw [mem_firsts, mem_labels, List.mem_range]
    simp
  have size := ((List.perm_ext_iff_of_nodup nodup List.nodup_range).2 mem).length_eq
  refine List.ext_getElem size fun i hi _ => ?_
  have hmem : (firsts [] (labels xs))[i] ∈ labels xs := by
    simpa using mem_firsts.1 (List.getElem_mem hi)
  rw [List.getElem_range, ← again _ hmem, nodup.idxOf_getElem]

/-- Numbers that first appear in ascending order are their own labels. -/
theorem labels_eq_self {ls : List Nat} {n : Nat} (h : firsts [] ls = List.range n) :
    labels ls = ls := by
  rw [labels_eq_map, h]
  refine (List.map_congr_left fun k hk => ?_).trans (List.map_id ls)
  have inside : k ∈ List.range n := h ▸ mem_firsts.2 (.inr hk)
  have := List.nodup_range.idxOf_getElem k (by simpa using inside)
  rwa [List.getElem_range] at this

end Litmus
