import Litmus.Labels
import Mathlib.Data.List.Basic
import Mathlib.Data.List.Nodup

/-!
What labels say: two items get the same label exactly if they are equal, and the labels in use are
the numbers below some bound.
-/
namespace Litmus

variable {α : Type} [DecidableEq α]

/-- The distinct items of a list by first appearance, after those in `seen`. -/
def firsts (seen : List α) : List α → List α
  | [] => seen
  | x :: xs => if x ∈ seen then firsts seen xs else firsts (seen ++ [x]) xs

theorem nodup_firsts {seen : List α} (h : seen.Nodup) (xs : List α) : (firsts seen xs).Nodup := by
  induction xs generalizing seen with
  | nil => exact h
  | cons x xs ih =>
      unfold firsts
      split
      case isTrue => exact ih h
      case isFalse hx =>
        apply ih
        rw [List.nodup_append]
        refine ⟨h, by simp, fun a ha b hb => ?_⟩
        obtain rfl : b = x := by simpa using hb
        exact fun hab => hx (hab ▸ ha)

theorem prefix_firsts (seen xs : List α) : seen <+: firsts seen xs := by
  induction xs generalizing seen with
  | nil => exact List.prefix_refl seen
  | cons x xs ih =>
      unfold firsts
      split
      case isTrue => exact ih seen
      case isFalse => exact (List.prefix_append seen [x]).trans (ih _)

theorem mem_firsts {seen xs : List α} {x : α} : x ∈ firsts seen xs ↔ x ∈ seen ∨ x ∈ xs := by
  induction xs generalizing seen with
  | nil => simp [firsts]
  | cons y xs ih =>
      unfold firsts
      split
      case isTrue hy =>
        rw [ih, List.mem_cons]
        constructor
        · rintro (h | h)
          · exact .inl h
          · exact .inr (.inr h)
        · rintro (h | rfl | h)
          · exact .inl h
          · exact .inl hy
          · exact .inr h
      case isFalse => simp [ih, or_assoc]

/-- The label of an item is its place among the first appearances. -/
theorem labelsFrom_eq_map (seen xs : List α) :
    labelsFrom seen xs = xs.map (firsts seen xs).idxOf := by
  induction xs generalizing seen with
  | nil => rfl
  | cons x xs ih =>
      unfold labelsFrom
      split
      case h_1 label hl =>
        obtain ⟨hlt, hx, -⟩ := List.idxOf?_eq_some_iff.1 hl
        have hmem : x ∈ seen := List.mem_of_getElem hx
        have hfirsts : firsts seen (x :: xs) = firsts seen xs := by rw [firsts, if_pos hmem]
        obtain ⟨later, hlater⟩ := prefix_firsts seen xs
        have hidx : (firsts seen xs).idxOf x = label := by
          rw [← hlater, List.idxOf_append_of_mem hmem, List.idxOf_eq_getD_idxOf?, hl]
          rfl
        rw [List.map_cons, hfirsts, hidx, ih]
      case h_2 hl =>
        have hmem : x ∉ seen := List.idxOf?_eq_none_iff.1 hl
        have hfirsts : firsts seen (x :: xs) = firsts (seen ++ [x]) xs := by
          rw [firsts, if_neg hmem]
        obtain ⟨later, hlater⟩ := prefix_firsts (seen ++ [x]) xs
        have hidx : (firsts (seen ++ [x]) xs).idxOf x = seen.length := by
          rw [← hlater, List.append_assoc, List.idxOf_append_of_notMem hmem]
          simp
        rw [List.map_cons, hfirsts, hidx, ih]

theorem labels_eq_map (xs : List α) : labels xs = xs.map (firsts [] xs).idxOf :=
  labelsFrom_eq_map [] xs

/-- The label of an item of a list. -/
def labelOf (xs : List α) (x : α) : Nat :=
  (firsts [] xs).idxOf x

theorem labels_eq_map_labelOf (xs : List α) : labels xs = xs.map (labelOf xs) :=
  labels_eq_map xs

theorem labelOf_inj {xs : List α} {x y : α} (hx : x ∈ xs) :
    labelOf xs x = labelOf xs y ↔ x = y :=
  List.idxOf_inj (mem_firsts.2 (.inr hx))

/-- Labels repeat exactly where the items do. -/
theorem getElem?_labels_eq_iff {xs : List α} {i j : Nat} (hi : i < xs.length) (hj : j < xs.length) :
    (labels xs)[i]? = (labels xs)[j]? ↔ xs[i]? = xs[j]? := by
  have hmem : xs[i] ∈ firsts [] xs := mem_firsts.2 (.inr (List.getElem_mem hi))
  rw [labels_eq_map]
  simp only [List.getElem?_map, List.getElem?_eq_getElem hi, List.getElem?_eq_getElem hj,
    Option.map_some, Option.some.injEq]
  exact List.idxOf_inj hmem

/-- The labels in use are the numbers below a bound. -/
theorem mem_labels {xs : List α} {k : Nat} : k ∈ labels xs ↔ k < (firsts [] xs).length := by
  rw [labels_eq_map, List.mem_map]
  constructor
  · rintro ⟨x, hx, rfl⟩
    exact List.idxOf_lt_length_of_mem (mem_firsts.2 (.inr hx))
  · intro hk
    refine ⟨(firsts [] xs)[k], ?_, ?_⟩
    · simpa using mem_firsts.1 (List.getElem_mem hk)
    · exact (nodup_firsts (by simp) xs).idxOf_getElem k hk

end Litmus
