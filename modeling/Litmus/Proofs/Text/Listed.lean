import Litmus.Text.Bracketed
import Mathlib

/-!
Lists as text: what stands between separators can be read off again.
-/
namespace Litmus.Text

/-- A text that can be told apart in a list: there is something in it, and no comma. -/
def IsItem (s : String) : Prop := s.toList ≠ [] ∧ ',' ∉ s.toList

theorem intercalate_cons (sep first : List Char) (rest : List (List Char)) :
    sep.intercalate (first :: rest) = first ++ rest.flatMap (sep ++ ·) := by
  induction rest generalizing first with
  | nil => rw [List.intercalate_singleton, List.flatMap_nil, List.append_nil]
  | cons next rest ih =>
      rw [List.intercalate_cons_cons, ih, List.flatMap_cons]
      simp only [List.append_assoc]

theorem eq_nil_of_separated {xs ys zs : List Char} {ps qs : List (List Char)} (plain : ',' ∉ ys)
    (split : ys = xs ++ zs)
    (rest : ps.flatMap ([',', ' '] ++ ·) = zs ++ qs.flatMap ([',', ' '] ++ ·)) : zs = [] := by
  cases zs with
  | nil => rfl
  | cons c zs =>
      cases ps with
      | nil => simp at rest
      | cons p ps =>
          obtain ⟨rfl, -⟩ := List.cons.inj rest
          exact absurd (split ▸ by simp) plain

/-- What comes before a separator can be read off, if there is no comma in it. -/
theorem append_separated_inj {xs ys : List Char} {ps qs : List (List Char)}
    (hx : ',' ∉ xs) (hy : ',' ∉ ys)
    (h : xs ++ ps.flatMap ([',', ' '] ++ ·) = ys ++ qs.flatMap ([',', ' '] ++ ·)) :
    xs = ys ∧ ps.flatMap ([',', ' '] ++ ·) = qs.flatMap ([',', ' '] ++ ·) := by
  rcases List.append_eq_append_iff.1 h with ⟨zs, split, rest⟩ | ⟨zs, split, rest⟩
  · obtain rfl := eq_nil_of_separated hy split rest
    rw [split, rest, List.append_nil]
    exact ⟨rfl, rfl⟩
  · obtain rfl := eq_nil_of_separated hx split rest
    rw [split, rest, List.append_nil]
    exact ⟨rfl, rfl⟩

theorem separated_inj {ps qs : List (List Char)} (hp : ∀ p ∈ ps, ',' ∉ p) (hq : ∀ q ∈ qs, ',' ∉ q)
    (h : ps.flatMap ([',', ' '] ++ ·) = qs.flatMap ([',', ' '] ++ ·)) : ps = qs := by
  induction ps generalizing qs with
  | nil =>
      cases qs with
      | nil => rfl
      | cons q qs => simp at h
  | cons p ps ih =>
      cases qs with
      | nil => simp at h
      | cons q qs =>
          obtain ⟨hp, hps⟩ := List.forall_mem_cons.1 hp
          obtain ⟨hq, hqs⟩ := List.forall_mem_cons.1 hq
          simp only [List.flatMap_cons, List.append_assoc, List.append_cancel_left_eq] at h
          obtain ⟨rfl, rest⟩ := append_separated_inj hp hq h
          rw [ih hps hqs rest]

theorem intercalate_inj {ps qs : List (List Char)} (hp : ∀ p ∈ ps, p ≠ [] ∧ ',' ∉ p)
    (hq : ∀ q ∈ qs, q ≠ [] ∧ ',' ∉ q)
    (h : [',', ' '].intercalate ps = [',', ' '].intercalate qs) : ps = qs := by
  cases ps with
  | nil =>
      cases qs with
      | nil => rfl
      | cons q qs =>
          rw [intercalate_cons] at h
          exact absurd (List.append_eq_nil_iff.1 h.symm).1 (hq q List.mem_cons_self).1
  | cons p ps =>
      rw [intercalate_cons] at h
      cases qs with
      | nil => exact absurd (List.append_eq_nil_iff.1 h).1 (hp p List.mem_cons_self).1
      | cons q qs =>
          rw [intercalate_cons] at h
          obtain ⟨first, others⟩ := List.forall_mem_cons.1 hp
          obtain ⟨first', others'⟩ := List.forall_mem_cons.1 hq
          obtain ⟨rfl, rest⟩ := append_separated_inj first.2 first'.2 h
          rw [separated_inj (fun p mem => (others p mem).2) (fun q mem => (others' q mem).2) rest]

/-- A list of items can be read off its text. -/
theorem listed_inj {xs ys : List String} (hx : ∀ x ∈ xs, IsItem x) (hy : ∀ y ∈ ys, IsItem y)
    (h : listed xs = listed ys) : xs = ys := by
  have texts := congrArg String.toList h
  rw [listed, listed, String.toList_intercalate, String.toList_intercalate] at texts
  have same := intercalate_inj (List.forall_mem_map.2 hx) (List.forall_mem_map.2 hy) texts
  exact List.map_injective_iff.2 (fun _ _ => String.toList_inj.1) same

theorem isItem_repr (n : Nat) : IsItem n.repr := by
  rw [IsItem, Nat.toList_repr]
  refine ⟨Nat.toDigits_ne_nil, fun comma => ?_⟩
  have digit := Nat.isDigit_of_mem_toDigits (by decide) (by decide) comma
  exact absurd digit (by decide)

theorem isItem_int (i : Int) : IsItem i.repr := by
  rw [Int.repr_eq_if]
  split
  · exact isItem_repr _
  · obtain ⟨-, plain⟩ := isItem_repr (-i).toNat
    rw [IsItem, String.toList_append, List.mem_append, not_or]
    exact ⟨by simp, by decide, plain⟩

end Litmus.Text
