import Litmus.Tally
import Mathlib.Data.List.Nodup
import Mathlib.Algebra.BigOperators.Group.List.Basic
import Mathlib.Algebra.GroupWithZero.Nat

/-!
Tallies as counts: recording and merging add up, as long as the number of observations is a count.
-/
namespace Litmus.Tally

variable {κ : Type}

/-- How many observations a list of entries holds. -/
def weightIn (es : List (κ × Nat)) : Nat := (es.map (·.2)).sum

def weight (t : Tally κ) : Nat := weightIn t.entries

/-- No outcome has two entries. -/
def Distinct (t : Tally κ) : Prop := (t.entries.map (·.1)).Nodup

/-- A sum of counts breaks off exactly when the whole sum is no count. -/
theorem foldlM_add (xs : List Nat) {m : Nat} (small : m < Word.bound) :
    xs.foldlM Word.add m =
      if m + xs.sum < Word.bound then .ok (m + xs.sum) else .error .addOverflow := by
  induction xs generalizing m with
  | nil => exact (if_pos small).symm
  | cons x xs ih =>
      rw [List.foldlM_cons, List.sum_cons, ← Nat.add_assoc]
      by_cases fits : m + x < Word.bound
      · rw [Word.add_eq_ok.2 ⟨rfl, fits⟩]
        exact ih fits
      · rw [if_neg (by omega), Word.add, if_neg fits]
        rfl

theorem total_eq (t : Tally κ) :
    t.total = if t.weight < Word.bound then .ok t.weight else .error .addOverflow := by
  have sum := foldlM_add (t.entries.map (·.2)) (show 0 < Word.bound by decide)
  rwa [Nat.zero_add] at sum

theorem total_ok {t : Tally κ} (h : t.weight < Word.bound) : t.total = .ok t.weight :=
  (total_eq t).trans (if_pos h)

theorem total_congr {a b : Tally κ} (order : a.entries.Perm b.entries) : a.total = b.total := by
  rw [total_eq, total_eq, weight, weight, weightIn, weightIn, (order.map Prod.snd).sum_eq]

variable [DecidableEq κ] {es es' : List (κ × Nat)} {t t' a b : Tally κ} {key k : κ} {n : Nat}

/-! ### Entries -/

theorem countIn_le_weightIn (es : List (κ × Nat)) (key : κ) : countIn es key ≤ weightIn es := by
  induction es with
  | nil => exact Nat.le_refl 0
  | cons e rest ih =>
      simp only [countIn, weightIn, List.map_cons, List.sum_cons] at ih ⊢
      split <;> omega

theorem countIn_eq_zero (h : key ∉ es.map (·.1)) : countIn es key = 0 := by
  induction es with
  | nil => rfl
  | cons e rest ih =>
      rw [List.map_cons, List.mem_cons, not_or] at h
      rw [countIn, if_neg (Ne.symm h.1)]
      exact ih h.2

theorem addTo_ok (h : countIn es key + n < Word.bound) : ∃ es', addTo es key n = .ok es' := by
  induction es with
  | nil => exact ⟨_, rfl⟩
  | cons e rest ih =>
      unfold addTo
      by_cases hk : e.1 = key
      · simp only [countIn, if_pos hk] at h ⊢
        rw [Word.add_eq_ok.2 ⟨rfl, h⟩]
        exact ⟨_, rfl⟩
      · simp only [countIn, if_neg hk] at h ⊢
        obtain ⟨rest', added⟩ := ih h
        rw [added]
        exact ⟨_, rfl⟩

theorem addTo_eq_ok (h : addTo es key n = .ok es') : weightIn es' = weightIn es + n ∧
    es'.map (·.1) = if key ∈ es.map (·.1) then es.map (·.1) else es.map (·.1) ++ [key] := by
  induction es generalizing es' with
  | nil =>
      obtain rfl := Except.ok.inj h
      simp [weightIn]
  | cons e rest ih =>
      unfold addTo at h
      by_cases hk : e.1 = key
      · rw [if_pos hk] at h
        cases sum : Word.add e.2 n with
        | error fault => simp [sum, Except.map] at h
        | ok m =>
            simp only [sum, Except.map, Except.ok.injEq] at h
            obtain rfl := h
            obtain ⟨rfl, -⟩ := Word.add_eq_ok.1 sum
            simp only [weightIn, List.map_cons, List.sum_cons, ← hk, List.mem_cons, true_or,
              if_true, and_true]
            omega
      · rw [if_neg hk] at h
        cases added : addTo rest key n with
        | error fault => simp [added, Except.map] at h
        | ok rest' =>
            simp only [added, Except.map, Except.ok.injEq] at h
            obtain rfl := h
            obtain ⟨weight, keys⟩ := ih added
            simp only [weightIn, List.map_cons, List.sum_cons, List.mem_cons, Ne.symm hk,
              false_or] at weight keys ⊢
            refine ⟨by omega, ?_⟩
            rw [keys]
            split <;> rfl

theorem nodup_addTo (distinct : (es.map (·.1)).Nodup) (h : addTo es key n = .ok es') :
    (es'.map (·.1)).Nodup := by
  rw [(addTo_eq_ok h).2]
  split
  case isTrue => exact distinct
  case isFalse fresh =>
    refine distinct.append (List.nodup_singleton key) ?_
    intro x hx hkey
    rw [List.mem_singleton.1 hkey] at hx
    exact fresh hx

/-! ### Recording -/

theorem recordMany_ok (h : t.count key + n < Word.bound) : ∃ t', t.recordMany key n = .ok t' := by
  unfold recordMany
  split
  case isTrue => exact ⟨t, rfl⟩
  case isFalse =>
    obtain ⟨es', added⟩ := addTo_ok h
    rw [added]
    exact ⟨⟨es'⟩, rfl⟩

theorem recordMany_eq_ok (h : t.recordMany key n = .ok t') :
    t'.weight = t.weight + n ∧ (t.Distinct → t'.Distinct) := by
  unfold recordMany at h
  split at h
  case isTrue none =>
    obtain rfl := Except.ok.inj h
    exact ⟨by rw [none, Nat.add_zero], id⟩
  case isFalse =>
    cases added : addTo t.entries key n with
    | error fault => simp [added, Except.map] at h
    | ok es =>
        simp only [added, Except.map, Except.ok.injEq] at h
        obtain rfl := h
        exact ⟨(addTo_eq_ok added).1, fun distinct => nodup_addTo distinct added⟩

theorem count_le_weight (t : Tally κ) (key : κ) : t.count key ≤ t.weight :=
  countIn_le_weightIn t.entries key

/-! ### Merging -/

theorem foldlM_recordMany (distinct : (es.map (·.1)).Nodup)
    (h : t.weight + weightIn es < Word.bound) :
    ∃ t', es.foldlM (fun t e => t.recordMany e.1 e.2) t = .ok t' ∧
      t'.weight = t.weight + weightIn es ∧ (t.Distinct → t'.Distinct) ∧
        ∀ k, t'.count k = t.count k + countIn es k := by
  induction es generalizing t with
  | nil => exact ⟨t, rfl, rfl, id, fun k => rfl⟩
  | cons e rest ih =>
      simp only [weightIn, List.map_cons, List.sum_cons, List.nodup_cons] at h distinct ih
      have small := t.count_le_weight e.1
      have room : t.count e.1 + e.2 < Word.bound := by omega
      obtain ⟨t₁, first⟩ := recordMany_ok room
      obtain ⟨weight, kept⟩ := recordMany_eq_ok first
      have left : t₁.weight + (rest.map (·.2)).sum < Word.bound := by omega
      obtain ⟨t', others, weight', kept', counts⟩ := ih distinct.2 left
      refine ⟨t', ?_, ?_, fun h => kept' (kept h), fun k => ?_⟩
      · rw [List.foldlM_cons, first]
        exact others
      · rw [weight', weight]
        simp only [weightIn, List.map_cons, List.sum_cons]
        omega
      · rw [counts, count_recordMany first, countIn]
        by_cases hk : k = e.1
        · have none : countIn rest k = 0 := countIn_eq_zero (hk ▸ distinct.1)
          rw [if_pos hk, if_pos hk.symm, none]
          rfl
        · rw [if_neg hk, if_neg (Ne.symm hk)]
          rfl

theorem merge_ok (distinct : b.Distinct) (h : a.weight + b.weight < Word.bound) :
    ∃ t, a.merge b = .ok t ∧ t.weight = a.weight + b.weight ∧ (a.Distinct → t.Distinct) ∧
      ∀ k, t.count k = a.count k + b.count k :=
  foldlM_recordMany distinct h

/-- Merging tallies one after the other adds up what they count. -/
theorem foldlM_merge {ts : List (Tally κ)} (distinct : ∀ t ∈ ts, t.Distinct)
    (h : a.weight + (ts.map weight).sum < Word.bound) :
    ∃ t, ts.foldlM merge a = .ok t ∧ t.weight = a.weight + (ts.map weight).sum ∧
      ∀ k, t.count k = a.count k + (ts.map fun t => t.count k).sum := by
  induction ts generalizing a with
  | nil => exact ⟨a, rfl, rfl, fun k => rfl⟩
  | cons b rest ih =>
      simp only [List.map_cons, List.sum_cons, List.mem_cons, forall_eq_or_imp] at h distinct ⊢
      obtain ⟨a₁, merged, weight, -, counts⟩ := merge_ok distinct.1 (a := a) (by omega)
      obtain ⟨t, others, weight', counts'⟩ := ih distinct.2 (a := a₁) (by omega)
      refine ⟨t, ?_, by omega, fun k => ?_⟩
      · rw [List.foldlM_cons, merged]
        exact others
      · rw [counts', counts]
        omega

/-! ### Counts that do not fit -/

/-- A fold breaks off with the fault of one of its steps. -/
theorem foldlM_eq_error {α β : Type} {f : β → α → Except Fault β} {xs : List α} {b : β}
    {fault : Fault} (h : xs.foldlM f b = .error fault) : ∃ b' x, f b' x = .error fault := by
  induction xs generalizing b with
  | nil => simp [pure, Except.pure] at h
  | cons x xs ih =>
      rw [List.foldlM_cons] at h
      cases first : f b x with
      | error fault' =>
          rw [first] at h
          obtain rfl : fault' = fault := Except.error.inj h
          exact ⟨b, x, first⟩
      | ok b' =>
          rw [first] at h
          exact ih h

theorem add_eq_error {m : Nat} {fault : Fault} (h : Word.add m n = .error fault) :
    fault = .addOverflow := by
  unfold Word.add at h
  split at h
  · simp at h
  · exact (Except.error.inj h).symm

theorem sum_eq_error {xs : List Nat} {fault : Fault} (h : Word.sum xs = .error fault) :
    fault = .addOverflow := by
  obtain ⟨_, _, added⟩ := foldlM_eq_error h
  exact add_eq_error added

theorem addTo_eq_error {fault : Fault} (h : addTo es key n = .error fault) :
    fault = .addOverflow := by
  induction es with
  | nil => simp [addTo] at h
  | cons e rest ih =>
      unfold addTo at h
      split at h
      · cases sum : Word.add e.2 n with
        | error fault' =>
            obtain rfl : fault' = fault := by simpa [sum, Except.map] using h
            exact add_eq_error sum
        | ok m => simp [sum, Except.map] at h
      · cases added : addTo rest key n with
        | error fault' =>
            obtain rfl : fault' = fault := by simpa [added, Except.map] using h
            exact ih added
        | ok rest' => simp [added, Except.map] at h

theorem recordMany_eq_error {fault : Fault} (h : t.recordMany key n = .error fault) :
    fault = .addOverflow := by
  unfold recordMany at h
  split at h
  · simp at h
  · cases added : addTo t.entries key n with
    | error fault' =>
        obtain rfl : fault' = fault := by simpa [added, Except.map] using h
        exact addTo_eq_error added
    | ok es => simp [added, Except.map] at h

theorem merge_eq_error {fault : Fault} (h : a.merge b = .error fault) : fault = .addOverflow := by
  obtain ⟨_, _, recorded⟩ := foldlM_eq_error h
  exact recordMany_eq_error recorded

end Litmus.Tally
