import Mathlib.Data.List.Nodup
import Mathlib.Data.List.Perm.Basic

/-!
Lists of entries in which no key occurs twice: what is looked up under a key is the entry with it.
-/
namespace Litmus

variable {α β : Type} [DecidableEq α] {entries : List (α × β)} {key : α} {value : β}

theorem mem_of_lookup (h : entries.lookup key = some value) : (key, value) ∈ entries := by
  obtain ⟨before, after, rfl, -⟩ := List.lookup_eq_some_iff.1 h
  simp

theorem lookup_eq_some_iff (keys : (entries.map (·.1)).Nodup) :
    entries.lookup key = some value ↔ (key, value) ∈ entries := by
  refine ⟨mem_of_lookup, fun mem => ?_⟩
  cases found : entries.lookup key with
  | none => simpa using List.lookup_eq_none_iff.1 found _ mem
  | some value' =>
      have same := List.inj_on_of_nodup_map keys mem (mem_of_lookup found) rfl
      rw [(Prod.mk.inj same).2]

theorem isSome_lookup_iff : (entries.lookup key).isSome ↔ key ∈ entries.map (·.1) := by
  rw [Option.isSome_iff_ne_none, ne_eq, List.lookup_eq_none_iff, List.mem_map]
  simp

/-- A list is the entry of one key and those of the others. -/
theorem perm_of_lookup (keys : (entries.map (·.1)).Nodup) (h : entries.lookup key = some value) :
    entries.Perm ((key, value) :: entries.filter (·.1 ≠ key)) := by
  obtain ⟨before, after, rfl, earlier⟩ := List.lookup_eq_some_iff.1 h
  have hbefore : ∀ e ∈ before, e.1 ≠ key := by
    intro e he heq
    simpa [heq] using earlier e he
  have hafter : ∀ e ∈ after, e.1 ≠ key := by
    intro e he heq
    simp only [List.map_append, List.map_cons] at keys
    exact (List.nodup_cons.1 keys.of_append_right).1 (List.mem_map.2 ⟨e, he, heq⟩)
  have others : (before ++ (key, value) :: after).filter (·.1 ≠ key) = before ++ after := by
    rw [List.filter_append, List.filter_cons_of_neg (by simp),
      List.filter_eq_self.2 fun e he => by simpa using hbefore e he,
      List.filter_eq_self.2 fun e he => by simpa using hafter e he]
  rw [others]
  exact List.perm_middle

end Litmus
