import Litmus.Engine.Supervision
import Litmus.Proofs.Engine.Breaks
import Litmus.Proofs.Engine.Calm

/-!
The reports of the roles, and what joining makes of them: if every role has reported its own tally,
then joining merges the tallies of all roles.
-/
namespace Litmus

/-! ### Joining -/

namespace Joining

variable {j : Joining} {exits : List Exit} {n : Nat} {tallyOf : Nat → Tally Outcome}

/-- The tallies by role after each of some reports has been filed. -/
def filed (tallyOf : Nat → Tally Outcome) (exits : List Exit)
    (perRole : List (Option (Tally Outcome))) : List (Option (Tally Outcome)) :=
  exits.foldl (fun perRole exit => perRole.set exit.role (some (tallyOf exit.role))) perRole

theorem filed_cons (exit : Exit) (perRole : List (Option (Tally Outcome))) :
    filed tallyOf (exit :: exits) perRole =
      filed tallyOf exits (perRole.set exit.role (some (tallyOf exit.role))) :=
  rfl

theorem collect_cons_ok {exit : Exit} {tally : Tally Outcome} (h : exit.result = .ok tally) :
    j.collect (exit :: exits) =
      { j with perRole := j.perRole.set exit.role (some tally) }.collect exits := by
  simp only [collect, h]

theorem collect_append_ok (ok : ∀ exit ∈ exits, exit.result = .ok (tallyOf exit.role))
    (later : List Exit) : j.collect (exits ++ later) =
      { j with perRole := filed tallyOf exits j.perRole }.collect later := by
  induction exits generalizing j with
  | nil => rfl
  | cons exit exits ih =>
      rw [List.cons_append, collect_cons_ok (ok exit List.mem_cons_self)]
      exact ih fun exit hexit => ok exit (List.mem_cons_of_mem _ hexit)

theorem collect_ok (ok : ∀ exit ∈ exits, exit.result = .ok (tallyOf exit.role)) :
    j.collect exits = { j with perRole := filed tallyOf exits j.perRole }.collect [] := by
  rw [← collect_append_ok ok, List.append_nil]

theorem length_filed (exits : List Exit) (perRole : List (Option (Tally Outcome))) :
    (filed tallyOf exits perRole).length = perRole.length := by
  induction exits generalizing perRole with
  | nil => rfl
  | cons exit exits ih => rw [filed_cons, ih, List.length_set]

theorem getElem?_filed {i : Nat} {perRole : List (Option (Tally Outcome))}
    (hi : i < perRole.length) : (filed tallyOf exits perRole)[i]? =
      if i ∈ exits.map Exit.role then some (some (tallyOf i)) else perRole[i]? := by
  induction exits generalizing perRole with
  | nil => rfl
  | cons exit exits ih =>
      rw [filed_cons, ih (by rwa [List.length_set]), List.map_cons]
      by_cases later : i ∈ exits.map Exit.role
      · rw [if_pos later, if_pos (List.mem_cons_of_mem _ later)]
      · rw [if_neg later]
        by_cases here : i = exit.role
        · subst here
          rw [if_pos List.mem_cons_self, List.getElem?_set_self hi]
        · have absent : i ∉ exit.role :: exits.map Exit.role := by simp [here, later]
          rw [if_neg absent, List.getElem?_set_ne (Ne.symm here)]

/-- Those roles have a tally that have reported. -/
theorem filed_replicate (n : Nat) : filed tallyOf exits (List.replicate n none) =
    (List.range n).map fun r => if r ∈ exits.map Exit.role then some (tallyOf r) else none := by
  refine List.ext_getElem? fun i => ?_
  by_cases hi : i < n
  · rw [getElem?_filed (by simpa using hi)]
    by_cases reported : i ∈ exits.map Exit.role
    · rw [if_pos reported, List.getElem?_map, List.getElem?_range hi, Option.map_some,
        if_pos reported]
    · rw [if_neg reported, List.getElem?_map, List.getElem?_range hi, Option.map_some,
        if_neg reported, List.getElem?_replicate, if_pos hi]
  · rw [List.getElem?_eq_none (by rw [length_filed]; simpa using hi),
      List.getElem?_eq_none (by simpa using hi)]

/-- When each role has reported once, every role has its tally. -/
theorem filed_eq (all : (exits.map Exit.role).Perm (List.range n)) :
    filed tallyOf exits (List.replicate n none) =
      (List.range n).map fun r => some (tallyOf r) := by
  rw [filed_replicate]
  exact List.map_congr_left fun r hr => if_pos (all.mem_iff.2 hr)

/-- Joining merges the tallies of all roles. -/
theorem collect_eq_merged {test : String} {actors : List String} {merged : Tally Outcome}
    (ok : ∀ exit ∈ exits, exit.result = .ok (tallyOf exit.role))
    (all : (exits.map Exit.role).Perm (List.range actors.length))
    (merges : ((List.range actors.length).map tallyOf).foldlM Tally.merge .empty = .ok merged) :
    (start test actors).collect exits = .merged merged := by
  have none : ((List.range actors.length).map fun r => some (tallyOf r)).countP Option.isNone =
      0 := by
    simp [List.countP_eq_zero]
  have tallies : ((List.range actors.length).map fun r => some (tallyOf r)).filterMap id =
      (List.range actors.length).map tallyOf := by
    rw [List.filterMap_map]
    exact congrFun List.filterMap_eq_map' _
  have perRole : filed tallyOf exits (start test actors).perRole =
      (List.range actors.length).map fun r => some (tallyOf r) := filed_eq all
  rw [collect_ok ok, perRole, collect, pending, none, if_pos rfl, merge, tallies, merges]

end Joining

/-! ### Reports -/

variable {ω σ : Type} {p : EnginePlan ω σ} {e e' : Engine ω σ} {tr events : List (Event ω σ)}
  {r : Nat} {role role' : Role}

/-- Each role reports once, after it has left, what it observed itself. -/
structure Reports (e : Engine ω σ) : Prop where
  gone : ∀ exit ∈ e.exits.toList, ∃ role, e.roles[exit.role]? = some role ∧ role.phase = .gone ∧
    exit.result = .ok role.tally
  distinct : (e.exits.toList.map Exit.role).Nodup

namespace Reports

theorem ne_of_live (h : Reports e) (found : e.roles[r]? = some role) (live : role.phase ≠ .gone) :
    ∀ exit ∈ e.exits.toList, exit.role ≠ r := by
  rintro exit mem rfl
  obtain ⟨x, hx, gone, -⟩ := h.gone exit mem
  obtain rfl : role = x := Option.some.inj (found.symm.trans hx)
  exact live gone

theorem turn (h : Reports e) (sound : Sound p e tr) (found : e.roles[r]? = some role)
    (step : Engine.Turn p e r role e' events) : Reports e' := by
  cases step.files found with
  | nothing role' roles exits gone =>
      refine ⟨fun exit hexit => ?_, by rw [exits]; exact h.distinct⟩
      rw [exits] at hexit
      obtain ⟨x, hx, left, result⟩ := h.gone exit hexit
      rw [roles]
      by_cases here : exit.role = r
      · rw [here] at hx
        obtain rfl : role = x := Option.some.inj (found.symm.trans hx)
        exact ⟨role, (Engine.role_setRole found).2 (.inl ⟨here, (gone left).symm⟩), left, result⟩
      · exact ⟨x, (Engine.role_setRole found).2 (.inr ⟨here, hx⟩), left, result⟩
  | report result phase roles exits =>
      have well := sound.well r role found
      simp only [Role.Well, phase] at well
      have others := h.ne_of_live found (by simp [phase])
      refine ⟨fun exit hexit => ?_, ?_⟩
      · rw [exits, Array.toList_push, List.mem_append, List.mem_singleton] at hexit
        rw [roles]
        rcases hexit with hexit | rfl
        · obtain ⟨x, hx, gone, reported⟩ := h.gone exit hexit
          exact ⟨x, (Engine.role_setRole found).2 (.inr ⟨others exit hexit, hx⟩), gone, reported⟩
        · exact ⟨_, (Engine.role_setRole found).2 (.inl ⟨rfl, rfl⟩), rfl, well⟩
      · rw [exits, Array.toList_push, List.map_append]
        refine h.distinct.append (List.nodup_singleton r) fun i hi hr => ?_
        obtain ⟨exit, hexit, rfl⟩ := List.mem_map.1 hi
        exact others exit hexit (List.mem_singleton.1 hr)

theorem still (h : Reports e) {m : Engine.Move} (outside : ∀ r, m ≠ .role r) :
    Reports (e.apply p m) := by
  cases m with
  | role r => exact absurd rfl (outside r)
  | stop => exact { h with }
  | abort => exact { h with }
  | tick nanos => exact { h with }

theorem launch (p : EnginePlan ω σ) (w : ω) : Reports (p.launch w) :=
  ⟨fun exit hexit => by simp [EnginePlan.launch] at hexit, List.nodup_nil⟩

end Reports

end Litmus
