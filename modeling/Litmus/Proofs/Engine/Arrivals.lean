import Litmus.Proofs.Engine.Reports
import Litmus.Proofs.Tally.Laws

/-!
Joining a run whose roles report in any order. If every role reports a tally, the order does not
matter. If some role reports a fault, the first such report to arrive decides how joining ends, and
joining waits for exactly those reports that are still to come: each role reports once, so there are
as many of them as there are roles without a tally, less the one that broke off.
-/
namespace Litmus

/-- What a role observed, as far as it reports it. -/
def RoleEnd.observed : RoleEnd → Tally Outcome
  | .ok tally => tally
  | .error _ => .empty

namespace Joining

variable {test actor : String} {actors : List String} {results : Nat → RoleEnd}
  {order before rest : List Nat} {r : Nat} {fault : Fault}

/-- The reports of the roles, in the order in which they arrive. -/
def arrivals (results : Nat → RoleEnd) (order : List Nat) : List Exit :=
  order.map fun r => ⟨r, results r⟩

/-- A join when some roles have reported what they observed. -/
def reported (test : String) (actors : List String) (results : Nat → RoleEnd)
    (before : List Nat) : Joining :=
  { test, actors
    perRole := (List.range actors.length).map fun r =>
      if r ∈ before then some (results r).observed else none }

theorem roles_arrivals (results : Nat → RoleEnd) (order : List Nat) :
    (arrivals results order).map Exit.role = order := by
  rw [arrivals, List.map_map]
  exact List.map_id' order

theorem ok_of_mem_arrivals (ok : ∀ i ∈ order, ∃ tally, results i = .ok tally) :
    ∀ exit ∈ arrivals results order,
      exit.result = .ok ((RoleEnd.observed ∘ results) exit.role) := by
  intro exit mem
  obtain ⟨i, hi, rfl⟩ := List.mem_map.1 mem
  obtain ⟨tally, result⟩ := ok i hi
  change results i = .ok (results i).observed
  rw [result]
  rfl

/-! ### All roles report what they observed -/

theorem yields_merge_all (actors : Nat)
    (made : ∀ r < actors, ∀ tally, results r = .ok tally → tally.Reachable)
    (ok : ∀ r < actors, ∃ tally, results r = .ok tally) :
    Tally.Yields
      (fun key => ((List.range actors).map fun r => (results r).observed.count key).sum)
      (((List.range actors).map fun r => (results r).observed).foldlM Tally.merge .empty) := by
  have steps : ∀ tally ∈ (List.range actors).map fun r => (results r).observed,
      ∀ t : Tally Outcome, t.WellFormed →
        Tally.Yields (fun key => t.count key + tally.count key) (t.merge tally) := by
    intro tally mem t well
    obtain ⟨r, hr, rfl⟩ := List.mem_map.1 mem
    obtain ⟨tally, result⟩ := ok r (List.mem_range.1 hr)
    obtain ⟨obs, gathers⟩ := made r (List.mem_range.1 hr) tally result
    rw [result]
    exact Tally.yields_merge well gathers.counts.1
  have all := Tally.yields_foldlM steps Tally.wellFormed_empty
  simpa only [Tally.count_empty, Nat.zero_add, List.map_map, Function.comp_def] using all

/-- Tallies are merged in the order of the roles, whatever the order of the reports is. -/
theorem exists_merged
    (made : ∀ r < actors.length, ∀ tally, results r = .ok tally → tally.Reachable)
    (ok : ∀ r < actors.length, ∃ tally, results r = .ok tally)
    (fits : ∀ key, ((List.range actors.length).map fun r =>
      (results r).observed.count key).sum < Word.bound) :
    ∃ merged : Tally Outcome,
      (∀ key, merged.count key = ((List.range actors.length).map fun r =>
        (results r).observed.count key).sum) ∧
      ∀ order, order.Perm (List.range actors.length) →
        (start test actors).collect (arrivals results order) = .merged merged := by
  have yields := yields_merge_all actors.length made ok
  obtain ⟨merged, merges⟩ := yields.defined_iff.2 fits
  refine ⟨merged, (merges ▸ yields).of_ok.2, fun order all => ?_⟩
  have member {i : Nat} (hi : i ∈ order) : i < actors.length :=
    List.mem_range.1 (all.mem_iff.1 hi)
  refine collect_eq_merged (ok_of_mem_arrivals fun i hi => ok i (member hi)) ?_ merges
  rwa [roles_arrivals]

/-! ### Some role reports a fault -/

theorem exists_first_fault (bad : ∃ i ∈ order, ∃ fault, results i = .error fault) :
    ∃ before r fault rest, order = before ++ r :: rest ∧
      (∀ i ∈ before, ∃ tally, results i = .ok tally) ∧ results r = .error fault := by
  induction order with
  | nil =>
      obtain ⟨i, mem, -⟩ := bad
      exact absurd mem List.not_mem_nil
  | cons r rest ih =>
      cases result : results r with
      | error fault => exact ⟨[], r, fault, rest, rfl, List.forall_mem_nil _, result⟩
      | ok tally =>
          have later : ∃ i ∈ rest, ∃ fault, results i = .error fault := by
            obtain ⟨i, mem, fault, broke⟩ := bad
            rcases List.mem_cons.1 mem with rfl | mem
            · exact nomatch result.symm.trans broke
            · exact ⟨i, mem, fault, broke⟩
          obtain ⟨before, first, fault, others, rfl, earlier, broke⟩ := ih later
          exact ⟨r :: before, first, fault, others, rfl,
            List.forall_mem_cons.2 ⟨⟨tally, result⟩, earlier⟩, broke⟩

theorem collect_arrivals (ok : ∀ i ∈ before, ∃ tally, results i = .ok tally)
    (later : List Exit) : (start test actors).collect (arrivals results before ++ later) =
      (reported test actors results before).collect later := by
  rw [collect_append_ok (ok_of_mem_arrivals ok), start, filed_replicate, roles_arrivals]
  rfl

/-- As each role reports once, the roles without a tally are those still to come. -/
theorem pending_reported (all : (before ++ rest).Perm (List.range actors.length)) :
    (reported test actors results before).pending = rest.length := by
  have distinct := List.nodup_append.1 (all.nodup_iff.2 List.nodup_range)
  have missing : (reported test actors results before).pending =
      (List.range actors.length).countP (· ∉ before) := by
    rw [pending, reported, List.countP_map]
    refine List.countP_congr fun r _ => ?_
    by_cases mem : r ∈ before <;> simp [mem]
  have none : before.countP (· ∉ before) = 0 := by
    simp [List.countP_eq_zero]
  have others : rest.countP (· ∉ before) = rest.length :=
    List.countP_eq_length.2 fun i hi => decide_eq_true fun mem => distinct.2.2 i mem i hi rfl
  rw [missing, ← all.countP_eq, List.countP_append, none, others, Nat.zero_add]

theorem abandon_reported (all : (before ++ r :: rest).Perm (List.range actors.length))
    (named : actors[r]? = some actor) (later : List Exit) :
    (reported test actors results before).abandon r fault later =
      .failed (.actorPanicked r actor fault.message) (rest.length - later.length) := by
  have pending : (reported test actors results before).pending = rest.length + 1 :=
    pending_reported all
  rw [abandon_eq r fault later (by omega), pending, Nat.add_sub_cancel, drain, panicked]
  simp only [reported, named, Option.getD_some]

/-- The report of a role tells of a fault, and those before it do not; so it decides how joining
ends. -/
structure FirstFault (test : String) (actors : List String) (results : Nat → RoleEnd)
    (before : List Nat) (r : Nat) (rest : List Nat) (actor : String) (fault : Fault) : Prop where
  earlier : ∀ i ∈ before, ∃ tally, results i = .ok tally
  first : results r = .error fault
  named : actors[r]? = some actor
  counted : before.length + 1 + rest.length = actors.length
  /-- When it arrives, the join has what the roles before it observed. -/
  reached : ∀ later, (start test actors).collect (arrivals results before ++ later) =
    (reported test actors results before).collect later
  /-- The roles without a tally, less the one that broke off, are those still to come. -/
  awaits : Word.sub (reported test actors results before).pending 1 = .ok rest.length
  /-- In the end no report is missing. -/
  ends : (start test actors).collect (arrivals results (before ++ r :: rest)) =
    .failed (.actorPanicked r actor fault.message) 0
  /-- Joining then waits for all others: those that have not arrived are missing, whatever their
  number is. -/
  waits : ∀ n ≤ rest.length,
    (start test actors).collect (arrivals results (before ++ r :: rest.take n)) =
      .failed (.actorPanicked r actor fault.message) (rest.length - n)

theorem firstFault (all : (before ++ r :: rest).Perm (List.range actors.length))
    (earlier : ∀ i ∈ before, ∃ tally, results i = .ok tally) (first : results r = .error fault) :
    ∃ actor, FirstFault test actors results before r rest actor fault := by
  have member : r < actors.length :=
    List.mem_range.1 (all.mem_iff.1 (List.mem_append_right before List.mem_cons_self))
  have named : actors[r]? = some actors[r] := List.getElem?_eq_getElem member
  have collects (later : List Nat) :
      (start test actors).collect (arrivals results (before ++ r :: later)) =
        .failed (.actorPanicked r actors[r] fault.message) (rest.length - later.length) := by
    rw [arrivals, List.map_append, ← arrivals, collect_arrivals earlier, List.map_cons, collect]
    simp only [first]
    rw [abandon_reported all named, List.length_map]
  refine ⟨actors[r], earlier, first, named, ?_, collect_arrivals earlier, ?_, ?_, fun n hn => ?_⟩
  · have length := all.length_eq
    rw [List.length_append, List.length_cons, List.length_range] at length
    omega
  · rw [pending_reported all, List.length_cons]
    exact Word.sub_eq_ok.2 ⟨Nat.le_add_left 1 _, Nat.add_sub_cancel _ 1⟩
  · rw [collects, Nat.sub_self]
  · rw [collects, List.length_take, Nat.min_eq_left hn]

/-- In whatever order the roles report: if all report a tally, joining merges what they observed,
always to the same tally; and if some report a fault, joining tells of the first one to arrive when
all others have arrived, and not before. -/
theorem collect_any_order
    (made : ∀ r < actors.length, ∀ tally, results r = .ok tally → tally.Reachable) :
    ((∀ r < actors.length, ∃ tally, results r = .ok tally) →
      (∀ key, ((List.range actors.length).map fun r =>
        (results r).observed.count key).sum < Word.bound) →
      ∃ merged : Tally Outcome,
        (∀ key, merged.count key = ((List.range actors.length).map fun r =>
          (results r).observed.count key).sum) ∧
        ∀ order, order.Perm (List.range actors.length) →
          (start test actors).collect (arrivals results order) = .merged merged) ∧
      ((∃ r < actors.length, ∃ fault, results r = .error fault) →
        ∀ order, order.Perm (List.range actors.length) →
          ∃ before r rest actor fault, order = before ++ r :: rest ∧
            FirstFault test actors results before r rest actor fault) := by
  refine ⟨fun ok fits => exists_merged made ok fits, fun ⟨i, member, bad⟩ order all => ?_⟩
  have arrives := all.mem_iff.2 (List.mem_range.2 member)
  obtain ⟨before, r, fault, rest, rfl, earlier, first⟩ := exists_first_fault ⟨i, arrives, bad⟩
  obtain ⟨actor, decides⟩ := firstFault all earlier first
  exact ⟨before, r, rest, actor, fault, rfl, decides⟩

/-- A role that saw one pair whose slots nobody had written. -/
def idleEnd : RoleEnd := .ok ⟨[(.blank 1, 1)]⟩

theorem collect_any_order_pair :
    (∃ merged : Tally Outcome, merged.count (.blank 1) = 2 ∧
      (start "pair" ["a", "b"]).collect (arrivals (fun _ => idleEnd) [0, 1]) = .merged merged ∧
      (start "pair" ["a", "b"]).collect (arrivals (fun _ => idleEnd) [1, 0]) = .merged merged) ∧
    ∃ before r rest actor fault, [1, 0] = before ++ r :: rest ∧
      FirstFault "pair" ["a", "b"] (fun r => if r = 1 then .error .wordless else idleEnd)
        before r rest actor fault := by
  have made : Tally.ofList [Outcome.blank 1] = .ok ⟨[(.blank 1, 1)]⟩ := rfl
  have once : Tally.Reachable ⟨[(Outcome.blank 1, 1)]⟩ := ⟨_, .ofList made⟩
  have swapped : [1, 0].Perm (List.range 2) := .swap 0 1 []
  obtain ⟨merges, -⟩ := @collect_any_order "pair" ["a", "b"] (fun _ => idleEnd)
    fun _ _ _ same => Except.ok.inj same ▸ once
  have fits (key : Outcome) : ((List.range 2).map fun _ =>
      idleEnd.observed.count key).sum < Word.bound := by
    change idleEnd.observed.count key + (idleEnd.observed.count key + 0) < Word.bound
    have small : idleEnd.observed.count key ≤ 1 := by
      change (if Outcome.blank 1 = key then 1 else 0) ≤ 1
      split <;> decide
    have room : 2 < Word.bound := by decide
    omega
  obtain ⟨merged, counts, orders⟩ := merges (fun _ _ => ⟨_, rfl⟩) fits
  obtain ⟨-, decides⟩ := @collect_any_order "pair" ["a", "b"]
    (fun r => if r = 1 then .error .wordless else idleEnd) (by
      intro r _ tally same
      split at same
      · exact nomatch same
      · exact Except.ok.inj same ▸ once)
  exact ⟨⟨merged, counts _, orders _ (.refl _), orders _ swapped⟩,
    decides ⟨1, by decide, _, rfl⟩ _ swapped⟩

end Joining
end Litmus
