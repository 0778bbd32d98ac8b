import Litmus.Engine.Supervision
import Litmus.Proofs.Engine.Progress
import Litmus.Proofs.Tally
import Mathlib.Data.List.Nodup

/-!
Roles that break off. Whatever the bodies do, a role reports at most once, and one that broke off
reports nothing but its fault; so joining the run fails, whichever reports have arrived by then.
-/
namespace Litmus

variable {ω σ : Type} {p : EnginePlan ω σ} {e e' : Engine ω σ} {events : List (Event ω σ)}
  {r i : Nat} {role : Role}

namespace Engine

/-- The next step of a role meets a fault: a body that it calls raises it, or what it observed or
the new pool does not fit. -/
inductive Raises (p : EnginePlan ω σ) (e : Engine ω σ) (r : Nat) (role : Role) : Fault → Prop where
  | acting (place : Nat) (rest : List Nat) (fault : Fault)
      (phase : role.phase = .acting (place :: rest))
      (raised : (e.onPair place (p.test.runActor r)).2 = some fault) : Raises p e r role fault
  | consuming (place : Nat) (rest : List Nat) (fault : Fault)
      (phase : role.phase = .consuming (place :: rest))
      (raised : (e.consume p place role.tally).2 = .error fault) : Raises p e r role fault
  | growing (fault : Fault) (phase : role.phase = .growing)
      (raised : (e.growth p role).2 = .error fault) : Raises p e r role fault

def BreaksOff (p : EnginePlan ω σ) (e : Engine ω σ) (ms : List Move) : Prop :=
  ∃ before r after role fault, ms = before ++ .role r :: after ∧
    (e.run p before).roles[r]? = some role ∧ (e.run p before).Raises p r role fault

/-! ### Reports -/

/-- What a step does to the reports: only a role that reports adds one, and is gone then. -/
inductive Files (e : Engine ω σ) (r : Nat) (role : Role) (e' : Engine ω σ) : Prop where
  | nothing (role' : Role) (roles : e'.roles = e.roles.setIfInBounds r role')
      (exits : e'.exits = e.exits) (gone : role.phase = .gone → role' = role)
  | report (result : RoleEnd) (phase : role.phase = .reporting result)
      (roles : e'.roles = e.roles.setIfInBounds r { role with phase := .gone })
      (exits : e'.exits = e.exits.push ⟨r, result⟩)

theorem Turn.files (step : Turn p e r role e' events) (found : e.roles[r]? = some role) :
    Files e r role e' := by
  cases step with
  | report result phase => exact .report result phase rfl rfl
  | rest =>
      refine .nothing role (Array.ext_getElem? fun i => ?_) rfl fun _ => rfl
      rw [Array.getElem?_setIfInBounds]
      grind
  | consume place rest pair fresh e₁ tally phase _ result _ =>
      have alike := alike_of_consume result
      exact .nothing _ (alike.roles_setRole r _) alike.exits (by simp [phase])
  | consumeBroke place rest pair e₁ fault phase _ result =>
      have alike := alike_of_consume result
      exact .nothing _ (alike.roles_setRole r _) alike.exits (by simp [phase])
  | _ => exact .nothing _ rfl rfl (by simp [*])

/-- Each role reports at most once, when it leaves. -/
structure Filed (p : EnginePlan ω σ) (e : Engine ω σ) : Prop where
  size : e.roles.size = p.size
  gone : ∀ exit ∈ e.exits.toList, ∃ role, e.roles[exit.role]? = some role ∧ role.phase = .gone
  distinct : (e.exits.toList.map Exit.role).Nodup

namespace Filed

theorem ne_of_live (h : Filed p e) (found : e.roles[r]? = some role) (live : role.phase ≠ .gone) :
    ∀ exit ∈ e.exits.toList, exit.role ≠ r := by
  rintro exit mem rfl
  obtain ⟨x, hx, gone⟩ := h.gone exit mem
  obtain rfl : role = x := Option.some.inj (found.symm.trans hx)
  exact live gone

theorem step (h : Filed p e) (found : e.roles[r]? = some role) (files : Files e r role e') :
    Filed p e' := by
  cases files with
  | nothing role' roles exits gone =>
      refine ⟨by rw [roles, Array.size_setIfInBounds, h.size], fun exit mem => ?_,
        by rw [exits]; exact h.distinct⟩
      rw [exits] at mem
      obtain ⟨x, hx, left⟩ := h.gone exit mem
      rw [roles]
      by_cases here : exit.role = r
      · rw [here] at hx
        obtain rfl : role = x := Option.some.inj (found.symm.trans hx)
        exact ⟨role', (role_setRole found).2 (.inl ⟨here, rfl⟩), gone left ▸ left⟩
      · exact ⟨x, (role_setRole found).2 (.inr ⟨here, hx⟩), left⟩
  | report result phase roles exits =>
      have others := h.ne_of_live found (by simp [phase])
      refine ⟨by rw [roles, Array.size_setIfInBounds, h.size], fun exit mem => ?_, ?_⟩
      · rw [exits, Array.toList_push, List.mem_append, List.mem_singleton] at mem
        rw [roles]
        rcases mem with mem | rfl
        · obtain ⟨x, hx, left⟩ := h.gone exit mem
          exact ⟨x, (role_setRole found).2 (.inr ⟨others exit mem, hx⟩), left⟩
        · exact ⟨_, (role_setRole found).2 (.inl ⟨rfl, rfl⟩), rfl⟩
      · rw [exits, Array.toList_push, List.map_append]
        refine h.distinct.append (List.nodup_singleton r) fun i mem here => ?_
        obtain ⟨exit, filed, rfl⟩ := List.mem_map.1 mem
        exact others exit filed (List.mem_singleton.1 here)

theorem launch (p : EnginePlan ω σ) (w : ω) : Filed p (p.launch w) :=
  ⟨Array.size_replicate, fun exit mem => by simp [EnginePlan.launch] at mem, List.nodup_nil⟩

theorem run (h : Filed p e) (ms : List Move) : Filed p (e.run p ms) := by
  refine turn_invariant (P := fun e _ => Filed p e) h ms ?_ ?_
  · intro e tr r role e' events h found step
    exact h.step found (step.files found)
  · intro m mem outside e tr h
    cases m with
    | role r => exact absurd rfl (outside r)
    | stop | abort | tick nanos => exact { h with }

end Filed

end Engine

/-! ### Roles on their way out with a fault -/

/-- The phases of a role that broke off, from then on. -/
def Phase.Failing : Phase → Prop
  | .dying _ | .halting _ | .leaving (.error _) | .reporting (.error _) | .gone => True
  | _ => False

namespace Engine

/-- The role has broken off, and reports nothing but a fault. -/
structure Spoiled (e : Engine ω σ) (r : Nat) : Prop where
  failing : ∃ role, e.roles[r]? = some role ∧ role.phase.Failing
  reports : ∀ exit ∈ e.exits.toList, exit.role = r → ∃ fault, exit.result = .error fault

theorem Turn.failing (step : Turn p e r role e' events) (found : e.roles[r]? = some role)
    (failing : role.phase.Failing) : ∃ role', e'.roles[r]? = some role' ∧ role'.phase.Failing := by
  have here (role' : Role) : (e.roles.setIfInBounds r role')[r]? = some role' :=
    (role_setRole found).2 (.inl ⟨rfl, rfl⟩)
  cases step with
  | die fault phase => exact ⟨_, here _, trivial⟩
  | halt fault phase => exact ⟨_, here _, trivial⟩
  | exit result phase =>
      rw [phase] at failing
      cases result with
      | error fault => exact ⟨_, here _, trivial⟩
      | ok tally => exact failing.elim
  | report result phase => exact ⟨_, here _, trivial⟩
  | rest phase => exact ⟨role, found, failing⟩
  | _ => simp [Phase.Failing, *] at failing

theorem Spoiled.turn (h : Spoiled e i) (found : e.roles[r]? = some role)
    (step : Turn p e r role e' events) : Spoiled e' i := by
  obtain ⟨x, hx, failing⟩ := h.failing
  by_cases here : i = r
  · subst here
    obtain rfl : role = x := Option.some.inj (found.symm.trans hx)
    refine ⟨step.failing found failing, ?_⟩
    cases step.files found with
    | nothing role' roles exits gone =>
        rw [exits]
        exact h.reports
    | report result phase roles exits =>
        rw [exits, Array.toList_push]
        refine List.forall_mem_append.2 ⟨h.reports, List.forall_mem_singleton.2 fun _ => ?_⟩
        rw [phase] at failing
        cases result with
        | error fault => exact ⟨fault, rfl⟩
        | ok tally => exact failing.elim
  · cases step.files found with
    | nothing role' roles exits gone =>
        refine ⟨⟨x, ?_, failing⟩, exits ▸ h.reports⟩
        rw [roles]
        exact (role_setRole found).2 (.inr ⟨here, hx⟩)
    | report result phase roles exits =>
        refine ⟨⟨x, ?_, failing⟩, ?_⟩
        · rw [roles]
          exact (role_setRole found).2 (.inr ⟨here, hx⟩)
        · rw [exits, Array.toList_push]
          exact List.forall_mem_append.2
            ⟨h.reports, List.forall_mem_singleton.2 fun heq => absurd heq.symm here⟩

theorem Spoiled.run (h : Spoiled e r) (ms : List Move) : Spoiled (e.run p ms) r := by
  refine turn_invariant (p := p) (P := fun e _ => Spoiled e r) h ms ?_ ?_
  · intro e tr i role e' events h found step
    exact h.turn found step
  · intro m mem outside e tr h
    cases m with
    | role r => exact absurd rfl (outside r)
    | stop | abort | tick nanos => exact ⟨h.failing, h.reports⟩

theorem Raises.spoiled {fault : Fault} (h : Raises p e r role fault) (filed : Filed p e)
    (found : e.roles[r]? = some role) : Spoiled (e.apply p (.role r)) r := by
  have dead (e₁ : Engine ω σ) (roles : e₁.roles = e.roles) (exits : e₁.exits = e.exits)
      (live : role.phase ≠ .gone) :
      Spoiled (e₁.setRole r { role with phase := .dying fault }) r := by
    refine ⟨⟨{ role with phase := .dying fault }, ?_, trivial⟩, fun exit mem here => ?_⟩
    · change (e₁.roles.setIfInBounds r _)[r]? = _
      rw [roles]
      exact (role_setRole found).2 (.inl ⟨rfl, rfl⟩)
    · have mem : exit ∈ e₁.exits.toList := mem
      rw [exits] at mem
      exact absurd here (filed.ne_of_live found live exit mem)
  rw [apply, found]
  cases h with
  | acting place rest _ phase raised =>
      have alike := alike_onPair e place (p.test.runActor r)
      simp only [stepRole, phase]
      cases called : e.onPair place (p.test.runActor r) with
      | mk e₁ outcome =>
          rw [called] at alike raised
          obtain rfl : outcome = some fault := raised
          exact dead e₁ alike.roles alike.exits (by simp [phase])
  | consuming place rest _ phase raised =>
      have alike := alike_consume p e place role.tally
      simp only [stepRole, phase]
      cases called : e.consume p place role.tally with
      | mk e₁ outcome =>
          rw [called] at alike raised
          obtain rfl : outcome = .error fault := raised
          exact dead e₁ alike.roles alike.exits (by simp [phase])
  | growing _ phase raised =>
      simp only [stepRole, phase, grow_eq]
      cases grown : e.growth p role with
      | mk world outcome =>
          rw [grown] at raised
          obtain rfl : outcome = .error fault := raised
          exact dead { e with world } rfl rfl (by simp [phase])

theorem BreaksOff.spoiled {ms : List Move} (h : BreaksOff p e ms) (filed : Filed p e) :
    ∃ r, Spoiled (e.run p ms) r := by
  obtain ⟨before, r, after, role, fault, rfl, found, raises⟩ := h
  refine ⟨r, ?_⟩
  rw [run_append]
  exact (raises.spoiled (filed.run before) found).run after

end Engine

/-! ### Joining -/

namespace Joining

variable {j : Joining} {exits : List Exit}

theorem pending_pos (unfiled : j.perRole[r]? = some none) : 0 < j.pending :=
  List.countP_pos_iff.2 ⟨none, List.mem_of_getElem? unfiled, rfl⟩

theorem abandon_eq (role : Nat) (fault : Fault) (arriving : List Exit) (left : 0 < j.pending) :
    j.abandon role fault arriving =
      .failed (j.panicked role fault) (drain (j.pending - 1) arriving) := by
  have others : Word.sub j.pending 1 = .ok (j.pending - 1) := Word.sub_eq_ok.2 ⟨left, rfl⟩
  rw [abandon, others]

theorem abandon_failed (role : Nat) (fault : Fault) (arriving : List Exit) (left : 0 < j.pending) :
    ∃ cause missing, j.abandon role fault arriving = .failed cause missing :=
  ⟨_, _, abandon_eq role fault arriving left⟩

theorem collect_failed (unfiled : j.perRole[r]? = some none)
    (reports : ∀ exit ∈ exits, exit.role = r → ∃ fault, exit.result = .error fault) :
    ∃ cause missing, j.collect exits = .failed cause missing := by
  -- The role stays unfiled along the reports: their end finds it missing, and so does a fault.
  induction exits generalizing j with
  | nil =>
      rw [collect, if_neg (Nat.ne_of_gt (pending_pos unfiled))]
      exact ⟨_, _, rfl⟩
  | cons exit exits ih =>
      obtain ⟨here, rest⟩ := List.forall_mem_cons.1 reports
      rw [collect]
      cases result : exit.result with
      | error fault => exact abandon_failed _ _ _ (pending_pos unfiled)
      | ok tally =>
          have other : exit.role ≠ r := fun heq => by
            obtain ⟨fault, broke⟩ := here heq
            simp [broke] at result
          refine ih ?_ rest
          rw [List.getElem?_set_ne other, unfiled]

/-- Nothing but a count that does not fit breaks a join off. -/
theorem collect_broken {fault : Fault}
    (unfiled : ∀ exit ∈ exits, j.perRole[exit.role]? = some none)
    (distinct : (exits.map Exit.role).Nodup) (broken : j.collect exits = .broken fault) :
    fault = .addOverflow := by
  induction exits generalizing j with
  | nil =>
      rw [collect] at broken
      split at broken
      · cases merged : j.merge with
        | ok tally => simp [merged] at broken
        | error fault' =>
            obtain rfl : fault' = fault := by simpa [merged] using broken
            obtain ⟨_, _, together⟩ := Tally.foldlM_eq_error merged
            exact Tally.merge_eq_error together
      · simp at broken
  | cons exit exits ih =>
      obtain ⟨here, rest⟩ := List.forall_mem_cons.1 unfiled
      obtain ⟨new, distinct⟩ := List.nodup_cons.1 distinct
      rw [collect] at broken
      cases result : exit.result with
      | error fault' =>
          obtain ⟨cause, missing, failed⟩ :=
            abandon_failed exit.role fault' exits (pending_pos here)
          simp [result, failed] at broken
      | ok tally =>
          rw [result] at broken
          refine ih (fun later mem => ?_) distinct broken
          have other : exit.role ≠ later.role := fun heq =>
            new (heq ▸ List.mem_map_of_mem mem)
          rw [List.getElem?_set_ne other]
          exact rest later mem

end Joining

/-! ### Joining a run -/

namespace EnginePlan

open Engine

theorem getElem?_start {test : String} {actors : List String} (inside : i < actors.length) :
    (Joining.start test actors).perRole[i]? = some none := by
  simp [Joining.start, inside]

/-- Joining a run in which some role met a fault fails, whenever it is joined. -/
theorem join_failed {ms : List Move} (filed : Filed p e) (broke : BreaksOff p e ms) :
    ∃ cause missing, p.join (e.run p ms) = .failed cause missing := by
  obtain ⟨r, spoiled⟩ := broke.spoiled filed
  obtain ⟨role, found, -⟩ := spoiled.failing
  have inside : r < p.size := by
    rw [← (filed.run ms).size]
    exact (Array.getElem?_eq_some_iff.1 found).1
  exact Joining.collect_failed (getElem?_start (by simpa [size, StressTest.size] using inside))
    spoiled.reports

theorem join_broken {ms : List Move} {fault : Fault} (filed : Filed p e)
    (broken : p.join (e.run p ms) = .broken fault) : fault = .addOverflow := by
  have late := filed.run ms
  refine Joining.collect_broken (fun exit mem => getElem?_start ?_) late.distinct broken
  obtain ⟨role, found, -⟩ := late.gone exit mem
  have inside := (Array.getElem?_eq_some_iff.1 found).1
  rw [late.size] at inside
  simpa [size, StressTest.size] using inside

end EnginePlan

end Litmus
