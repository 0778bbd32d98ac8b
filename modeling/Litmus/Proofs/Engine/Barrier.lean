import Litmus.Proofs.Engine.Visits

/-!
What the gates and the barrier keep apart: while a role consumes, no actor runs; no pair is
consumed twice in a round; and while a role publishes the next round, no actor runs and no pair is
consumed. A role that gave up at a gate takes no part any more.
-/
namespace Litmus

variable {ω σ : Type} {p : EnginePlan ω σ} {e e' : Engine ω σ} {tr events : List (Event ω σ)}
  {r i k : Nat} {role role' other : Role}

namespace Role

/-- A role inside its pass over the pairs. -/
def Acts (role : Role) : Prop := ∃ rest, role.phase = .acting rest

/-- A role inside its slice. -/
def Consumes (role : Role) : Prop := ∃ rest, role.phase = .consuming rest

/-- A role that makes the next round and has not made it the current one yet. -/
def Publishes (role : Role) : Prop :=
  role.phase = .growing ∨ (∃ view, role.phase = .sampling view) ∨
    ∃ view stopped, role.phase = .storing view stopped

theorem Acts.stage (h : role.Acts) : role.phase.stage = 5 := by
  obtain ⟨rest, phase⟩ := h
  rw [phase]
  rfl

theorem Consumes.stage (h : role.Consumes) : role.phase.stage = 9 := by
  obtain ⟨rest, phase⟩ := h
  rw [phase]
  rfl

theorem Publishes.closes (h : role.Publishes) : role.Closes := by
  rw [Closes, Live]
  rcases h with phase | ⟨view, phase⟩ | ⟨view, stopped, phase⟩
  all_goals
    rw [phase]
    simp [Phase.stage]

end Role

/-! ### Roles that are out -/

/-- Whether a role has left, given up or broken off. -/
def Engine.Out (e : Engine ω σ) (r : Nat) : Prop :=
  ∃ role : Role, e.roles[r]? = some role ∧ role.phase.stage = 14

/-- A step replaces one role; a role that is out stays so. -/
theorem Engine.Turn.roles_eq (found : e.roles[r]? = some role)
    (step : Engine.Turn p e r role e' events) :
    ∃ role', e'.roles = e.roles.setIfInBounds r role' ∧
      (role.phase.stage = 14 → role'.phase.stage = 14) := by
  cases step with
  | miss gate phase => exact ⟨_, rfl, by cases gate <;> simp [phase, Phase.stage]⟩
  | retry gate phase => exact ⟨_, rfl, by cases gate <;> simp [phase, Phase.stage]⟩
  | consume place rest pair fresh e₁ tally phase _ result _ =>
      have alike := Engine.alike_of_consume result
      refine ⟨_, alike.roles_setRole r _, ?_⟩
      simp [phase, Phase.stage]
  | consumeBroke place rest pair e₁ fault phase _ result =>
      have alike := Engine.alike_of_consume result
      exact ⟨_, alike.roles_setRole r _, fun _ => rfl⟩
  | rest =>
      refine ⟨role, Array.ext_getElem? fun j => ?_, id⟩
      obtain ⟨inside, heq⟩ := Array.getElem?_eq_some_iff.1 found
      rw [Array.getElem?_setIfInBounds]
      split
      case isTrue hj =>
        subst hj
        simp [inside, heq]
      case isFalse => rfl
  | _ => exact ⟨_, rfl, by simp [*, Phase.stage]⟩

theorem Engine.Turn.idle (step : Engine.Turn p e r role e' events) (stage : role.phase.stage = 14)
    (k : Nat) : actedBy events r k = [] ∧ consumedBy events r k = [] := by
  cases step with
  | act place rest pair phase => simp [phase, Phase.stage] at stage
  | actBroke place rest pair fault phase => simp [phase, Phase.stage] at stage
  | consume place rest pair fresh e₁ tally phase => simp [phase, Phase.stage] at stage
  | consumeBroke place rest pair e₁ fault phase => simp [phase, Phase.stage] at stage
  | grow world view arena phase => simp [phase, Phase.stage] at stage
  | _ => exact ⟨by simp [actedBy], by simp [consumedBy]⟩

theorem Engine.Out.turn (h : e.Out i) (found : e.roles[r]? = some role)
    (step : Engine.Turn p e r role e' events) : e'.Out i := by
  obtain ⟨role', roles, stays⟩ := step.roles_eq found
  obtain ⟨x, hx, stage⟩ := h
  unfold Engine.Out
  rw [roles]
  by_cases hi : i = r
  · subst hi
    obtain rfl : role = x := Option.some.inj (found.symm.trans hx)
    exact ⟨role', (Engine.role_setRole found).2 (.inl ⟨rfl, rfl⟩), stays stage⟩
  · exact ⟨x, (Engine.role_setRole found).2 (.inr ⟨hi, hx⟩), stage⟩

theorem Engine.Out.still (h : e.Out i) {m : Engine.Move} (outside : ∀ r, m ≠ .role r) :
    (e.apply p m).Out i := by
  cases m with
  | role r => exact absurd rfl (outside r)
  | stop => exact h
  | abort => exact h
  | tick nanos => exact h

/-- A role that is out calls no actor and consumes nothing. -/
theorem Engine.Out.visits (h : e.Out i) (ms : List Engine.Move) (k : Nat) :
    actedBy (e.trace p ms) i k = [] ∧ consumedBy (e.trace p ms) i k = [] := by
  have kept : (e.run p ms).Out i ∧
      actedBy (e.trace p ms) i k = [] ∧ consumedBy (e.trace p ms) i k = [] := by
    refine Engine.turn_invariant (P := fun e tr => e.Out i ∧ actedBy tr i k = [] ∧
      consumedBy tr i k = []) ⟨h, rfl, rfl⟩ ms ?_ ?_
    · intro e tr r role e' events ⟨out, acted, consumed⟩ found step
      refine ⟨out.turn found step, ?_⟩
      rw [actedBy_append, consumedBy_append, acted, consumed]
      by_cases hi : i = r
      · subst hi
        obtain ⟨x, hx, stage⟩ := out
        obtain rfl : role = x := Option.some.inj (found.symm.trans hx)
        exact step.idle stage k
      · exact ⟨step.ofRole.acted i k hi, step.ofRole.consumed i k hi⟩
    · exact fun m _ outside e tr h => ⟨h.1.still outside, h.2⟩
  exact kept.2

/-- A role that gave up at a gate is out. -/
theorem out_of_gaveUp (p : EnginePlan ω σ) (w : ω) (ms : List Engine.Move)
    (h : .gaveUp r ∈ (p.launch w).trace p ms) : ((p.launch w).run p ms).Out r := by
  refine Engine.turn_invariant (P := fun e tr => .gaveUp r ∈ tr → e.Out r) (by simp) ms
    ?_ (fun m _ outside e tr h gave => (h gave).still outside) h
  intro e tr i role e' events kept found step gave
  cases List.mem_append.1 gave with
  | inl gave => exact (kept gave).turn found step
  | inr gave =>
      cases step with
      | giveUp gate phase aborted =>
          obtain rfl := Event.gaveUp.inj (List.mem_singleton.1 gave)
          exact ⟨_, (Engine.role_setRole found).2 (.inl ⟨rfl, rfl⟩), rfl⟩
      | grow => simp [madeFrom] at gave
      | _ => simp at gave

/-! ### The barrier -/

/-- What roles do not do at the same time, or twice in one round. The pairs of a view are told
apart by their places, which are their indices. -/
structure Exclusive (p : EnginePlan ω σ) (e : Engine ω σ) (tr : List (Event ω σ)) : Prop where
  consuming : ∀ (r i : Nat) (role other : Role), e.roles[r]? = some role →
    e.roles[i]? = some other → role.Consumes → ¬ other.Acts
  publishing : ∀ (r i : Nat) (role other : Role), e.roles[r]? = some role →
    e.roles[i]? = some other → role.Publishes → ¬ other.Acts ∧ ¬ other.Consumes
  indexed : ∀ k, (e.roundAt k).view.places = List.range (e.roundAt k).view.size
  apart : ∀ k r i place, place ∈ consumedBy tr r k → place ∈ consumedBy tr i k → r = i
  once : ∀ k r, (consumedBy tr r k).Nodup
  gaveUp : ∀ r, .gaveUp r ∈ tr → ∀ later k, consumedBy (e.trace p later) r k = []

theorem Lockstep.consuming_excludes (h : Lockstep p e tr) (found : e.roles[r]? = some role)
    (found' : e.roles[i]? = some other) (consumes : role.Consumes) : ¬ other.Acts := by
  intro acts
  have stage := consumes.stage
  have stage' := acts.stage
  have cleared : .passed r .cleared role.round ∈ tr :=
    h.passed found (by rw [stage]; decide) (by omega)
  have departed := h.cleared r _ cleared i (h.lt_size found')
  rw [h.holds_lap found (by omega), ← h.holds_lap found' (by omega)] at departed
  exact h.not_passed found' (by rw [stage']; decide) departed

theorem Lockstep.publishing_excludes (h : Lockstep p e tr) (found : e.roles[r]? = some role)
    (found' : e.roles[i]? = some other) (publishes : role.Publishes) :
    ¬ other.Acts ∧ ¬ other.Consumes := by
  have closes := publishes.closes
  have full := ((h.stations r role found closes.2).last closes.1).2
  have finished := h.passed_of_length full (h.lt_size found')
  have apart {s : Nat} (stage : other.phase.stage = s) (between : 1 < s ∧ s ≤ 9) : False := by
    rw [← h.holds_lap found' (by omega)] at finished
    exact h.not_passed found' (by rw [stage]; exact between) finished
  exact ⟨fun acts => apart acts.stage (by decide), fun consumes => apart consumes.stage (by decide)⟩

/-- In every run, whatever the roles and bodies do and whenever it is stopped or aborted. -/
theorem barrier_excludes (p : EnginePlan ω σ) (w : ω) (ms : List Engine.Move) :
    Exclusive p ((p.launch w).run p ms) ((p.launch w).trace p ms) := by
  have lock := lockstep p w ms
  have kept := books p w ms
  have seen := visits p w ms
  refine ⟨?_, ?_, kept.flat, ?_, ?_, ?_⟩
  · exact fun r i role other found found' => lock.consuming_excludes found found'
  · exact fun r i role other found found' => lock.publishing_excludes found found'
  · intro k r i place hr hi
    exact slice_disjoint (kept.flat k) ((seen.begun r k).subset hr) ((seen.begun i k).subset hi)
  · exact fun k r => (slice_nodup (kept.flat k) r).sublist (seen.begun r k).sublist
  · exact fun r gave later k => ((out_of_gaveUp p w ms gave).visits later k).2

end Litmus
