import Litmus.Proofs.Engine.Barrier

/-!
How a run ends: once the current round is a stopped one, no role is in a round any more. Those
that are not out are at the barrier or read the current round, and each of them leaves after a few
more steps of its own.
-/
namespace Litmus

variable {ω σ : Type} {p : EnginePlan ω σ} {e e' : Engine ω σ} {tr events : List (Event ω σ)}
  {r i k : Nat} {role role' : Role}

theorem Lockstep.stage_of_stopped (h : Lockstep p e tr)
    (stopped : (e.roundAt e.current).stopped = true) (found : e.roles[r]? = some role) :
    role.phase.stage = 0 ∨ role.phase.stage = 1 ∨ role.phase.stage = 13 ∨
      role.phase.stage = 14 := by
  have bound : role.phase.stage ≤ 14 := by
    cases role.phase with
    | waiting gate missed => cases gate <;> simp [Phase.stage]
    | _ => simp [Phase.stage]
  by_cases live : role.Live
  case neg =>
    rw [Role.Live] at live
    omega
  by_cases ready : e.Ready
  · obtain ⟨i, other, found', stage⟩ := ready
    have closes : other.Closes := by
      rw [Role.Closes, Role.Live]
      omega
    by_cases hi : r = i
    · subst hi
      obtain rfl : other = role := Option.some.inj (found'.symm.trans found)
      exact .inr (.inr (.inl stage))
    · exact .inl (h.others_wait found' closes found live hi).1
  · have current := h.current_eq_lap ready
    have early : ¬ 1 < role.phase.stage := fun later => by
      have running := ((h.stations r role found live).holds later).2
      rw [← current, stopped] at running
      simp at running
    omega

/-- In a stopped round a step only leaves or breaks off. -/
theorem Engine.Turn.of_stopped (lock : Lockstep p e tr)
    (stopped : (e.roundAt e.current).stopped = true) (found : e.roles[r]? = some role)
    (step : Engine.Turn p e r role e' events) :
    e'.rounds = e.rounds ∧ ∀ event ∈ events,
      event = .left r e.current ∨ event = .gaveUp r ∨ event = .broke r := by
  have stage := lock.stage_of_stopped stopped found
  cases step with
  | load phase going =>
      rw [stopped] at going
      simp at going
  | leave => exact ⟨rfl, by simp⟩
  | miss => exact ⟨rfl, by simp⟩
  | retry => exact ⟨rfl, by simp⟩
  | giveUp => exact ⟨rfl, by simp⟩
  | begin => exact ⟨rfl, by simp⟩
  | release => exact ⟨rfl, by simp⟩
  | die => exact ⟨rfl, by simp⟩
  | halt => exact ⟨rfl, by simp⟩
  | exit => exact ⟨rfl, by simp⟩
  | report => exact ⟨rfl, by simp⟩
  | rest => exact ⟨rfl, by simp⟩
  | _ => simp [*, Phase.stage] at stage

/-! ### After the last round -/

/-- A stopped round is the current one. -/
structure Engine.Ended (p : EnginePlan ω σ) (e : Engine ω σ) : Prop where
  lock : ∃ tr, Lockstep p e tr
  stopped : (e.roundAt e.current).stopped = true

namespace Engine.Ended

theorem turn (h : e.Ended p) (found : e.roles[r]? = some role)
    (step : Engine.Turn p e r role e' events) : e'.Ended p := by
  obtain ⟨tr, lock⟩ := h.lock
  have rounds := (step.of_stopped lock h.stopped found).1
  refine ⟨⟨_, lock.turn found step⟩, ?_⟩
  rw [Engine.roundAt_congr rounds, Engine.current, rounds]
  exact h.stopped

theorem still (h : e.Ended p) {m : Engine.Move} (outside : ∀ r, m ≠ .role r) :
    (e.apply p m).Ended p := by
  obtain ⟨tr, lock⟩ := h.lock
  refine ⟨⟨tr, lock.still outside⟩, ?_⟩
  cases m with
  | role r => exact absurd rfl (outside r)
  | stop => exact h.stopped
  | abort => exact h.stopped
  | tick nanos => exact h.stopped

/-- Nothing is published any more, and the roles only leave. -/
theorem run (h : e.Ended p) (ms : List Engine.Move) :
    (e.run p ms).Ended p ∧ (e.run p ms).rounds = e.rounds ∧ ∀ event ∈ e.trace p ms,
      ∃ r, event = .left r e.current ∨ event = .gaveUp r ∨ event = .broke r := by
  refine Engine.turn_invariant (P := fun e' tr => e'.Ended p ∧ e'.rounds = e.rounds ∧
    ∀ event ∈ tr, ∃ r, event = .left r e.current ∨ event = .gaveUp r ∨ event = .broke r)
    ⟨h, rfl, by simp⟩ ms ?_ ?_
  · intro e₁ tr r role e₂ events ⟨ended, rounds, only⟩ found step
    obtain ⟨trace, lock⟩ := ended.lock
    obtain ⟨same, leaves⟩ := step.of_stopped lock ended.stopped found
    refine ⟨ended.turn found step, same.trans rounds, fun event hevent => ?_⟩
    cases List.mem_append.1 hevent with
    | inl hevent => exact only event hevent
    | inr hevent =>
        rw [Engine.current, rounds] at leaves
        exact ⟨r, leaves event hevent⟩
  · intro m _ outside e₁ tr ⟨ended, rounds, only⟩
    refine ⟨ended.still outside, ?_, only⟩
    rw [← rounds]
    cases m with
    | role r => exact absurd rfl (outside r)
    | _ => rfl

end Engine.Ended

/-! ### Every role gets out -/

/-- The phase of a role; one that does not exist counts as gone. -/
def Engine.phaseAt (e : Engine ω σ) (r : Nat) : Phase :=
  (e.roles[r]?.map Role.phase).getD .gone

/-- How many steps of its own a role needs at most to leave from the barrier once it is open. -/
def Phase.toGo : Phase → Nat
  | .waiting .barrier true => 3
  | .waiting .barrier false => 2
  | .loading => 1
  | _ => 0

theorem Engine.phaseAt_eq (found : e.roles[r]? = some role) : e.phaseAt r = role.phase := by
  rw [Engine.phaseAt, found]
  rfl

theorem Engine.phaseAt_setRole (found : e.roles[r]? = some role)
    (roles : e'.roles = e.roles.setIfInBounds r role') (i : Nat) :
    e'.phaseAt i = if i = r then role'.phase else e.phaseAt i := by
  by_cases hi : i = r
  · rw [if_pos hi]
    refine Engine.phaseAt_eq ?_
    rw [roles]
    exact (Engine.role_setRole found).2 (.inl ⟨hi, rfl⟩)
  · rw [if_neg hi, Engine.phaseAt, Engine.phaseAt, roles, Array.getElem?_setIfInBounds,
      if_neg (Ne.symm hi)]

/-- What moves of one role count down and other moves leave alone. -/
theorem Engine.run_countdown {I : Engine ω σ → Prop} {f : Engine ω σ → Nat} {r : Nat}
    (kept : ∀ m e, I e → I (e.apply p m))
    (step : ∀ m e, I e → f (e.apply p m) ≤ f e - if m = .role r then 1 else 0) (init : I e)
    (ms : List Engine.Move) : f (e.run p ms) ≤ f e - ms.count (.role r) := by
  induction ms generalizing e with
  | nil => exact Nat.le_refl _
  | cons m ms ih =>
      have first := step m e init
      have rest := ih (kept m e init)
      rw [Engine.run_cons, List.count_cons]
      by_cases hm : m = .role r
      · simp only [hm, if_true, beq_self_eq_true] at first rest ⊢
        omega
      · simp only [hm, if_false, beq_iff_eq] at first rest ⊢
        omega

theorem Phase.toGo_eq_zero {phase : Phase} (stage : phase.stage = 14) : phase.toGo = 0 := by
  cases phase with
  | waiting gate missed => cases gate <;> simp [Phase.stage] at stage
  | loading => simp [Phase.stage] at stage
  | _ => rfl

theorem Phase.stage_of_toGo {phase : Phase} (none : phase.toGo = 0) : 1 < phase.stage := by
  cases phase with
  | waiting gate missed =>
      cases gate with
      | barrier => cases missed <;> simp [Phase.toGo] at none
      | _ => simp [Phase.stage]
  | loading => simp [Phase.toGo] at none
  | _ => simp [Phase.stage]

theorem Phase.toGo_le (phase : Phase) : phase.toGo ≤ 3 := by
  cases phase with
  | waiting gate missed => cases gate <;> cases missed <;> decide
  | loading => decide
  | _ => exact Nat.zero_le _

namespace Engine.Ended

/-- When the barrier is open, it is open for every role that waits there. -/
theorem open_of_waiting (h : e.Ended p) (opened : ¬ e.Ready) (found : e.roles[r]? = some role)
    (stage : role.phase.stage = 0) : e.epoch = role.base := by
  obtain ⟨tr, lock⟩ := h.lock
  have current := lock.current_eq_lap opened
  have silent (mark : Mark) (i : Nat) : .passed i mark (e.lap p) ∉ tr := fun passed => by
    have running := lock.running i mark _ passed
    rw [← current, h.stopped] at running
    simp at running
  have none : marked tr .finished (e.lap p) = [] :=
    List.eq_nil_iff_forall_not_mem.2 fun i hi => silent .finished i (mem_marked.1 hi)
  have station := lock.stations r role found (by rw [Role.Live]; omega)
  have here : role.lap p = e.lap p := by
    refine station.here.resolve_right fun ahead => silent .finished r ?_
    exact (station.history _ _).2 (.inl (by omega))
  rw [lock.epoch, none, station.aligned, here]
  rfl

/-- A step of a role brings it closer to its end, unless it waits for the barrier to open. -/
theorem turn_phase (h : e.Ended p) (found : e.roles[r]? = some role)
    (step : Engine.Turn p e r role e' events) :
    ∃ role', e'.roles = e.roles.setIfInBounds r role' ∧ role'.phase.stage ≠ 13 ∧
      (¬ e.Ready → role'.phase.toGo ≤ role.phase.toGo - 1) := by
  obtain ⟨tr, lock⟩ := h.lock
  have stage := lock.stage_of_stopped h.stopped found
  obtain ⟨last, roles, stays⟩ := step.roles_eq found
  cases step with
  | load phase going =>
      rw [h.stopped] at going
      simp at going
  | leave => exact ⟨_, rfl, by simp [Phase.stage], fun _ => Nat.zero_le _⟩
  | miss gate phase shut =>
      cases gate with
      | barrier =>
          refine ⟨_, rfl, by simp [Phase.stage], fun opened => ?_⟩
          have opens := h.open_of_waiting opened found (by rw [phase]; rfl)
          rw [Engine.isOpen, decide_eq_true opens] at shut
          simp at shut
      | _ => simp [phase, Phase.stage] at stage
  | retry gate phase =>
      cases gate with
      | barrier => exact ⟨_, rfl, by simp [Phase.stage], fun _ => by simp [phase, Phase.toGo]⟩
      | _ => simp [phase, Phase.stage] at stage
  | giveUp => exact ⟨_, rfl, by simp [Phase.stage], fun _ => Nat.zero_le _⟩
  | begin phase =>
      exact ⟨_, rfl, by simp [Phase.stage], fun _ => by simp [phase, Phase.toGo]⟩
  | release phase =>
      refine ⟨_, rfl, by simp [Phase.stage], fun opened => ?_⟩
      exact absurd ⟨r, role, found, by rw [phase]; rfl⟩ opened
  | die => exact ⟨_, rfl, by simp [Phase.stage], fun _ => Nat.zero_le _⟩
  | halt => exact ⟨_, rfl, by simp [Phase.stage], fun _ => Nat.zero_le _⟩
  | exit => exact ⟨_, rfl, by simp [Phase.stage], fun _ => Nat.zero_le _⟩
  | report => exact ⟨_, rfl, by simp [Phase.stage], fun _ => Nat.zero_le _⟩
  | rest phase =>
      have out : last.phase.stage = 14 := stays (by rw [phase]; rfl)
      refine ⟨last, roles, by omega, fun _ => ?_⟩
      rw [Phase.toGo_eq_zero out]
      exact Nat.zero_le _
  | _ => simp [*, Phase.stage] at stage

/-- How a move changes the phases of the roles. -/
theorem phaseAt_apply (h : e.Ended p) (m : Engine.Move) (i : Nat) :
    (m ≠ .role i → (e.apply p m).phaseAt i = e.phaseAt i) ∧
      (m = .role i → ((e.apply p m).phaseAt i).stage ≠ 13 ∧
        (¬ e.Ready → ((e.apply p m).phaseAt i).toGo ≤ (e.phaseAt i).toGo - 1)) := by
  cases m with
  | role r =>
      cases found : e.roles[r]? with
      | none =>
          have same : e.apply p (.role r) = e := by simp only [Engine.apply, found]
          rw [same]
          refine ⟨fun _ => rfl, fun hm => ?_⟩
          obtain rfl := Engine.Move.role.inj hm
          have gone : e.phaseAt r = .gone := by
            rw [Engine.phaseAt, found]
            rfl
          rw [gone]
          exact ⟨by decide, fun _ => Nat.zero_le _⟩
      | some role =>
          have step := Engine.stepRole_turn p e r role
          obtain ⟨role', roles, stage, closer⟩ := h.turn_phase found step
          have after : e.apply p (.role r) = e.stepRole p r role := by
            simp only [Engine.apply, found]
          rw [after, Engine.phaseAt_setRole found roles]
          constructor
          · intro hm
            rw [if_neg fun hi => hm (congrArg Engine.Move.role hi.symm)]
          · intro hm
            obtain rfl := Engine.Move.role.inj hm
            rw [if_pos rfl, Engine.phaseAt_eq found]
            exact ⟨stage, closer⟩
  | stop => exact ⟨fun _ => rfl, by simp⟩
  | abort => exact ⟨fun _ => rfl, by simp⟩
  | tick nanos => exact ⟨fun _ => rfl, by simp⟩

theorem apply (h : e.Ended p) (m : Engine.Move) : (e.apply p m).Ended p := by
  cases m with
  | role r =>
      cases found : e.roles[r]? with
      | none =>
          simp only [Engine.apply, found]
          exact h
      | some role =>
          simp only [Engine.apply, found]
          exact h.turn found (Engine.stepRole_turn p e r role)
  | stop => exact h.still (by simp)
  | abort => exact h.still (by simp)
  | tick nanos => exact h.still (by simp)

/-- Once each role has moved, the barrier is open. -/
theorem opened (h : e.Ended p) {ms : List Engine.Move} (moved : ∀ r < p.size, .role r ∈ ms) :
    ¬ (e.run p ms).Ready := by
  rintro ⟨r, role, found, stage⟩
  obtain ⟨tr, lock⟩ := (h.run ms).1.lock
  have counted := Engine.run_countdown (I := fun e => e.Ended p) (r := r)
    (f := fun e => if (e.phaseAt r).stage = 13 then 1 else 0)
    (fun m e h => h.apply m) (fun m e h => ?_) h ms
  · have once := List.count_pos_iff.2 (moved r (lock.lt_size found))
    simp only [Engine.phaseAt_eq found, stage, if_true] at counted
    split at counted <;> omega
  · obtain ⟨others, own⟩ := h.phaseAt_apply m r
    by_cases hm : m = .role r
    · rw [if_neg (own hm).1]
      exact Nat.zero_le _
    · rw [others hm, if_neg hm]
      exact Nat.le_refl _

theorem not_ready_apply (h : e.Ended p) (opened : ¬ e.Ready) (m : Engine.Move) :
    ¬ (e.apply p m).Ready := by
  rintro ⟨r, role, found, stage⟩
  obtain ⟨others, own⟩ := h.phaseAt_apply m r
  rw [Engine.phaseAt_eq found] at others own
  by_cases hm : m = .role r
  · exact (own hm).1 stage
  · have before := others hm
    cases found' : e.roles[r]? with
    | none => simp [Engine.phaseAt, found', before, Phase.stage] at stage
    | some role' =>
        rw [Engine.phaseAt_eq found'] at before
        exact opened ⟨r, role', found', before ▸ stage⟩

/-- A role that has no more steps to go at an open barrier is out. -/
theorem out_of_toGo (h : e.Ended p) (opened : ¬ e.Ready) (hr : r < p.size)
    (none : (e.phaseAt r).toGo = 0) : e.Out r := by
  obtain ⟨tr, lock⟩ := h.lock
  obtain ⟨role, found⟩ := lock.exists_role hr
  have stage := lock.stage_of_stopped h.stopped found
  rw [Engine.phaseAt_eq found] at none
  have later := Phase.stage_of_toGo none
  have waiting : role.phase.stage ≠ 13 := fun stage => opened ⟨r, role, found, stage⟩
  exact ⟨role, found, by omega⟩

/-- Once each role has moved, three more moves of its own bring each role out. -/
theorem all_out (h : e.Ended p) {ms ms' : List Engine.Move}
    (moved : ∀ r < p.size, .role r ∈ ms) (thrice : ∀ r < p.size, 3 ≤ ms'.count (.role r))
    (hr : r < p.size) : (e.run p (ms ++ ms')).Out r := by
  rw [Engine.run_append]
  have ended := (h.run ms).1
  have opened := h.opened moved
  have counted := Engine.run_countdown (I := fun e => e.Ended p ∧ ¬ e.Ready) (r := r)
    (f := fun e => (e.phaseAt r).toGo)
    (fun m e h => ⟨h.1.apply m, h.1.not_ready_apply h.2 m⟩) (fun m e h => ?_) ⟨ended, opened⟩ ms'
  · have ended' := (ended.run ms').1
    have opened' : ¬ ((e.run p ms).run p ms').Ready := by
      rw [← Engine.run_append]
      refine h.opened fun i hi => List.mem_append_left _ (moved i hi)
    refine ended'.out_of_toGo opened' hr ?_
    have start := ((e.run p ms).phaseAt r).toGo_le
    have := thrice r hr
    omega
  · obtain ⟨others, own⟩ := h.1.phaseAt_apply m r
    by_cases hm : m = .role r
    · rw [if_pos hm]
      exact (own hm).2 h.2
    · rw [others hm, if_neg hm]
      exact Nat.le_refl _

end Engine.Ended

end Litmus
