import Litmus.Proofs.Engine.Accounting
import Litmus.Proofs.Engine.Counters

/-!
No wait lasts for ever. As long as no role has broken off, some role that is not gone can take a
step that is no vain look at a condition; and once a role has broken off, every wait ends with its
next look.
-/
namespace Litmus

variable {ω σ : Type} {p : EnginePlan ω σ} {e e' : Engine ω σ} {tr events : List (Event ω σ)}
  {r i k : Nat} {role role' other : Role} {mark : Mark} {gate : Gate} {missed : Bool}

/-! ### Alarms -/

theorem Engine.Turn.aborted_iff (step : Engine.Turn p e r role e' events) :
    e'.control.aborted = true ↔ e.control.aborted = true ∨ ∃ i, .broke i ∈ events := by
  have same {e₁ : Engine ω σ} (kept : e₁.control.aborted = e.control.aborted)
      (quiet : ∀ i, .broke i ∉ events) :
      e₁.control.aborted = true ↔ e.control.aborted = true ∨ ∃ i, .broke i ∈ events := by
    rw [kept, or_iff_left (not_exists.2 quiet)]
  cases step with
  | die fault phase => exact ⟨fun _ => .inr ⟨r, by simp⟩, fun _ => rfl⟩
  | act place rest pair => exact same (Engine.alike_absorb e place _).aborted (by simp)
  | actBroke place rest pair => exact same (Engine.alike_absorb e place _).aborted (by simp)
  | consume place rest pair fresh e₁ tally phase _ result _ =>
      exact same (Engine.alike_of_consume result).aborted (by simp)
  | consumeBroke place rest pair e₁ fault phase _ result =>
      exact same (Engine.alike_of_consume result).aborted (by simp)
  | grow => exact same rfl (by simp [madeFrom])
  | _ => exact same rfl (by simp)

theorem Engine.Turn.gaveUp_mem (step : Engine.Turn p e r role e' events)
    (h : .gaveUp i ∈ events) : e.control.aborted = true := by
  cases step with
  | giveUp gate phase aborted => exact aborted
  | grow => simp [madeFrom] at h
  | _ => simp at h

/-- A run that was not aborted from outside is aborted as soon as a role breaks off, and not
before. -/
theorem aborted_iff_broke (p : EnginePlan ω σ) (w : ω) {ms : List Engine.Move}
    (kept : .abort ∉ ms) : ((p.launch w).run p ms).control.aborted = true ↔
      ∃ r, .broke r ∈ (p.launch w).trace p ms := by
  refine Engine.turn_invariant (P := fun e tr => e.control.aborted = true ↔ ∃ r, .broke r ∈ tr)
    ?_ ms ?_ ?_
  · simp [EnginePlan.launch]
  · intro e tr r role e' events h found step
    simp only [step.aborted_iff, h, List.mem_append, exists_or]
  · intro m hm outside e tr h
    cases m with
    | role r => exact absurd rfl (outside r)
    | stop => exact h
    | abort => exact absurd hm kept
    | tick nanos => exact h

theorem aborted_of_alarm (p : EnginePlan ω σ) (w : ω) (ms : List Engine.Move)
    (alarm : .gaveUp r ∈ (p.launch w).trace p ms ∨ .broke r ∈ (p.launch w).trace p ms) :
    ((p.launch w).run p ms).control.aborted = true := by
  refine Engine.turn_invariant
    (P := fun e tr => .gaveUp r ∈ tr ∨ .broke r ∈ tr → e.control.aborted = true)
    (by simp) ms ?_ ?_ alarm
  · intro e tr i role e' events h found step raised
    rw [step.aborted_iff]
    simp only [List.mem_append] at raised
    rcases raised with (earlier | now) | earlier | now
    · exact .inl (h (.inl earlier))
    · exact .inl (step.gaveUp_mem now)
    · exact .inl (h (.inr earlier))
    · exact .inr ⟨r, now⟩
  · intro m _ outside e tr h raised
    cases m with
    | role r => exact absurd rfl (outside r)
    | stop => exact h raised
    | abort => rfl
    | tick nanos => exact h raised

/-! ### Roles that can go on -/

/-- A role that is not gone, and that waits only where the condition that it waits for holds. -/
def Engine.Able (e : Engine ω σ) (role : Role) : Prop :=
  role.phase ≠ .gone ∧
    ∀ gate missed, role.phase = .waiting gate missed → e.isOpen role gate = true

theorem Engine.shut_of_not_able (stuck : ¬ e.Able role) (here : role.phase ≠ .gone) :
    ∃ gate missed, role.phase = .waiting gate missed ∧ e.isOpen role gate = false := by
  by_contra none
  refine stuck ⟨here, fun gate missed phase => ?_⟩
  by_contra shut
  exact none ⟨gate, missed, phase, Bool.not_eq_true _ ▸ shut⟩

/-- A role that can go on does so: its next step leads to another phase. -/
theorem Engine.Turn.moves (step : Engine.Turn p e r role e' events)
    (found : e.roles[r]? = some role) (able : e.Able role) : e'.phaseAt r ≠ role.phase := by
  have after {role' : Role} (roles : e'.roles = e.roles.setIfInBounds r role') :
      e'.phaseAt r = role'.phase := by
    rw [phaseAt_setRole found roles, if_pos rfl]
  cases step with
  | miss gate phase shut => exact absurd (able.2 gate false phase) (by simp [shut])
  | rest phase => exact absurd phase able.1
  | consume place rest pair fresh e₁ tally phase hit result =>
      rw [after ((alike_of_consume result).roles_setRole r _), phase]
      simp
  | consumeBroke place rest pair e₁ fault phase hit result =>
      rw [after ((alike_of_consume result).roles_setRole r _), phase]
      simp
  | _ =>
      rw [after rfl]
      simp [*]

/-- All roles wait where the condition that they wait for does not hold. -/
def Engine.Stalled (e : Engine ω σ) : Prop :=
  ∀ (r : Nat) (role : Role), e.roles[r]? = some role →
    ∃ gate missed, role.phase = .waiting gate missed ∧ e.isOpen role gate = false

theorem Engine.Stalled.closed (stalled : e.Stalled) (found : e.roles[r]? = some role)
    (phase : role.phase = .waiting gate missed) : e.isOpen role gate ≠ true := by
  obtain ⟨gate', missed', phase', closed⟩ := stalled r role found
  obtain ⟨rfl, -⟩ := Phase.waiting.inj (phase.symm.trans phase')
  exact Bool.eq_false_iff.1 closed

theorem Engine.Stalled.live (stalled : e.Stalled) (found : e.roles[r]? = some role) :
    role.Live := by
  obtain ⟨gate, missed, phase, -⟩ := stalled r role found
  rw [Role.Live, phase]
  cases gate <;> simp [Phase.stage]

namespace Lockstep

theorem length_marked_eq (h : Lockstep p e tr) (all : ∀ i < p.size, .passed i mark k ∈ tr) :
    (marked tr mark k).length = p.size := by
  refine Nat.le_antisymm (h.length_marked_le mark k) ?_
  have covered : (List.range p.size).Subperm (marked tr mark k) :=
    List.nodup_range.subperm fun i hi => mem_marked.2 (all i (List.mem_range.1 hi))
  simpa using covered.length_le

/-- A live role that is past a mark, or already waits for the next round, has passed that mark in
the round in progress. -/
theorem passed_of_past (h : Lockstep p e tr) (found : e.roles[r]? = some role) (live : role.Live)
    (past : mark.stage < role.phase.stage ∨ role.lap p = e.lap p + 1) :
    .passed r mark (e.lap p) ∈ tr := by
  have station := h.stations r role found live
  rw [station.history]
  rcases past with past | ahead
  · exact .inr ⟨(station.lap_eq (by omega)).symm, past⟩
  · exact .inl (by omega)

/-- A role at the barrier waits for the start of the round in progress, before anybody has finished
that round, or for the start of the next one. -/
theorem at_barrier (h : Lockstep p e tr) (counts : Counters p e tr)
    (found : e.roles[r]? = some role) (phase : role.phase = .waiting .barrier missed) :
    e.epoch = role.base ∨ (role.lap p = e.lap p + 1 ∧ e.epoch < role.base) := by
  have station := h.stations r role found (by rw [Role.Live, phase]; simp [Phase.stage])
  have epoch := h.epoch
  have few := h.length_marked_le .finished (e.lap p)
  have aligned := station.aligned
  rcases station.here with here | ⟨-, ahead⟩
  · left
    have none : marked tr .finished (e.lap p) = [] := by
      refine List.eq_nil_iff_forall_not_mem.2 fun i hi => ?_
      have cleared := counts.cleared i _ (mem_marked.1 hi)
      have departed := h.cleared i _ cleared r (h.lt_size found)
      rw [station.history, phase] at departed
      simp [Phase.stage, here] at departed
    rw [epoch, none, aligned, here]
    rfl
  · right
    rw [ahead, Nat.succ_mul] at aligned
    exact ⟨ahead, by omega⟩

theorem epoch_le (h : Lockstep p e tr) (counts : Counters p e tr)
    (found : e.roles[r]? = some role) (phase : role.phase = .waiting .barrier missed) :
    e.epoch ≤ role.base := by
  rcases h.at_barrier counts found phase with opened | ⟨-, early⟩
  · exact Nat.le_of_eq opened
  · exact Nat.le_of_lt early

theorem all_passed (h : Lockstep p e tr) (live : ∀ (r : Nat) (role : Role),
      e.roles[r]? = some role → role.Live ∧
        (mark.stage < role.phase.stage ∨ role.lap p = e.lap p + 1)) :
    (marked tr mark (e.lap p)).length = p.size := by
  refine h.length_marked_eq fun i hi => ?_
  obtain ⟨x, hx⟩ := h.exists_role hi
  exact h.passed_of_past hx (live i x hx).1 (live i x hx).2

theorem start_open (h : Lockstep p e tr) (counts : Counters p e tr)
    (found : e.roles[r]? = some role) (phase : role.phase = .waiting .start missed)
    (all : (marked tr .arrived (e.lap p)).length = p.size) : e.isOpen role .start = true := by
  have held := h.holds_lap found (by rw [phase]; simp [Phase.stage])
  have counted := counts.arrived (e.lap p) h.lap_lt_rounds
  refine decide_eq_true ?_
  rw [held]
  omega

theorem finish_open (h : Lockstep p e tr) (found : e.roles[r]? = some role)
    (phase : role.phase = .waiting .finish missed)
    (all : (marked tr .departed (e.lap p)).length = p.size) : e.isOpen role .finish = true := by
  have held := h.holds_lap found (by rw [phase]; simp [Phase.stage])
  have counted := h.counted (e.lap p) h.lap_lt_rounds
  refine decide_eq_true ?_
  rw [held]
  omega

/-! If all roles were to wait in vain, then the gate that is furthest behind would have all roles
before it, and so be open. -/

section Stalled

variable (h : Lockstep p e tr) (counts : Counters p e tr) (stalled : e.Stalled)

include h counts stalled

theorem ahead_of_stalled (found : e.roles[r]? = some role)
    (phase : role.phase = .waiting .barrier missed) : role.lap p = e.lap p + 1 := by
  rcases h.at_barrier counts found phase with opened | ⟨ahead, -⟩
  · exact absurd (decide_eq_true opened) (stalled.closed found phase)
  · exact ahead

theorem not_at_start (found : e.roles[r]? = some role) : role.phase ≠ .waiting .start missed := by
  intro phase
  refine stalled.closed found phase (h.start_open counts found phase (h.all_passed ?_))
  intro j y hy
  obtain ⟨gate, missed, phase, -⟩ := stalled j y hy
  refine ⟨stalled.live hy, ?_⟩
  cases gate with
  | barrier => exact .inr (h.ahead_of_stalled counts stalled hy phase)
  | _ => exact .inl (by rw [phase]; simp [Mark.stage, Phase.stage])

theorem not_at_finish (found : e.roles[r]? = some role) :
    role.phase ≠ .waiting .finish missed := by
  intro phase
  refine stalled.closed found phase (h.finish_open found phase (h.all_passed ?_))
  intro j y hy
  obtain ⟨gate, missed, phase, -⟩ := stalled j y hy
  refine ⟨stalled.live hy, ?_⟩
  cases gate with
  | barrier => exact .inr (h.ahead_of_stalled counts stalled hy phase)
  | start => exact absurd phase (h.not_at_start counts stalled hy)
  | finish => exact .inl (by rw [phase]; simp [Mark.stage, Phase.stage])

theorem at_barrier_of_stalled (found : e.roles[r]? = some role) :
    ∃ missed, role.phase = .waiting .barrier missed := by
  obtain ⟨gate, missed, phase, -⟩ := stalled r role found
  cases gate with
  | barrier => exact ⟨missed, phase⟩
  | start => exact absurd phase (h.not_at_start counts stalled found)
  | finish => exact absurd phase (h.not_at_finish counts stalled found)

theorem not_stalled (hr : r < p.size) : False := by
  -- All wait at the barrier, and the role that drew the last ticket is one of them.
  have all : (marked tr .finished (e.lap p)).length = p.size := h.all_passed fun j y hy => by
    obtain ⟨missed, phase⟩ := h.at_barrier_of_stalled counts stalled hy
    exact ⟨stalled.live hy, .inr (h.ahead_of_stalled counts stalled hy phase)⟩
  have drawn : marked tr .finished (e.lap p) ≠ [] := by
    intro none
    rw [none, List.length_nil] at all
    omega
  obtain ⟨x, hx, past⟩ := counts.closing _ (List.getLast?_eq_some_getLast drawn) all
  obtain ⟨missed, phase⟩ := h.at_barrier_of_stalled counts stalled hx
  rw [phase] at past
  simp [Phase.stage] at past

end Stalled

/-- Once a stopped round is published nobody waits for anyone. -/
theorem able_of_stopped (h : Lockstep p e tr) (stopped : (e.roundAt e.current).stopped = true)
    (found : e.roles[r]? = some role) (here : role.phase ≠ .gone) :
    ∃ (r : Nat) (role : Role), e.roles[r]? = some role ∧ e.Able role := by
  by_contra stuck
  have stuck (i : Nat) (x : Role) (hx : e.roles[i]? = some x) : ¬ e.Able x :=
    fun able => stuck ⟨i, x, hx, able⟩
  obtain ⟨gate, missed, phase, closed⟩ := Engine.shut_of_not_able (stuck r role found) here
  have stage := h.stage_of_stopped stopped found
  rw [phase] at stage
  cases gate with
  | barrier =>
      -- Whoever is about to open the barrier is able to.
      have opened : ¬ e.Ready := by
        rintro ⟨j, y, hy, releasing⟩
        refine stuck j y hy ⟨fun gone => ?_, fun gate missed waiting => ?_⟩
        · rw [gone] at releasing
          exact absurd releasing (by decide)
        · rw [waiting] at releasing
          cases gate <;> simp [Phase.stage] at releasing
      have base := Engine.Ended.open_of_waiting ⟨⟨tr, h⟩, stopped⟩ opened found
        (by rw [phase]; rfl)
      exact absurd (decide_eq_true base) (Bool.eq_false_iff.1 closed)
  | _ => simp [Phase.stage] at stage

/-- In a run that is not aborted, one of the roles that are not gone can go on. -/
theorem exists_able (h : Lockstep p e tr) (counts : Counters p e tr) (gone : Departures e tr)
    (quiet : ∀ r, .gaveUp r ∉ tr ∧ .broke r ∉ tr) (found : e.roles[r]? = some role)
    (here : role.phase ≠ .gone) :
    ∃ (r : Nat) (role : Role), e.roles[r]? = some role ∧ e.Able role := by
  by_cases left : ∃ (i : Nat) (x : Role), e.roles[i]? = some x ∧ x.phase = .gone
  · -- Who is gone has seen a stopped round, and that is the last.
    obtain ⟨i, x, hx, phase⟩ := left
    rcases gone.out i x hx (by rw [phase]; rfl) with ⟨k, left⟩ | gave | broke | ⟨fault, dies⟩
    · have stopped := gone.left i k left
      have last := h.stoppedLast k stopped
      obtain rfl : k = e.current := by rw [Engine.current]; omega
      exact h.able_of_stopped stopped found here
    · exact absurd gave (quiet i).1
    · exact absurd broke (quiet i).2
    · rw [phase] at dies
      cases dies
  · by_contra stuck
    refine h.not_stalled counts (fun i x hx => ?_) (h.lt_size found)
    exact Engine.shut_of_not_able (fun able => stuck ⟨i, x, hx, able⟩)
      fun gone => left ⟨i, x, hx, gone⟩

end Lockstep

/-! ### Waits that end -/

/-- Whether the next look ends every wait of a role. -/
def Engine.Released (e : Engine ω σ) (role : Role) : Prop :=
  ∀ gate missed, role.phase = .waiting gate missed →
    ∃ passed, e.control.poll (e.isOpen role gate) = some passed

/-- How many steps of its own a role takes at most to leave a wait in a run that is aborted. -/
def Phase.looks : Phase → Nat
  | .waiting _ false => 2
  | .waiting _ true => 1
  | _ => 0

theorem Engine.Able.released (able : e.Able role) : e.Released role := fun gate missed phase =>
  ⟨true, Control.poll_eq_some_true.2 (able.2 gate missed phase)⟩

theorem Engine.released_of_aborted (aborted : e.control.aborted = true) : e.Released role := by
  intro gate missed _
  refine Option.ne_none_iff_exists'.1 fun kept => ?_
  have running := (Control.poll_eq_none.1 kept).2
  rw [aborted] at running
  simp at running

namespace Engine

theorem aborted_apply (aborted : e.control.aborted = true) (m : Move) :
    (e.apply p m).control.aborted = true := by
  cases m with
  | role r =>
      cases found : e.roles[r]? with
      | none =>
          simp only [apply, found]
          exact aborted
      | some role =>
          simp only [apply, found]
          exact (stepRole_turn p e r role).aborted_iff.2 (.inl aborted)
  | stop => exact aborted
  | abort => rfl
  | tick nanos => exact aborted

theorem aborted_run (aborted : e.control.aborted = true) (ms : List Move) :
    (e.run p ms).control.aborted = true := by
  induction ms generalizing e with
  | nil => exact aborted
  | cons m ms ih => exact ih (aborted_apply aborted m)

theorem phaseAt_apply_of_ne {m : Move} (other : m ≠ .role r) :
    (e.apply p m).phaseAt r = e.phaseAt r := by
  cases m with
  | role i =>
      cases found : e.roles[i]? with
      | none => simp only [apply, found]
      | some role =>
          obtain ⟨role', roles, -⟩ := (stepRole_turn p e i role).roles_eq found
          simp only [apply, found]
          rw [phaseAt_setRole found roles, if_neg]
          rintro rfl
          exact other rfl
  | stop => rfl
  | abort => rfl
  | tick nanos => rfl

/-- In a run that is aborted, a role that waits leaves its wait after a look or two. -/
theorem Turn.looks (step : Turn p e r role e' events) (found : e.roles[r]? = some role)
    (aborted : e.control.aborted = true) (phase : role.phase = .waiting gate missed) :
    (e'.phaseAt r).looks < role.phase.looks := by
  have after {role' : Role} (roles : e'.roles = e.roles.setIfInBounds r role') :
      e'.phaseAt r = role'.phase := by
    rw [phaseAt_setRole found roles, if_pos rfl]
  cases step with
  | miss _ phase => simp [after rfl, phase, Phase.looks]
  | retry _ _ kept =>
      rw [aborted] at kept
      simp at kept
  | giveUp _ phase => simp [after rfl, phase, Phase.looks]
  | passStart phase => simp [after rfl, phase, Phase.looks]
  | clear phase => simp [after rfl, phase, Phase.looks]
  | misfit phase => simp [after rfl, phase, Phase.looks]
  | begin phase => simp [after rfl, phase, Phase.looks]
  | _ => simp [phase] at *

/-- In a run that is aborted, no role stays at a gate or at the barrier: after two more moves of its
own, if not before, it has left its wait. -/
theorem leaves_wait (aborted : e.control.aborted = true) {ms : List Move}
    (enough : (e.phaseAt r).looks ≤ ms.count (.role r)) :
    ∃ before, before <+: ms ∧
      ∀ gate missed, (e.run p before).phaseAt r ≠ .waiting gate missed := by
  induction ms generalizing e with
  | nil =>
      refine ⟨[], List.prefix_rfl, fun gate missed phase => ?_⟩
      rw [run_nil] at phase
      rw [phase] at enough
      cases missed <;> simp [Phase.looks] at enough
  | cons m ms ih =>
      by_cases waits : ∃ gate missed, e.phaseAt r = .waiting gate missed
      case neg =>
        refine ⟨[], List.nil_prefix, fun gate missed phase => waits ⟨gate, missed, phase⟩⟩
      case pos =>
        obtain ⟨gate, missed, phase⟩ := waits
        have fewer : ((e.apply p m).phaseAt r).looks ≤ ms.count (.role r) := by
          rw [List.count_cons] at enough
          by_cases own : m = .role r
          · subst own
            cases found : e.roles[r]? with
            | none => simp [phaseAt, found] at phase
            | some role =>
                rw [phaseAt_eq found] at phase enough
                have closer := (stepRole_turn p e r role).looks found aborted phase
                simp only [apply, found]
                simp only [beq_self_eq_true, if_true] at enough
                omega
          · rw [phaseAt_apply_of_ne own]
            simpa [own] using enough
        obtain ⟨before, inside, left⟩ := ih (aborted_apply aborted m) fewer
        exact ⟨m :: before, (List.prefix_cons_inj m).2 inside, left⟩

end Engine

theorem Phase.looks_le (phase : Phase) : phase.looks ≤ 2 := by
  cases phase with
  | waiting gate missed => cases missed <;> simp [looks]
  | _ => exact Nat.zero_le _

/-! ### Every run -/

/-- What keeps a run from getting stuck, where `ms` are its moves so far. -/
structure Unstuck (p : EnginePlan ω σ) (ms : List Engine.Move) (e : Engine ω σ)
    (tr : List (Event ω σ)) : Prop where
  /-- As long as no role has broken off and the run is not aborted from outside, one of the roles
  that are not gone can go on. -/
  able : .abort ∉ ms → (∀ r, .broke r ∉ tr) →
    (∃ (r : Nat) (role : Role), e.roles[r]? = some role ∧ role.phase ≠ .gone) →
      ∃ (r : Nat) (role : Role), e.roles[r]? = some role ∧ e.Able role
  /-- No role breaks off if no body does and the sizes fit. -/
  unbroken : p.test.Calm → p.Fits → .abort ∉ ms → (observed p tr).length < Word.bound →
    ∀ r, .broke r ∉ tr
  epoch : ∀ (r : Nat) (role : Role) (missed : Bool), e.roles[r]? = some role →
    role.phase = .waiting .barrier missed → e.epoch ≤ role.base
  /-- The counters of the gates count down to zero and not further. -/
  gates : ∀ k < e.rounds.size, (e.roundAt k).notStarted = p.size - (marked tr .arrived k).length ∧
    (e.roundAt k).notFinished = p.size - (marked tr .departed k).length
  /-- Once a role has broken off, the next look ends every wait. -/
  released : ∀ r, .broke r ∈ tr → ∀ (i : Nat) (role : Role), e.roles[i]? = some role →
    e.Released role
  /-- Nor does a role stay in a wait that it begins later. -/
  unparked : ∀ r, .broke r ∈ tr → ∀ i later rest, 2 ≤ rest.count (.role i) →
    ∃ before, before <+: rest ∧
      ∀ gate missed, (e.run p (later ++ before)).phaseAt i ≠ .waiting gate missed
  /-- Whatever happened before, one of the roles that are not gone is held up by nobody. -/
  unheld : (∃ (r : Nat) (role : Role), e.roles[r]? = some role ∧ role.phase ≠ .gone) →
    ∃ (r : Nat) (role : Role), e.roles[r]? = some role ∧ role.phase ≠ .gone ∧ e.Released role

/-- In every run, whatever the roles and bodies do and whenever it is stopped or aborted. -/
theorem never_stuck (p : EnginePlan ω σ) (w : ω) (ms : List Engine.Move) :
    Unstuck p ms ((p.launch w).run p ms) ((p.launch w).trace p ms) := by
  have lock := lockstep p w ms
  have counts := counters p w ms
  have gone := departures p w ms
  have alarmed (r : Nat) := aborted_of_alarm (r := r) p w ms
  have running (kept : .abort ∉ ms) := aborted_iff_broke p w kept
  refine ⟨?_, ?_, ?_, ?_, ?_, ?_, ?_⟩
  · rintro kept unbroken ⟨r, role, found, here⟩
    have calm := mt (running kept).1 (not_exists.2 unbroken)
    exact lock.exists_able counts gone (fun i => ⟨mt (alarmed i ∘ .inl) calm, unbroken i⟩)
      found here
  · exact fun calm fits kept room r => ((clean calm fits w kept room).sound.quiet r).2
  · exact fun r role missed found phase => lock.epoch_le counts found phase
  · intro k hk
    have arrived := counts.arrived k hk
    have departed := lock.counted k hk
    omega
  · exact fun r broke i role _ => Engine.released_of_aborted (alarmed r (.inr broke))
  · intro r broke i later rest twice
    have aborted := alarmed r (.inr broke)
    have still := Engine.aborted_run (p := p) aborted later
    obtain ⟨before, inside, left⟩ :=
      Engine.leaves_wait (p := p) still (Nat.le_trans (Phase.looks_le _) twice)
    refine ⟨before, inside, fun gate missed => ?_⟩
    rw [Engine.run_append]
    exact left gate missed
  · rintro ⟨r, role, found, here⟩
    by_cases aborted : ((p.launch w).run p ms).control.aborted = true
    · exact ⟨r, role, found, here, Engine.released_of_aborted aborted⟩
    · obtain ⟨i, other, found', able⟩ := lock.exists_able counts gone
        (fun i => ⟨mt (alarmed i ∘ .inl) aborted, mt (alarmed i ∘ .inr) aborted⟩) found here
      exact ⟨i, other, found', able.1, able.released⟩

/-- The engine after the first `n` moves of a run with several rounds and a stop. -/
def countingAfter (n : Nat) : Engine Unit Nat :=
  (counting.launch ()).run counting (countingMoves.take n)

/-- Whenever a role of that run is not gone, one of them can go on, and its next move changes its
phase. In the second round the first role looks at the barrier in vain; in the end both are gone. -/
theorem never_stuck_counting :
    (∀ (n r : Nat) (role : Role), (countingAfter n).roles[r]? = some role → role.phase ≠ .gone →
      ∃ (i : Nat) (other : Role), (countingAfter n).roles[i]? = some other ∧
        (countingAfter n).Able other ∧
        ((countingAfter n).apply counting (.role i)).phaseAt i ≠ other.phase) ∧
      (countingAfter 45).phaseAt 0 = .waiting .barrier true ∧
      (countingAfter 101).phaseAt 0 = .gone ∧ (countingAfter 101).phaseAt 1 = .gone := by
  refine ⟨fun n r role found here => ?_, ?_, ?_, ?_⟩
  · have kept : .abort ∉ countingMoves.take n := fun mem =>
      absurd (List.mem_of_mem_take mem) (by decide)
    have two : (observed counting ((counting.launch ()).trace counting countingMoves)).length =
        2 := by cbv
    rw [← List.take_append_drop n countingMoves, Engine.trace_append, observed_append,
      List.length_append] at two
    have room : (observed counting
        ((counting.launch ()).trace counting (countingMoves.take n))).length < Word.bound :=
      Nat.lt_of_le_of_lt (Nat.le.intro two) (by decide)
    have unstuck := never_stuck counting () (countingMoves.take n)
    have unbroken := unstuck.unbroken counting_calm counting_fits kept room
    obtain ⟨i, other, found', able⟩ := unstuck.able kept unbroken ⟨r, role, found, here⟩
    refine ⟨i, other, found', able, ?_⟩
    rw [Engine.apply, countingAfter, found']
    exact (Engine.stepRole_turn ..).moves found' able
  all_goals cbv

/-- Two roles, of which the second breaks off when it runs on a pair. -/
def faltering : EnginePlan Unit Nat :=
  { counting with
    test := { counting.test with
      actors := [⟨"first", counter 0⟩, ⟨"second", fun world state result =>
        { world, state, result, fault := some (.raised "lost") }⟩] } }

/-- The first role waits for the second at the finish gate, and gives up after two more looks. -/
example :
    let turns (n : Nat) := (List.replicate n [Engine.Move.role 0, .role 1]).flatten
    ((faltering.launch ()).run faltering (turns 20)).phaseAt 0 = .waiting .finish false ∧
      ((faltering.launch ()).run faltering (turns 22)).phaseAt 0 = .leaving (.ok .empty) := by
  constructor <;> cbv

end Litmus
