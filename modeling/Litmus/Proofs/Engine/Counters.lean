import Litmus.Proofs.Engine.Publish

/-!
What a wait relies on: the counter of the start gate counts the roles that have not arrived, and
the role that draws the last ticket of a round is past all marks until it opens the barrier. So the
epoch never runs past the value that a role at the barrier waits for.
-/
namespace Litmus

variable {ω σ : Type} {p : EnginePlan ω σ} {e e' : Engine ω σ} {tr events : List (Event ω σ)}
  {r i k : Nat} {role role' : Role} {mark : Mark}

structure Counters (p : EnginePlan ω σ) (e : Engine ω σ) (tr : List (Event ω σ)) : Prop where
  arrived : ∀ k < e.rounds.size,
    (e.roundAt k).notStarted + (marked tr .arrived k).length = p.size
  cleared : ∀ r k, .passed r .finished k ∈ tr → .passed r .cleared k ∈ tr
  closing : ∀ r, (marked tr .finished (e.lap p)).getLast? = some r →
    (marked tr .finished (e.lap p)).length = p.size →
      ∃ role : Role, e.roles[r]? = some role ∧ 9 < role.phase.stage

theorem marked_eq_of_unpassed (unpassed : ∀ i, .passed i mark k ∉ events) :
    marked (tr ++ events) mark k = marked tr mark k := by
  have none : marked events mark k = [] :=
    List.eq_nil_iff_forall_not_mem.2 fun i hi => unpassed i (mem_marked.1 hi)
  rw [marked_append, none, List.append_nil]

namespace Counters

/-- A step that passes neither the start gate nor the end of a round. -/
theorem keep (h : Counters p e tr) (found : e.roles[r]? = some role)
    (roles : e'.roles = e.roles.setIfInBounds r role') (epoch : e'.epoch = e.epoch)
    (published : e'.rounds.size = e.rounds.size)
    (counts : ∀ k, (e'.roundAt k).notStarted = (e.roundAt k).notStarted)
    (others : ∀ i k, .passed i .arrived k ∉ events ∧ .passed i .finished k ∉ events)
    (stage : 9 < role.phase.stage → 9 < role'.phase.stage) : Counters p e' (tr ++ events) := by
  have arrivals (k : Nat) : marked (tr ++ events) .arrived k = marked tr .arrived k :=
    marked_eq_of_unpassed fun i => (others i k).1
  have ends (k : Nat) : marked (tr ++ events) .finished k = marked tr .finished k :=
    marked_eq_of_unpassed fun i => (others i k).2
  have lap : e'.lap p = e.lap p := by rw [Engine.lap, epoch, Engine.lap]
  refine ⟨?_, ?_, ?_⟩
  · intro k hk
    rw [counts, arrivals]
    exact h.arrived k (published ▸ hk)
  · intro i k hi
    rw [← mem_marked, ends, mem_marked] at hi
    exact List.mem_append_left _ (h.cleared i k hi)
  · intro i last full
    rw [lap, ends] at last full
    obtain ⟨x, hx, past⟩ := h.closing i last full
    rw [roles]
    by_cases hi : i = r
    · subst hi
      obtain rfl : role = x := Option.some.inj (found.symm.trans hx)
      exact ⟨role', (Engine.role_setRole found).2 (.inl ⟨rfl, rfl⟩), stage past⟩
    · exact ⟨x, (Engine.role_setRole found).2 (.inr ⟨hi, hx⟩), past⟩

/-- A step that changes nothing but the phase of a role and the pairs. -/
theorem plain (h : Counters p e tr) (found : e.roles[r]? = some role) {e₁ : Engine ω σ}
    (roles : e₁.roles = e.roles) (rounds : e₁.rounds = e.rounds) (epoch : e₁.epoch = e.epoch)
    (others : ∀ i k, .passed i .arrived k ∉ events ∧ .passed i .finished k ∉ events)
    (stage : 9 < role.phase.stage → 9 < role'.phase.stage) :
    Counters p (e₁.setRole r role') (tr ++ events) :=
  h.keep found (congrArg (Array.setIfInBounds · r role') roles) epoch
    (congrArg Array.size rounds) (fun k => by rw [Engine.roundAt_congr (e := e) (by exact rounds)])
    others stage

/-- A role changes its round, but not the counter of the start gate. -/
theorem onRound (h : Counters p e tr) (found : e.roles[r]? = some role) {change : Round → Round}
    (same : ∀ round, (change round).notStarted = round.notStarted)
    (others : ∀ i k, .passed i .arrived k ∉ events ∧ .passed i .finished k ∉ events)
    (stage : 9 < role.phase.stage → 9 < role'.phase.stage) :
    Counters p ((e.onRound role change).setRole r role') (tr ++ events) :=
  h.keep found rfl rfl (Engine.size_onRound e role change)
    (fun k => Engine.onRound_keeps Round.notStarted change same e role k) others stage

/-- A role counts itself in at the start gate. -/
theorem arrive (h : Counters p e tr) (lock : Lockstep p e tr) (found : e.roles[r]? = some role)
    (phase : role.phase = .arriving) :
    Counters p
      ((e.onRound role Round.arrive).setRole r { role with phase := .waiting .start false })
      (tr ++ [.passed r .arrived role.round]) := by
  have missing : .passed r .arrived role.round ∉ tr :=
    lock.not_passed found (by rw [phase]; decide)
  have short := lock.length_marked_lt (lock.lt_size found) missing
  have ends (k : Nat) : marked (tr ++ [.passed r .arrived role.round]) .finished k =
      marked tr .finished k := by
    rw [marked_append, marked_passed, if_neg (by simp), List.append_nil]
  refine ⟨?_, ?_, ?_⟩
  · intro k hk
    have hk : k < e.rounds.size := (Engine.size_onRound e role Round.arrive) ▸ hk
    change ((e.onRound role Round.arrive).roundAt k).notStarted + _ = _
    have counted := h.arrived k hk
    rw [Engine.roundAt_onRound hk, marked_append, marked_passed]
    by_cases hit : k = role.round
    · subst hit
      have some : (e.roundAt role.round).notStarted ≠ 0 := by omega
      simp only [Round.arrive, Word.pred, some, if_true, if_false, and_self, List.length_append,
        List.length_singleton]
      omega
    · rw [if_neg hit, if_neg fun heq => hit heq.2.symm, List.append_nil]
      exact counted
  · intro i k hi
    rw [← mem_marked, ends, mem_marked] at hi
    exact List.mem_append_left _ (h.cleared i k hi)
  · intro i last full
    rw [ends] at last full
    obtain ⟨x, hx, past⟩ := h.closing i last full
    refine ⟨x, (Engine.role_setRole found).2 (.inr ⟨?_, hx⟩), past⟩
    rintro rfl
    obtain rfl : role = x := Option.some.inj (found.symm.trans hx)
    rw [phase] at past
    exact absurd past (by decide)

/-- A role draws the ticket of the round that it has finished. The one that draws the last ticket
goes on to close the round. -/
theorem ticket (h : Counters p e tr) (lock : Lockstep p e tr) (found : e.roles[r]? = some role)
    (phase : role.phase = .consuming [])
    (next : e.epoch + 1 = role.base + p.size → 9 < role'.phase.stage) :
    Counters p ({ e with epoch := e.epoch + 1 }.setRole r role')
      (tr ++ [.passed r .finished role.round]) := by
  have station := lock.stations r role found (by rw [Role.Live, phase]; decide)
  have here := station.lap_eq (by rw [phase]; decide)
  have held := lock.holds_lap found (by rw [phase]; decide)
  have missing : .passed r .finished role.round ∉ tr :=
    lock.not_passed found (by rw [phase]; decide)
  have short := lock.length_marked_lt (lock.lt_size found) missing
  rw [held] at short ⊢
  have counted := lock.epoch
  have aligned := station.aligned
  rw [here] at aligned
  have lap : ({ e with epoch := e.epoch + 1 }.setRole r role').lap p = e.lap p :=
    lock.lap_of_ticket short rfl
  have arrivals (k : Nat) : marked (tr ++ [.passed r .finished (e.lap p)]) .arrived k =
      marked tr .arrived k := by
    rw [marked_append, marked_passed, if_neg (by simp), List.append_nil]
  refine ⟨?_, ?_, ?_⟩
  · intro k hk
    rw [arrivals]
    exact h.arrived k hk
  · intro i k hi
    refine List.mem_append_left _ ?_
    cases List.mem_append.1 hi with
    | inl hi => exact h.cleared i k hi
    | inr hi =>
        obtain ⟨rfl, -, rfl⟩ := Event.passed.inj (List.mem_singleton.1 hi)
        rw [← held]
        exact lock.passed found (by rw [phase]; decide) (by rw [phase]; decide)
  · intro i last full
    rw [lap, marked_append, marked_passed, if_pos ⟨rfl, rfl⟩] at last full
    rw [List.getLast?_concat] at last
    obtain rfl := Option.some.inj last
    rw [List.length_append, List.length_singleton] at full
    exact ⟨role', (Engine.role_setRole found).2 (.inl ⟨rfl, rfl⟩), next (by omega)⟩

/-- The next round is published, with all roles still to arrive. -/
theorem store (h : Counters p e tr) (lock : Lockstep p e tr) (found : e.roles[r]? = some role)
    {view : View} {stopped : Bool} (phase : role.phase = .storing view stopped) :
    Counters p ({ e with rounds := e.rounds.push (Round.published stopped view p.size) }.setRole r
      { role with phase := .releasing }) (tr ++ [.stored r role.round]) := by
  have unpassed (m : Mark) (k : Nat) : marked (tr ++ [.stored r role.round]) m k = marked tr m k :=
    marked_eq_of_unpassed (by simp)
  have lap := lock.lap_lt_rounds
  refine ⟨?_, ?_, ?_⟩
  · intro k hk
    rw [unpassed, Engine.roundAt_push (e := e) rfl]
    split
    case isTrue new =>
      have unready := lock.not_ready_of_closer found
        (by simp [Role.Closes, Role.Live, phase, Phase.stage]) (by simp [phase, Phase.stage])
      have size := lock.unready unready
      rw [lock.marked_later (by omega)]
      rfl
    case isFalse old =>
      refine h.arrived k ?_
      have : k < e.rounds.size + 1 := by simpa [Engine.setRole] using hk
      omega
  · intro i k hi
    rw [← mem_marked, unpassed, mem_marked] at hi
    exact List.mem_append_left _ (h.cleared i k hi)
  · intro i last full
    rw [unpassed] at last full
    obtain ⟨x, hx, past⟩ := h.closing i last full
    by_cases hi : i = r
    · exact ⟨_, (Engine.role_setRole found).2 (.inl ⟨hi, rfl⟩), by simp [Phase.stage]⟩
    · exact ⟨x, (Engine.role_setRole found).2 (.inr ⟨hi, hx⟩), past⟩

/-- Once the barrier opens, no role has finished the round in progress. -/
theorem release (h : Counters p e tr) (lock : Lockstep p e tr) (found : e.roles[r]? = some role)
    (phase : role.phase = .releasing) :
    Counters p ({ e with epoch := e.epoch + 1 }.setRole r role') (tr ++ []) := by
  rw [List.append_nil]
  have station := lock.stations r role found (by rw [Role.Live, phase]; decide)
  have full := (station.last (by rw [phase]; decide)).2
  have lap : ({ e with epoch := e.epoch + 1 }.setRole r role').lap p = e.lap p + 1 :=
    (lock.lap_of_release full rfl).2
  refine ⟨h.arrived, h.cleared, ?_⟩
  intro i last
  rw [lap, lock.marked_later (Nat.lt_succ_self _)] at last
  simp at last

theorem turn (h : Counters p e tr) (lock : Lockstep p e tr) (found : e.roles[r]? = some role)
    (step : Engine.Turn p e r role e' events) : Counters p e' (tr ++ events) := by
  cases step with
  | arrive phase => exact h.arrive lock found phase
  | close phase last => exact h.ticket lock found phase fun _ => by simp [Phase.stage]
  | finish phase others => exact h.ticket lock found phase fun last => absurd last others
  | store view stopped phase => exact h.store lock found phase
  | release phase => exact h.release lock found phase
  | enter phase =>
      exact h.onRound found (fun _ => rfl) (by simp) (by simp [phase, Phase.stage])
  | lag phase =>
      exact h.onRound found (fun _ => rfl) (by simp) (by simp [phase, Phase.stage])
  | depart phase =>
      exact h.onRound found (fun _ => rfl) (by simp) (by simp [phase, Phase.stage])
  | miss gate phase =>
      exact h.plain found rfl rfl rfl (by simp) (by cases gate <;> simp [phase, Phase.stage])
  | retry gate phase =>
      exact h.plain found rfl rfl rfl (by simp) (by cases gate <;> simp [phase, Phase.stage])
  | act place rest pair phase =>
      have alike := Engine.alike_absorb e place (p.test.runActor r e.world pair.state pair.result)
      exact h.plain found alike.roles alike.rounds alike.epoch (by simp)
        (by simp [phase, Phase.stage])
  | actBroke place rest pair fault phase =>
      have alike := Engine.alike_absorb e place (p.test.runActor r e.world pair.state pair.result)
      exact h.plain found alike.roles alike.rounds alike.epoch (by simp) (by simp [Phase.stage])
  | consume place rest pair fresh e₁ tally phase _ result _ =>
      have alike := Engine.alike_of_consume result
      exact h.plain found alike.roles alike.rounds alike.epoch (by simp)
        (by simp [phase, Phase.stage])
  | consumeBroke place rest pair e₁ fault phase _ result =>
      have alike := Engine.alike_of_consume result
      exact h.plain found alike.roles alike.rounds alike.epoch (by simp) (by simp [Phase.stage])
  | grow world view arena phase =>
      refine h.plain found rfl rfl rfl (fun i k => ?_) (by simp [Phase.stage])
      have made := silent_madeFrom (role.round + 1) e.arena.size (e.added p arena) i
      simp [made]
  | rest phase => rwa [List.append_nil]
  | _ => exact h.plain found rfl rfl rfl (by simp) (by simp [*, Phase.stage])

theorem still (h : Counters p e tr) {m : Engine.Move} (outside : ∀ r, m ≠ .role r) :
    Counters p (e.apply p m) tr := by
  cases m with
  | role r => exact absurd rfl (outside r)
  | stop => exact { h with }
  | abort => exact { h with }
  | tick nanos => exact { h with }

theorem launch (p : EnginePlan ω σ) (w : ω) : Counters p (p.launch w) [] := by
  refine ⟨?_, by simp, by simp [marked]⟩
  intro k hk
  obtain rfl : k = 0 := Nat.lt_one_iff.1 hk
  rfl

end Counters

theorem counters (p : EnginePlan ω σ) (w : ω) (ms : List Engine.Move) :
    Counters p ((p.launch w).run p ms) ((p.launch w).trace p ms) :=
  (Engine.turn_invariant (P := fun e tr => Lockstep p e tr ∧ Counters p e tr)
    ⟨.launch p w, .launch p w⟩ ms
    (fun _ _ _ _ _ _ h found step => ⟨h.1.turn found step, h.2.turn h.1 found step⟩)
    fun _ _ outside _ _ h => ⟨h.1.still outside, h.2.still outside⟩).2

end Litmus
