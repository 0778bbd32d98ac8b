import Litmus.Proofs.Engine.Ending
import Litmus.Proofs.Engine.Ledger

/-!
Every round that is over was published by one role, the rounds follow each other in order, and
every role that is in a round holds the round that all others hold. A stopped round is the last.
-/
namespace Litmus

variable {ω σ : Type} {p : EnginePlan ω σ} {e e' : Engine ω σ} {tr events : List (Event ω σ)}
  {r i k : Nat} {role role' : Role}

/-! ### Departures -/

/-- A role about to give the alarm. -/
def Role.Dies (role : Role) : Prop := ∃ fault, role.phase = .dying fault

/-- Why the roles that are out are so: a role that left saw a stopped round. -/
structure Departures (e : Engine ω σ) (tr : List (Event ω σ)) : Prop where
  out : ∀ (r : Nat) (role : Role), e.roles[r]? = some role → role.phase.stage = 14 →
    (∃ k, .left r k ∈ tr) ∨ .gaveUp r ∈ tr ∨ .broke r ∈ tr ∨ role.Dies
  left : ∀ r k, .left r k ∈ tr → (e.roundAt k).stopped = true

/-- A step that reads a round reads the current one. -/
theorem Engine.Turn.left_mem (step : Engine.Turn p e r role e' events)
    (h : .left i k ∈ events) : role.phase = .loading ∧ k = e.current ∧
      (e.roundAt e.current).stopped = true := by
  cases step with
  | leave phase stopped =>
      obtain ⟨-, rfl⟩ := Event.left.inj (List.mem_singleton.1 h)
      exact ⟨phase, rfl, stopped⟩
  | grow => simp [madeFrom] at h
  | _ => simp at h

theorem Engine.Turn.loaded_mem (step : Engine.Turn p e r role e' events)
    (h : .passed i .loaded k ∈ events) : role.phase = .loading ∧ k = e.current := by
  cases step with
  | load phase going =>
      obtain ⟨-, -, rfl⟩ := Event.passed.inj (List.mem_singleton.1 h)
      exact ⟨phase, rfl⟩
  | grow => simp [madeFrom] at h
  | _ => simp at h

/-- How a step leads to a role that is out. -/
theorem Engine.Turn.departs (found : e.roles[r]? = some role)
    (step : Engine.Turn p e r role e' events) :
    ∃ role', e'.roles = e.roles.setIfInBounds r role' ∧ (role'.phase.stage = 14 →
      (.left r e.current ∈ events ∧ (e.roundAt e.current).stopped = true) ∨ .gaveUp r ∈ events ∨
        .broke r ∈ events ∨ role'.Dies ∨ (role.phase.stage = 14 ∧ ¬ role.Dies)) := by
  have dies {x : Role} {fault : Fault} (phase : x.phase = .dying fault) : x.Dies := ⟨fault, phase⟩
  obtain ⟨last, roles, -⟩ := step.roles_eq found
  cases step with
  | leave phase stopped => exact ⟨_, rfl, fun _ => .inl ⟨by simp, stopped⟩⟩
  | giveUp => exact ⟨_, rfl, fun _ => .inr (.inl (by simp))⟩
  | die => exact ⟨_, rfl, fun _ => .inr (.inr (.inl (by simp)))⟩
  | misfit => exact ⟨_, rfl, fun _ => .inr (.inr (.inr (.inl (dies rfl))))⟩
  | actBroke => exact ⟨_, rfl, fun _ => .inr (.inr (.inr (.inl (dies rfl))))⟩
  | actLost => exact ⟨_, rfl, fun _ => .inr (.inr (.inr (.inl (dies rfl))))⟩
  | consumeLost => exact ⟨_, rfl, fun _ => .inr (.inr (.inr (.inl (dies rfl))))⟩
  | growBroke => exact ⟨_, rfl, fun _ => .inr (.inr (.inr (.inl (dies rfl))))⟩
  | consumeBroke place rest pair e₁ fault phase _ result =>
      have alike := Engine.alike_of_consume result
      exact ⟨_, alike.roles_setRole r _,
        fun _ => .inr (.inr (.inr (.inl (dies rfl))))⟩
  | consume place rest pair fresh e₁ tally phase _ result _ =>
      have alike := Engine.alike_of_consume result
      exact ⟨_, alike.roles_setRole r _, by simp [Phase.stage]⟩
  | halt fault phase =>
      exact ⟨_, rfl, fun _ => .inr (.inr (.inr (.inr (by simp [phase, Phase.stage, Role.Dies]))))⟩
  | exit result phase =>
      exact ⟨_, rfl, fun _ => .inr (.inr (.inr (.inr (by simp [phase, Phase.stage, Role.Dies]))))⟩
  | report result phase =>
      exact ⟨_, rfl, fun _ => .inr (.inr (.inr (.inr (by simp [phase, Phase.stage, Role.Dies]))))⟩
  | rest phase =>
      exact ⟨_, roles, fun _ => .inr (.inr (.inr (.inr (by simp [phase, Phase.stage, Role.Dies]))))⟩
  | miss gate phase => exact ⟨_, rfl, by cases gate <;> simp [Phase.stage]⟩
  | retry gate phase => exact ⟨_, rfl, by cases gate <;> simp [Phase.stage]⟩
  | _ => exact ⟨_, rfl, by simp [Phase.stage]⟩

namespace Departures

theorem turn (h : Departures e tr) (lock : Lockstep p e tr) (found : e.roles[r]? = some role)
    (step : Engine.Turn p e r role e' events) : Departures e' (tr ++ events) := by
  have kept := (step.published Round.stopped (fun _ => rfl) (fun _ => rfl) (fun _ => rfl)
    fun _ => rfl).2
  obtain ⟨role', roles, departs⟩ := step.departs found
  refine ⟨?_, ?_⟩
  · intro i x hx stage
    rw [roles] at hx
    rcases (Engine.role_setRole found).1 hx with ⟨rfl, rfl⟩ | ⟨-, hx⟩
    · simp only [List.mem_append]
      rcases departs stage with left | gave | broke | dies | ⟨before, alive⟩
      · exact .inl ⟨_, .inr left.1⟩
      · exact .inr (.inl (.inr gave))
      · exact .inr (.inr (.inl (.inr broke)))
      · exact .inr (.inr (.inr dies))
      · rcases h.out i role found before with ⟨k, left⟩ | gave | broke | dies
        · exact .inl ⟨k, .inl left⟩
        · exact .inr (.inl (.inl gave))
        · exact .inr (.inr (.inl (.inl broke)))
        · exact absurd dies alive
    · simp only [List.mem_append]
      rcases h.out i x hx stage with ⟨k, left⟩ | gave | broke | dies
      · exact .inl ⟨k, .inl left⟩
      · exact .inr (.inl (.inl gave))
      · exact .inr (.inr (.inl (.inl broke)))
      · exact .inr (.inr (.inr dies))
  · intro i k hleft
    cases List.mem_append.1 hleft with
    | inl hleft =>
        have stopped := h.left i k hleft
        have last := lock.stoppedLast k stopped
        rw [kept k (by omega), stopped]
    | inr hleft =>
        obtain ⟨-, rfl, stopped⟩ := step.left_mem hleft
        rw [kept _ (by rw [Engine.current]; have := lock.lap_lt_rounds; omega), stopped]

theorem still (h : Departures e tr) {m : Engine.Move} (outside : ∀ r, m ≠ .role r) :
    Departures (e.apply p m) tr := by
  cases m with
  | role r => exact absurd rfl (outside r)
  | stop => exact { h with }
  | abort => exact { h with }
  | tick nanos => exact { h with }

theorem launch (p : EnginePlan ω σ) (w : ω) : Departures (p.launch w) [] := by
  refine ⟨fun r role found stage => ?_, by simp⟩
  rw [p.launched_role w found] at stage
  exact absurd stage (by decide)

end Departures

theorem departures (p : EnginePlan ω σ) (w : ω) (ms : List Engine.Move) :
    Departures ((p.launch w).run p ms) ((p.launch w).trace p ms) :=
  (Engine.turn_invariant (P := fun e tr => Lockstep p e tr ∧ Departures e tr)
    ⟨.launch p w, .launch p w⟩ ms
    (fun _ _ _ _ _ _ h found step => ⟨h.1.turn found step, h.2.turn h.1 found step⟩)
    fun _ _ outside _ _ h => ⟨h.1.still outside, h.2.still outside⟩).2

/-! ### The order of rounds -/

structure Orderly (p : EnginePlan ω σ) (e : Engine ω σ) (tr : List (Event ω σ)) : Prop where
  recorded : (recordings tr).map (·.2) = List.range e.stats.publishes
  stored : (stores tr).map (·.2) = List.range e.current
  publisher : stores tr <+: recordings tr
  once : ∀ k < e.current, ∃! r, .stored r k ∈ tr
  completed : e.lap p ≤ e.current ∧ e.current ≤ e.lap p + 1
  holds : ∀ (r : Nat) (role : Role), e.roles[r]? = some role →
    1 < role.phase.stage → role.Live →
      role.round = role.lap p ∧ role.base = role.lap p * (p.size + 1) ∧ role.round ≤ e.current
  /-- A role that reads the next round, stopped or not, finds the one before consumed. -/
  loads : ∀ m r k, .passed r .loaded (k + 1) ∈ e.eventsOf p m ∨ .left r (k + 1) ∈ e.eventsOf p m →
    ∀ i < p.size, .passed i .finished k ∈ tr ∧ consumedBy tr i k = e.slice p i k
  stats : (¬ ∃ view, e.Drawn view) → e.stats.publishes = e.current ∧ e.stats.duplicates = 0 ∧
    e.stats.grows = e.enlarged ∧ e.stats.pool = e.sizeAt e.current
  stoppedLast : ∀ k, (e.roundAt k).stopped = true → k = e.current
  /-- After a stopped round nothing is run or published. -/
  last : (e.roundAt e.current).stopped = true → ∀ later, (e.run p later).rounds = e.rounds ∧
    ∀ event ∈ e.trace p later,
      ∃ r, event = .left r e.current ∨ event = .gaveUp r ∨ event = .broke r
  /-- After a stopped round every role gets out once it has moved often enough. -/
  exits : (e.roundAt e.current).stopped = true → ∀ ms ms', (∀ r < p.size, .role r ∈ ms) →
    (∀ r < p.size, 3 ≤ ms'.count (.role r)) → ∀ r < p.size, (e.run p (ms ++ ms')).Out r
  out : ∀ (r : Nat) (role : Role), e.roles[r]? = some role → role.phase.stage = 14 →
    (.left r e.current ∈ tr ∧ (e.roundAt e.current).stopped = true) ∨ .gaveUp r ∈ tr ∨
      .broke r ∈ tr ∨ role.Dies

theorem Ledger.recorded (h : Ledger e tr) (kept : Books p e) :
    (recordings tr).map (·.2) = List.range e.stats.publishes := by
  by_cases drawn : ∃ view, e.Drawn view
  · obtain ⟨view, hview⟩ := drawn
    obtain ⟨r, hr⟩ := Engine.drawn_iff.1 ⟨view, hview⟩
    rw [h.drawn r hr, List.map_append, h.stored, (kept.drawn view hview).2.1, List.range_succ]
    rfl
  · rw [h.settled fun hr => drawn (Engine.drawn_iff.2 hr), h.stored, (kept.settled drawn).1]

theorem Ledger.publisher (h : Ledger e tr) : stores tr <+: recordings tr := by
  by_cases drawn : ∃ r, e.DrawnBy r
  · obtain ⟨r, hr⟩ := drawn
    exact ⟨[(r, e.current)], (h.drawn r hr).symm⟩
  · exact ⟨[], (List.append_nil _).trans (h.settled drawn).symm⟩

theorem Ledger.once (h : Ledger e tr) (hk : k < e.current) : ∃! r, .stored r k ∈ tr := by
  have published : k ∈ (stores tr).map (·.2) := by
    rw [h.stored]
    exact List.mem_range.2 hk
  obtain ⟨⟨r, j⟩, hmem, rfl⟩ := List.mem_map.1 published
  refine ⟨r, mem_stores.1 hmem, fun i hi => ?_⟩
  have distinct : ((stores tr).map (·.2)).Nodup := by
    rw [h.stored]
    exact List.nodup_range
  have same := List.inj_on_of_nodup_map distinct (mem_stores.2 hi) hmem rfl
  exact congrArg Prod.fst same

/-- A role finds the current round only when all roles have finished the one before. -/
theorem Lockstep.finished_of_loading (h : Lockstep p e tr) (found : e.roles[r]? = some role)
    (phase : role.phase = .loading) (current : e.current = k + 1) (hi : i < p.size) :
    .passed i .finished k ∈ tr := by
  have lap := h.current_eq found (by rw [phase]; rfl)
  exact h.passed_of_length (h.past k (by omega)) hi

/-- In every run, whatever the roles and bodies do and whenever it is stopped or aborted. -/
theorem publishes_once (p : EnginePlan ω σ) (w : ω) (ms : List Engine.Move) :
    Orderly p ((p.launch w).run p ms) ((p.launch w).trace p ms) := by
  have lock := lockstep p w ms
  have kept := books p w ms
  have book := ledger p w ms
  have seen := visits p w ms
  have gone := departures p w ms
  generalize (p.launch w).run p ms = e at *
  generalize (p.launch w).trace p ms = tr at *
  have size := lock.lap_lt_rounds
  have current : e.current + 1 = e.rounds.size := by
    rw [Engine.current]
    omega
  have stoppedLast (k : Nat) (stopped : (e.roundAt k).stopped = true) : k = e.current := by
    have := lock.stoppedLast k stopped
    omega
  refine ⟨book.recorded kept, book.stored, book.publisher, fun k hk => book.once hk, ?_, ?_, ?_,
    ?_, stoppedLast, ?_, ?_, ?_⟩
  · by_cases ready : e.Ready
    · have := lock.ready ready
      omega
    · have := lock.unready ready
      omega
  · intro r role found later live
    have round := lock.round_eq_lap found ⟨later, live⟩
    have inside := lock.round_lt found ⟨later, live⟩
    exact ⟨round, (lock.stations r role found live).aligned, by omega⟩
  · intro m r k reads i hi
    have finished : .passed i .finished k ∈ tr := by
      cases m with
      | role j =>
          cases found : e.roles[j]? with
          | none => simp [Engine.eventsOf, found] at reads
          | some role =>
              simp only [Engine.eventsOf, found] at reads
              have step := Engine.stepRole_turn p e j role
              cases reads with
              | inl loads =>
                  obtain ⟨phase, now⟩ := step.loaded_mem loads
                  exact lock.finished_of_loading found phase now.symm hi
              | inr leaves =>
                  obtain ⟨phase, now, -⟩ := step.left_mem leaves
                  exact lock.finished_of_loading found phase now.symm hi
      | _ => simp [Engine.eventsOf] at reads
    exact ⟨finished, seen.finished i k finished⟩
  · intro none
    obtain ⟨publishes, grows, pool, -⟩ := kept.settled none
    exact ⟨publishes, kept.duplicates, grows, pool⟩
  · intro stopped later
    exact (Engine.Ended.run ⟨⟨tr, lock⟩, stopped⟩ later).2
  · intro stopped ms ms' moved thrice r hr
    exact Engine.Ended.all_out ⟨⟨tr, lock⟩, stopped⟩ moved thrice hr
  · intro r role found stage
    rcases gone.out r role found stage with ⟨k, left⟩ | gave | broke | dies
    · have stopped := gone.left r k left
      obtain rfl := stoppedLast k stopped
      exact .inl ⟨left, stopped⟩
    · exact .inr (.inl gave)
    · exact .inr (.inr (.inl broke))
    · exact .inr (.inr (.inr dies))

/-- A body that counts in the state how many bodies have run, and writes the count into a slot. -/
def counter (slot : Nat) : Body Unit Nat := fun world state result =>
  { world, state := state + 1, result := ⟨result.values.set slot (.ofNat (state + 1))⟩ }

/-- Two roles that count in one and the same state. -/
def counting : EnginePlan Unit Nat where
  test :=
    { name := "counting"
      actors := [⟨"first", counter 0⟩, ⟨"second", counter 1⟩]
      fresh := fun world => (world, .ok 0)
      slots := 2
      pairBytes := 24 }
  range := .fixed 1 2
  memory := .ofSize 48

/-- The roles take turns until the owner stops them, and then in the opposite order. They observe
a pair in each of two rounds. -/
def countingMoves : List Engine.Move :=
  (List.replicate 32 [.role 0, .role 1]).flatten ++ .stop ::
    (List.replicate 18 [.role 1, .role 0]).flatten

/-- Three rounds are published, of which the last one is stopped, and both roles leave at it. -/
theorem publishes_once_counting :
    Orderly counting ((counting.launch ()).run counting countingMoves)
        ((counting.launch ()).trace counting countingMoves) ∧
      stores ((counting.launch ()).trace counting countingMoves) = [(1, 0), (1, 1), (1, 2)] ∧
      (((counting.launch ()).run counting countingMoves).roundAt 3).stopped = true ∧
      ((counting.launch ()).run counting countingMoves).phaseAt 0 = .gone ∧
      ((counting.launch ()).run counting countingMoves).phaseAt 1 = .gone := by
  refine ⟨publishes_once counting () countingMoves, ?_, ?_, ?_, ?_⟩ <;> cbv

end Litmus
