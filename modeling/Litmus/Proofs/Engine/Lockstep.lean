import Litmus.Proofs.Engine.Station

/-!
Every step keeps the roles in step: a step within a round, the ticket that a role draws at its end,
the publication of the next round and the opening of the barrier.
-/
namespace Litmus

variable {ω σ : Type} {p : EnginePlan ω σ} {e e' : Engine ω σ} {tr events : List (Event ω σ)}
  {r : Nat} {role role' : Role} {mark : Mark} {k : Nat}

namespace Lockstep

theorem station_of_stage (h : Lockstep p e tr) (found : e.roles[r]? = some role) {stage : Nat}
    (same : role.phase.stage = stage) (live : stage < 14) : Station p e tr r role :=
  h.stations r role found (by rwa [Role.Live, same])

/-- A step that passes no mark. -/
theorem silent (h : Lockstep p e tr) (found : e.roles[r]? = some role)
    (w : Within p e e' r role')
    (counts : ∀ k, (e'.roundAt k).notFinished = (e.roundAt k).notFinished) (quiet : Silent events)
    (same : role'.phase.stage = 13 ↔ role.phase.stage = 13)
    (station : role'.Live → Station p e tr r role') : Lockstep p e' (tr ++ events) where
  size := by rw [w.roles, Array.size_setIfInBounds, h.size]
  epoch := by rw [w.lap, w.epoch, quiet.marked, h.epoch]
  past k hk := by
    rw [quiet.marked]
    exact h.past k (w.lap ▸ hk)
  nodup mark k := by
    rw [quiet.marked]
    exact h.nodup mark k
  inside i mark k hi := by
    rw [w.lap]
    exact h.inside i mark k (quiet.passed_iff.1 hi)
  counted k hk := by
    rw [counts, quiet.marked]
    exact h.counted k (w.published ▸ hk)
  ready ready := by
    rw [w.published, w.lap]
    exact h.ready ((w.ready_iff found same).1 ready)
  unready none := by
    rw [w.published, w.lap]
    exact h.unready fun ready => none ((w.ready_iff found same).2 ready)
  stoppedLast k hk := by
    rw [w.published]
    exact h.stoppedLast k (w.stopped k ▸ hk)
  running i mark k hi := by
    rw [w.stopped]
    exact h.running i mark k (quiet.passed_iff.1 hi)
  cleared i k hi j hj := quiet.passed_iff.2 (h.cleared i k (quiet.passed_iff.1 hi) j hj)
  stations i x hx live := by
    rw [w.roles] at hx
    rcases (Engine.role_setRole found).1 hx with ⟨rfl, rfl⟩ | ⟨-, hx⟩
    · exact (station live).congr w.lap (w.stopped _) (fun _ _ => quiet.passed_iff)
        fun _ => quiet.marked
    · exact (h.stations i x hx live).congr w.lap (w.stopped _) (fun _ _ => quiet.passed_iff)
        fun _ => quiet.marked

theorem nodup_pass (h : Lockstep p e tr) (fresh : .passed r mark k ∉ tr) (m : Mark) (j : Nat) :
    (marked (tr ++ [.passed r mark k]) m j).Nodup := by
  rw [marked_append, marked_passed]
  split
  case isTrue heq =>
    obtain ⟨rfl, rfl⟩ := heq
    refine (h.nodup mark k).append (List.nodup_singleton r) ?_
    intro i hi hr
    rw [List.mem_singleton.1 hr] at hi
    exact fresh (mem_marked.1 hi)
  case isFalse =>
    rw [List.append_nil]
    exact h.nodup m j

theorem inside_pass (h : Lockstep p e tr) (hr : r < p.size) (hk : k ≤ e.lap p) (i : Nat) (m : Mark)
    (j : Nat) (hi : .passed i m j ∈ tr ++ [.passed r mark k]) : i < p.size ∧ j ≤ e.lap p := by
  cases List.mem_append.1 hi with
  | inl hi => exact h.inside i m j hi
  | inr hi =>
      obtain ⟨rfl, -, rfl⟩ := Event.passed.inj (List.mem_singleton.1 hi)
      exact ⟨hr, hk⟩

theorem running_pass (h : Lockstep p e tr) (going : (e.roundAt k).stopped = false) (i : Nat)
    (m : Mark) (j : Nat) (hi : .passed i m j ∈ tr ++ [.passed r mark k]) :
    (e.roundAt j).stopped = false := by
  cases List.mem_append.1 hi with
  | inl hi => exact h.running i m j hi
  | inr hi =>
      obtain ⟨-, -, rfl⟩ := Event.passed.inj (List.mem_singleton.1 hi)
      exact going

/-- A step that passes a mark of the round in progress other than its end. -/
theorem pass (h : Lockstep p e tr) (found : e.roles[r]? = some role) (w : Within p e e' r role')
    (stage : role.phase.stage = mark.stage) (stage' : role'.phase.stage = mark.stage + 1)
    (notLast : mark ≠ .finished)
    (base : role'.base = role.base) (round : role'.round = e.lap p)
    (going : (e.roundAt (e.lap p)).stopped = false)
    (counts : ∀ k < e.rounds.size, (e'.roundAt k).notFinished =
      (e.roundAt k).notFinished - if mark = .departed ∧ k = e.lap p then 1 else 0)
    (clears : mark = .cleared → ∀ i < p.size, .passed i .departed (e.lap p) ∈ tr)
    (now : k = e.lap p) : Lockstep p e' (tr ++ [.passed r mark k]) := by
  subst now
  have hr := h.lt_size found
  have station := h.station_of_stage found stage (Nat.lt_of_lt_of_le mark.stage_lt (by decide))
  have lap : role.lap p = e.lap p := by
    refine station.lap_eq ?_
    rw [stage]
    cases mark <;> decide
  have fresh : .passed r mark (e.lap p) ∉ tr := by
    rw [← lap]
    exact station.history.not_passed (Nat.le_of_eq stage)
  have lap' : role'.lap p = e.lap p := by rw [Role.lap, base]; exact lap
  have below : mark.stage < 9 := by cases mark <;> simp [Mark.stage] at notLast ⊢
  have ends (k : Nat) : marked (tr ++ [.passed r mark (e.lap p)]) .finished k =
      marked tr .finished k := by
    rw [marked_append, marked_passed, if_neg fun heq => notLast heq.1, List.append_nil]
  have ready : e'.Ready ↔ e.Ready := w.ready_iff found (by omega)
  refine ⟨?_, ?_, ?_, h.nodup_pass fresh, ?_, ?_, ?_, ?_, ?_, ?_, ?_, ?_⟩
  · rw [w.roles, Array.size_setIfInBounds, h.size]
  · rw [w.lap, w.epoch, ends, h.epoch]
  · intro k hk
    rw [ends]
    exact h.past k (w.lap ▸ hk)
  · rw [w.lap]
    exact h.inside_pass hr (Nat.le_refl _)
  · intro k hk
    rw [w.published] at hk
    have counted := h.counted k hk
    rw [counts k hk, marked_append, marked_passed]
    by_cases hit : mark = .departed ∧ k = e.lap p
    · have missing := h.length_marked_lt hr fresh
      obtain ⟨rfl, rfl⟩ := hit
      simp only [and_self, if_true, List.length_append, List.length_singleton]
      omega
    · rw [if_neg hit, if_neg fun heq => hit ⟨heq.1, heq.2.symm⟩, List.append_nil]
      exact counted
  · rw [w.published, w.lap]
    exact fun hready => h.ready (ready.1 hready)
  · rw [w.published, w.lap]
    exact fun none => h.unready fun hready => none (ready.2 hready)
  · intro k hk
    rw [w.published]
    exact h.stoppedLast k (w.stopped k ▸ hk)
  · intro i m k hi
    rw [w.stopped]
    exact h.running_pass going i m k hi
  · intro i k hi j hj
    refine List.mem_append_left _ ?_
    cases List.mem_append.1 hi with
    | inl hi => exact h.cleared i k hi j hj
    | inr hi =>
        obtain ⟨-, hmark, rfl⟩ := Event.passed.inj (List.mem_singleton.1 hi)
        exact clears hmark.symm j hj
  · intro i x hx live
    rw [w.roles] at hx
    rcases (Engine.role_setRole found).1 hx with ⟨rfl, rfl⟩ | ⟨hne, hx⟩
    · refine ⟨?_, ?_, .inl (by rw [w.lap, lap']), ?_, fun later => by omega⟩
      · rw [lap', base, station.aligned, lap]
      · have history := station.history
        rw [stage, lap] at history
        rw [lap', stage']
        exact history.pass
      · intro
        rw [w.lap, w.stopped]
        exact ⟨round, going⟩
    · exact (h.stations i x hx live).congr w.lap (w.stopped _)
        (fun m k => passed_iff_of_ne hne (e.lap p) mark m k) fun _ => ends _

/-! ### The end of a round -/

/-- As long as a role has not finished the round in progress, no role closes it. -/
theorem not_closes (h : Lockstep p e tr)
    (going : (marked tr .finished (e.lap p)).length < p.size) {i : Nat} {x : Role}
    (hx : e.roles[i]? = some x) (live : x.Live) : ¬ 9 < x.phase.stage := fun later => by
  have := ((h.stations i x hx live).last later).2
  omega

theorem not_ready (h : Lockstep p e tr)
    (going : (marked tr .finished (e.lap p)).length < p.size) : ¬ e.Ready := by
  rintro ⟨i, x, hx, stage⟩
  have live : x.Live := by
    rw [Role.Live]
    omega
  exact h.not_closes going hx live (by omega)

/-- A role counts itself in at the barrier. The role that is last to do so closes the round. -/
theorem ticket (h : Lockstep p e tr) (found : e.roles[r]? = some role)
    (roles : e'.roles = e.roles.setIfInBounds r role') (epoch : e'.epoch = e.epoch + 1)
    (rounds : e'.rounds = e.rounds) (stage : role.phase.stage = 9)
    (round : role'.round = role.round)
    (next : (e.epoch + 1 = role.base + p.size ∧ role'.base = role.base ∧
        role'.phase.stage = 10) ∨
      (role'.base = role.base + p.size + 1 ∧ role'.phase.stage = 0)) :
    Lockstep p e' (tr ++ [.passed r .finished role.round]) := by
  have hr := h.lt_size found
  have station := h.station_of_stage found stage (by decide)
  have here : role.lap p = e.lap p := station.lap_eq (by omega)
  have aligned := station.aligned
  have fresh : .passed r .finished (e.lap p) ∉ tr := by
    rw [← here]
    exact station.history.not_passed (Nat.le_of_eq stage)
  have going := h.length_marked_lt hr fresh
  obtain ⟨held, notStopped⟩ := station.holds (by omega)
  rw [held]
  have lap := h.lap_of_ticket going epoch
  have history := station.history
  rw [stage, here] at history
  have history : History (tr ++ [.passed r .finished (e.lap p)]) r (e.lap p) 10 := history.pass
  have unready : ¬ e'.Ready := by
    rintro ⟨i, x, hx, stage'⟩
    rw [roles] at hx
    rcases (Engine.role_setRole found).1 hx with ⟨rfl, rfl⟩ | ⟨-, hx⟩
    · omega
    · exact h.not_ready going ⟨i, x, hx, stage'⟩
  refine ⟨?_, ?_, ?_, h.nodup_pass fresh, ?_, ?_, ?_, ?_, ?_, ?_, ?_, ?_⟩
  · rw [roles, Array.size_setIfInBounds, h.size]
  · rw [lap, epoch, h.epoch, marked_append, marked_passed, if_pos ⟨rfl, rfl⟩, List.length_append]
    rfl
  · intro k hk
    rw [lap] at hk
    rw [marked_append, marked_passed, if_neg fun heq => Nat.ne_of_lt hk heq.2.symm,
      List.append_nil]
    exact h.past k hk
  · rw [lap]
    exact h.inside_pass hr (Nat.le_refl _)
  · intro k hk
    rw [Engine.roundAt_congr rounds, marked_append, marked_passed, if_neg (by simp),
      List.append_nil]
    exact h.counted k (rounds ▸ hk)
  · exact fun ready => absurd ready unready
  · intro
    rw [rounds, lap]
    exact h.unready (h.not_ready going)
  · intro k hk
    rw [Engine.roundAt_congr rounds] at hk
    rw [rounds]
    exact h.stoppedLast k hk
  · intro i m k hi
    rw [Engine.roundAt_congr rounds]
    exact h.running_pass notStopped i m k hi
  · intro i k hi j hj
    refine List.mem_append_left _ (h.cleared i k ?_ j hj)
    simpa using hi
  · intro i x hx live
    rw [roles] at hx
    rcases (Engine.role_setRole found).1 hx with ⟨rfl, rfl⟩ | ⟨hne, hx⟩
    · rcases next with ⟨closes, base, stage'⟩ | ⟨base, stage'⟩
      · have lap' : x.lap p = e.lap p := by rw [Role.lap, base]; exact here
        refine ⟨?_, ?_, .inl (by rw [lap, lap']), ?_, ?_⟩
        · rw [lap', base, aligned, here]
        · rw [lap', stage']
          exact history
        · intro
          rw [lap, Engine.roundAt_congr rounds, round]
          exact ⟨held, notStopped⟩
        · intro
          rw [lap, marked_append, marked_passed, if_pos ⟨rfl, rfl⟩]
          refine ⟨List.getLast?_concat .., ?_⟩
          have := h.epoch
          rw [here] at aligned
          rw [List.length_append, List.length_singleton]
          omega
      · obtain ⟨base', lap'⟩ := station.next_lap base
        rw [here] at base' lap'
        refine ⟨by rw [lap', base'], ?_, .inr ⟨stage', by rw [lap', lap]⟩, ?_, ?_⟩
        · rw [lap', stage']
          exact history.next (by decide)
        · exact fun later => by omega
        · exact fun later => by omega
    · refine (h.stations i x hx live).congr lap (by rw [Engine.roundAt_congr rounds])
        (fun m k => passed_iff_of_ne hne (e.lap p) .finished m k) fun later => ?_
      exact absurd later (h.not_closes going hx live)

/-- The role that closes a round makes the next one the current one. -/
theorem store (h : Lockstep p e tr) (found : e.roles[r]? = some role)
    (roles : e'.roles = e.roles.setIfInBounds r role') (epoch : e'.epoch = e.epoch)
    {stopped : Bool} {view : View}
    (rounds : e'.rounds = e.rounds.push (Round.published stopped view p.size))
    (quiet : Silent events) (stage : role.phase.stage = 12) (stage' : role'.phase.stage = 13)
    (base : role'.base = role.base)
    (round : role'.round = role.round) : Lockstep p e' (tr ++ events) := by
  have closes : role.Closes := by
    rw [Role.Closes, Role.Live]
    omega
  have station := h.stations r role found closes.2
  have unready := h.not_ready_of_closer found closes (by omega)
  have published := h.unready unready
  have size : e'.rounds.size = e.lap p + 2 := by rw [rounds, Array.size_push, published]
  have lap : e'.lap p = e.lap p := by rw [Engine.lap, epoch, Engine.lap]
  have before {k : Nat} (hk : k ≠ e.rounds.size) : e'.roundAt k = e.roundAt k := by
    rw [Engine.roundAt_push rounds, if_neg hk]
  obtain ⟨held, notStopped⟩ := station.holds (by omega)
  have keeps (i : Nat) (m : Mark) (k : Nat) (hi : .passed i m k ∈ tr) : k ≠ e.rounds.size := by
    have := (h.inside i m k hi).2
    omega
  refine ⟨?_, ?_, ?_, ?_, ?_, ?_, fun _ => by rw [size, lap], ?_, ?_, ?_, ?_, ?_⟩
  · rw [roles, Array.size_setIfInBounds, h.size]
  · rw [lap, epoch, quiet.marked, h.epoch]
  · intro k hk
    rw [quiet.marked]
    exact h.past k (lap ▸ hk)
  · intro mark k
    rw [quiet.marked]
    exact h.nodup mark k
  · intro i mark k hi
    rw [lap]
    exact h.inside i mark k (quiet.passed_iff.1 hi)
  · intro k hk
    rw [quiet.marked]
    by_cases new : k = e.rounds.size
    · rw [Engine.roundAt_push rounds, if_pos new, h.marked_later (by omega)]
      rfl
    · rw [before new]
      exact h.counted k (by omega)
  · intro none
    refine absurd ⟨r, role', ?_, stage'⟩ none
    rw [roles]
    exact (Engine.role_setRole found).2 (.inl ⟨rfl, rfl⟩)
  · intro k hk
    by_cases new : k = e.rounds.size
    · omega
    · rw [before new] at hk
      have : k = e.lap p := by
        have := h.stoppedLast k hk
        omega
      rw [this, notStopped] at hk
      simp at hk
  · intro i m k hi
    have hi := quiet.passed_iff.1 hi
    rw [before (keeps i m k hi)]
    exact h.running i m k hi
  · exact fun i k hi j hj => quiet.passed_iff.2 (h.cleared i k (quiet.passed_iff.1 hi) j hj)
  · intro i x hx live
    rw [roles] at hx
    have same : (e'.roundAt (e.lap p)).stopped = (e.roundAt (e.lap p)).stopped := by
      rw [before (by omega)]
    rcases (Engine.role_setRole found).1 hx with ⟨rfl, rfl⟩ | ⟨-, hx⟩
    · have skipped : Station p e tr i x := by
        refine station.skip base round ?_ (station.lap_eq (by omega))
        rw [stage, stage']
        decide
      exact skipped.congr lap same (fun _ _ => quiet.passed_iff) fun _ => quiet.marked
    · exact (h.stations i x hx live).congr lap same (fun _ _ => quiet.passed_iff)
        fun _ => quiet.marked

/-- The role that closes a round opens the barrier. -/
theorem release (h : Lockstep p e tr) (found : e.roles[r]? = some role)
    (roles : e'.roles = e.roles.setIfInBounds r role') (epoch : e'.epoch = e.epoch + 1)
    (rounds : e'.rounds = e.rounds) (stage : role.phase.stage = 13)
    (base : role'.base = role.base + p.size + 1)
    (stage' : role'.phase.stage = 0) : Lockstep p e' tr := by
  have closes : role.Closes := by
    rw [Role.Closes, Role.Live]
    omega
  have station := h.stations r role found closes.2
  have full := (station.last closes.1).2
  have here : role.lap p = e.lap p := station.lap_eq (by omega)
  obtain ⟨counted, lap⟩ := h.lap_of_release full epoch
  have published := h.ready ⟨r, role, found, stage⟩
  refine ⟨?_, ?_, ?_, h.nodup, ?_, ?_, ?_, ?_, ?_, ?_, h.cleared, ?_⟩
  · rw [roles, Array.size_setIfInBounds, h.size]
  · rw [lap, counted, h.marked_later (Nat.lt_succ_self _)]
    rfl
  · intro k hk
    rw [lap] at hk
    rcases Nat.lt_or_eq_of_le (Nat.le_of_lt_succ hk) with hk | rfl
    · exact h.past k hk
    · exact full
  · intro i m k hi
    have := h.inside i m k hi
    omega
  · intro k hk
    rw [Engine.roundAt_congr rounds]
    exact h.counted k (rounds ▸ hk)
  · rintro ⟨i, x, hx, hstage⟩
    rw [roles] at hx
    rcases (Engine.role_setRole found).1 hx with ⟨rfl, rfl⟩ | ⟨hne, hx⟩
    · omega
    · have hcloses : x.Closes := by
        rw [Role.Closes, Role.Live]
        omega
      exact absurd (h.closer_unique found closes hx hcloses) hne
  · intro
    rw [rounds, published, lap]
  · intro k hk
    rw [Engine.roundAt_congr rounds] at hk
    rw [rounds]
    exact h.stoppedLast k hk
  · intro i m k hi
    rw [Engine.roundAt_congr rounds]
    exact h.running i m k hi
  · intro i x hx live
    rw [roles] at hx
    rcases (Engine.role_setRole found).1 hx with ⟨rfl, rfl⟩ | ⟨hne, hx⟩
    · obtain ⟨base', lap'⟩ := station.next_lap base
      rw [here] at base' lap'
      have history := station.history.next (by omega)
      rw [here] at history
      refine ⟨by rw [lap', base'], ?_, .inl (by rw [lap', lap]), ?_, ?_⟩
      · rw [lap', stage']
        exact history
      · exact fun later => by omega
      · exact fun later => by omega
    · have other := h.stations i x hx live
      have waits := h.others_wait found closes hx live hne
      refine ⟨other.aligned, other.history, .inl (by rw [waits.2, lap]), ?_, ?_⟩
      · exact fun later => by omega
      · exact fun later => by omega

end Lockstep

/-! ### Steps that change no more than a role -/

theorem Within.setRole {e₁ : Engine ω σ} (roles : e₁.roles = e.roles)
    (rounds : e₁.rounds = e.rounds) (epoch : e₁.epoch = e.epoch) :
    Within p e (e₁.setRole r role') r role' where
  roles := by rw [← roles]; rfl
  epoch := epoch
  published := congrArg Array.size rounds
  stopped k := by
    rw [Engine.roundAt_congr (e := e) (by exact rounds)]

theorem Within.onRound {change : Round → Round}
    (same : ∀ round, (change round).stopped = round.stopped) :
    Within p e ((e.onRound role change).setRole r role') r role' where
  roles := rfl
  epoch := rfl
  published := Engine.size_onRound e role change
  stopped k := Engine.onRound_keeps Round.stopped change same e role k

namespace Lockstep

/-- A step that touches neither the rounds nor the epoch. -/
theorem plain (h : Lockstep p e tr) (found : e.roles[r]? = some role) {e₁ : Engine ω σ}
    (roles : e₁.roles = e.roles) (rounds : e₁.rounds = e.rounds) (epoch : e₁.epoch = e.epoch)
    (quiet : Silent events) (same : role'.phase.stage = 13 ↔ role.phase.stage = 13)
    (station : role'.Live → Station p e tr r role') :
    Lockstep p (e₁.setRole r role') (tr ++ events) :=
  h.silent found (.setRole roles rounds epoch)
    (fun k => by rw [Engine.roundAt_congr (e := e) (by exact rounds)]) quiet same station

/-- A role leaves or breaks off, or goes on with that. -/
theorem dead (h : Lockstep p e tr) (found : e.roles[r]? = some role) {e₁ : Engine ω σ}
    (roles : e₁.roles = e.roles) (rounds : e₁.rounds = e.rounds) (epoch : e₁.epoch = e.epoch)
    (quiet : Silent events) (before : role.phase.stage ≠ 13) (after : role'.phase.stage = 14) :
    Lockstep p (e₁.setRole r role') (tr ++ events) := by
  refine h.plain found roles rounds epoch quiet (by omega) fun live => ?_
  rw [Role.Live] at live
  omega

/-- A role stays in its stage. -/
theorem stay (h : Lockstep p e tr) (found : e.roles[r]? = some role) {e₁ : Engine ω σ}
    (roles : e₁.roles = e.roles) (rounds : e₁.rounds = e.rounds) (epoch : e₁.epoch = e.epoch)
    (quiet : Silent events) (stage : role'.phase.stage = role.phase.stage)
    (base : role'.base = role.base) (round : role'.round = role.round) :
    Lockstep p (e₁.setRole r role') (tr ++ events) := by
  refine h.plain found roles rounds epoch quiet (by rw [stage]) fun live => ?_
  refine (h.stations r role found ?_).stay stage base round
  rwa [Role.Live, ← stage]

/-- A role goes on from one stage to another within its round. -/
theorem skip (h : Lockstep p e tr) (found : e.roles[r]? = some role)
    (w : Within p e e' r role')
    (counts : ∀ k, (e'.roundAt k).notFinished = (e.roundAt k).notFinished) (quiet : Silent events)
    (base : role'.base = role.base) (round : role'.round = role.round) (s s' : Nat)
    (stage : role.phase.stage = s) (stage' : role'.phase.stage = s')
    (skips : Skips s s' ∧ (s' = 13 ↔ s = 13)) (here : 0 < s ∨ role.lap p = e.lap p) :
    Lockstep p e' (tr ++ events) := by
  subst stage stage'
  have station := h.stations r role found (Nat.lt_of_le_of_lt skips.1.forward skips.1.bounded)
  exact h.silent found w counts quiet skips.2 fun _ =>
    station.skip base round skips.1 (here.elim station.lap_eq id)

/-- A role that is past the barrier goes on, and nothing that roles share changes. -/
theorem hop (h : Lockstep p e tr) (found : e.roles[r]? = some role) {phase : Phase} (s s' : Nat)
    (stage : role.phase.stage = s) (stage' : phase.stage = s')
    (skips : 0 < s ∧ Skips s s' ∧ (s' = 13 ↔ s = 13)) :
    Lockstep p (e.setRole r { role with phase }) (tr ++ []) :=
  h.skip found (.setRole rfl rfl rfl) (fun _ => rfl) (by simp [Silent]) rfl rfl s s' stage stage'
    skips.2 (.inl skips.1)

/-- At the barrier a role goes on when the epoch says that its next round is in progress. -/
theorem begin (h : Lockstep p e tr) (found : e.roles[r]? = some role)
    (phase : role.phase = .waiting .barrier false) (opened : e.epoch = role.base) :
    Lockstep p (e.setRole r { role with phase := .loading }) (tr ++ []) := by
  have stage : role.phase.stage = 0 := congrArg Phase.stage phase
  have aligned := (h.station_of_stage found stage (by decide)).aligned
  have lap : role.lap p = e.lap p := by
    rw [Engine.lap, opened, aligned]
    exact (Nat.mul_div_cancel _ (Nat.succ_pos _)).symm
  exact h.skip found (.setRole rfl rfl rfl) (fun _ => rfl) (by simp [Silent]) rfl rfl 0 1 stage rfl
    (by decide) (.inr lap)

/-! ### Steps that pass a mark -/

/-- A role that is about to read the current round reads the one in progress. -/
theorem current_eq (h : Lockstep p e tr) (found : e.roles[r]? = some role)
    (stage : role.phase.stage = 1) : e.current = e.lap p := by
  have station := h.station_of_stage found stage (by decide)
  have missing : .passed r .finished (e.lap p) ∉ tr := by
    rw [← station.lap_eq (by omega)]
    exact station.history.not_passed (by rw [stage]; decide)
  exact h.current_eq_lap (h.not_ready (h.length_marked_lt (h.lt_size found) missing))

theorem load (h : Lockstep p e tr) (found : e.roles[r]? = some role)
    (phase : role.phase = .loading) (going : (e.roundAt e.current).stopped = false) :
    Lockstep p (e.setRole r { role with round := e.current, phase := .arriving })
      (tr ++ [.passed r .loaded e.current]) := by
  have current := h.current_eq found (congrArg Phase.stage phase)
  rw [current] at going
  exact h.pass found (.setRole rfl rfl rfl) (congrArg Phase.stage phase) rfl (by decide) rfl
    current going (fun _ _ => rfl) (by simp) current

/-- A step that passes a mark of the round that the role has read. -/
theorem pass_held (h : Lockstep p e tr) (found : e.roles[r]? = some role)
    (w : Within p e e' r role') (stage : role.phase.stage = mark.stage)
    (stage' : role'.phase.stage = mark.stage + 1) (middle : mark ≠ .loaded ∧ mark ≠ .finished)
    (base : role'.base = role.base) (round : role'.round = role.round)
    (counts : ∀ k < e.rounds.size, (e'.roundAt k).notFinished =
      (e.roundAt k).notFinished - if mark = .departed ∧ k = role.round then 1 else 0)
    (clears : mark = .cleared → ∀ i < p.size, .passed i .departed role.round ∈ tr) :
    Lockstep p e' (tr ++ [.passed r mark role.round]) := by
  have later : 1 < role.phase.stage := by
    rw [stage]
    cases mark <;> simp [Mark.stage] at middle ⊢
  have below : mark.stage < 14 := Nat.lt_of_lt_of_le mark.stage_lt (by decide)
  obtain ⟨held, going⟩ := (h.station_of_stage found stage below).holds later
  rw [held] at counts clears round ⊢
  exact h.pass found w stage stage' middle.2 base round going counts clears rfl

/-- The finish gate is open once all roles have arrived there. -/
theorem clear (h : Lockstep p e tr) (found : e.roles[r]? = some role)
    (phase : role.phase = .waiting .finish false)
    (opened : (e.roundAt role.round).notFinished = 0) (slice : List Nat) :
    Lockstep p (e.setRole r { role with phase := .consuming slice })
      (tr ++ [.passed r .cleared role.round]) := by
  have counted := h.counted role.round (h.round_lt found (by rw [phase]; decide))
  rw [opened, Nat.zero_add] at counted
  exact h.pass_held found (.setRole rfl rfl rfl) (congrArg Phase.stage phase) rfl (by decide) rfl
    rfl (fun _ _ => rfl) fun _ _ hi => h.passed_of_length counted hi

/-- The counter of the finish gate goes down, and not below zero. -/
theorem depart (h : Lockstep p e tr) (found : e.roles[r]? = some role)
    (phase : role.phase = .departing) :
    Lockstep p
      ((e.onRound role Round.depart).setRole r { role with phase := .waiting .finish false })
      (tr ++ [.passed r .departed role.round]) := by
  have missing : .passed r .departed role.round ∉ tr :=
    h.not_passed found (by rw [phase]; decide)
  have short := h.length_marked_lt (h.lt_size found) missing
  have counted := h.counted role.round (h.round_lt found (by rw [phase]; decide))
  have positive : (e.roundAt role.round).notFinished ≠ 0 := by omega
  refine h.pass_held found (.onRound fun _ => rfl) (congrArg Phase.stage phase) rfl (by decide) rfl
    rfl (fun k hk => ?_) (by simp)
  change ((e.onRound role Round.depart).roundAt k).notFinished = _
  rw [Engine.roundAt_onRound hk]
  by_cases own : k = role.round
  · subst own
    simp [Round.depart, Word.pred, positive]
  · simp [own]

/-! ### Every step -/

theorem turn (h : Lockstep p e tr) (found : e.roles[r]? = some role)
    (step : Engine.Turn p e r role e' events) : Lockstep p e' (tr ++ events) := by
  have none : Silent ([] : List (Event ω σ)) := by simp [Silent]
  cases step with
  | load phase going => exact h.load found phase going
  | arrive phase =>
      have counts := Engine.onRound_keeps Round.notFinished Round.arrive (fun _ => rfl) e role
      exact h.pass_held found (.onRound fun _ => rfl) (congrArg Phase.stage phase) rfl (by decide)
        rfl rfl (fun k _ => counts k) (by simp)
  | enter phase =>
      have counts := Engine.onRound_keeps Round.notFinished Round.enter (fun _ => rfl) e role
      exact h.pass_held found (.onRound fun _ => rfl) (congrArg Phase.stage phase) rfl (by decide)
        rfl rfl (fun k _ => counts k) (by simp)
  | depart phase => exact h.depart found phase
  | clear phase opened first last slice => exact h.clear found phase opened _
  | close phase last =>
      exact h.ticket found rfl rfl rfl (congrArg Phase.stage phase) rfl (.inl ⟨last, rfl, rfl⟩)
  | finish phase others =>
      exact h.ticket found rfl rfl rfl (congrArg Phase.stage phase) rfl (.inr ⟨rfl, rfl⟩)
  | store view stopped phase =>
      exact h.store found rfl rfl rfl (by simp [Silent]) (congrArg Phase.stage phase) rfl rfl rfl
  | release phase =>
      rw [List.append_nil]
      exact h.release found rfl rfl rfl (congrArg Phase.stage phase) rfl rfl
  | begin phase opened => exact h.begin found phase opened
  | passStart phase => exact h.hop found 3 4 (congrArg Phase.stage phase) rfl (by decide)
  | early phase => exact h.hop found 5 6 (congrArg Phase.stage phase) rfl (by decide)
  | done phase => exact h.hop found 5 7 (congrArg Phase.stage phase) rfl (by decide)
  | sample view phase => exact h.hop found 11 12 (congrArg Phase.stage phase) rfl (by decide)
  | lag phase =>
      have counts := Engine.onRound_keeps Round.notFinished Round.lag (fun _ => rfl) e role
      exact h.skip found (.onRound fun _ => rfl) counts none rfl rfl 6 7
        (congrArg Phase.stage phase) rfl (by decide) (.inl (by decide))
  | grow world view arena phase grown =>
      refine h.skip found (.setRole rfl rfl rfl) (fun _ => rfl) ?_ rfl rfl 10 11
        (congrArg Phase.stage phase) rfl (by decide) (.inl (by decide))
      intro i mark k hi
      exact silent_madeFrom _ _ _ i mark k (by simpa using hi)
  | miss gate phase | retry gate phase =>
      exact h.stay found rfl rfl rfl none (by rw [phase]; cases gate <;> rfl) rfl rfl
  | act place rest pair phase =>
      have alike := Engine.alike_absorb e place (p.test.runActor r e.world pair.state pair.result)
      exact h.stay found alike.roles alike.rounds alike.epoch (by simp [Silent])
        (by rw [phase]; rfl) rfl rfl
  | consume place rest pair fresh e₁ tally phase hit result =>
      have alike := Engine.alike_of_consume result
      exact h.stay found alike.roles alike.rounds alike.epoch (by simp [Silent])
        (by rw [phase]; rfl) rfl rfl
  | actBroke place rest pair fault phase =>
      have alike := Engine.alike_absorb e place (p.test.runActor r e.world pair.state pair.result)
      exact h.dead found alike.roles alike.rounds alike.epoch (by simp [Silent])
        (by simp [phase, Phase.stage]) rfl
  | consumeBroke place rest pair e₁ fault phase hit result =>
      have alike := Engine.alike_of_consume result
      exact h.dead found alike.roles alike.rounds alike.epoch (by simp [Silent])
        (by simp [phase, Phase.stage]) rfl
  | giveUp gate phase =>
      exact h.dead found rfl rfl rfl (by simp [Silent]) (by rw [phase]; cases gate <;> decide) rfl
  | leave phase | die _ phase =>
      exact h.dead found rfl rfl rfl (by simp [Silent]) (by simp [phase, Phase.stage]) rfl
  | misfit phase | actLost _ _ phase | consumeLost _ _ phase | growBroke _ _ phase | halt _ phase
  | exit _ phase | report _ phase =>
      exact h.dead found rfl rfl rfl none (by simp [phase, Phase.stage]) rfl
  | rest phase => rwa [List.append_nil]

theorem of_same (h : Lockstep p e tr) (roles : e'.roles = e.roles) (rounds : e'.rounds = e.rounds)
    (epoch : e'.epoch = e.epoch) : Lockstep p e' tr := by
  obtain ⟨eRoles, eRounds, _, eEpoch⟩ := e
  obtain ⟨eRoles', eRounds', _, eEpoch'⟩ := e'
  obtain rfl : eRoles' = eRoles := roles
  obtain rfl : eRounds' = eRounds := rounds
  obtain rfl : eEpoch' = eEpoch := epoch
  exact ⟨h.size, h.epoch, h.past, h.nodup, h.inside, h.counted, h.ready, h.unready, h.stoppedLast,
    h.running, h.cleared, fun r x hx live => (h.stations r x hx live).congr rfl rfl
      (fun _ _ => Iff.rfl) fun _ => rfl⟩

/-- Stopping, aborting and the passing of time change nothing that counts. -/
theorem still (h : Lockstep p e tr) {m : Engine.Move} (outside : ∀ r, m ≠ .role r) :
    Lockstep p (e.apply p m) tr := by
  cases m with
  | role r => exact absurd rfl (outside r)
  | stop => exact h.of_same rfl rfl rfl
  | abort => exact h.of_same rfl rfl rfl
  | tick nanos => exact h.of_same rfl rfl rfl

theorem launch (p : EnginePlan ω σ) (w : ω) : Lockstep p (p.launch w) [] := by
  have lap : (p.launch w).lap p = 0 := Nat.zero_div _
  have first (k : Nat) (hk : k < (p.launch w).rounds.size) :
      (p.launch w).roundAt k = Round.initial p.size := by
    obtain rfl : k = 0 := Nat.lt_one_iff.1 hk
    rfl
  refine ⟨Array.size_replicate, ?_, ?_, ?_, ?_, ?_, ?_, ?_, ?_, ?_, ?_, ?_⟩
  · rw [lap]
    exact (Nat.zero_mul _).symm
  · intro k hk
    omega
  · exact fun _ _ => List.nodup_nil
  · simp
  · intro k hk
    rw [first k hk]
    rfl
  · rintro ⟨i, x, hx, stage⟩
    rw [p.launched_role w hx] at stage
    exact absurd stage (by decide)
  · intro
    rw [lap]
    rfl
  · intro k hk
    cases Nat.lt_or_ge k (p.launch w).rounds.size with
    | inl inside =>
        rw [first k inside] at hk
        exact absurd hk Bool.false_ne_true
    | inr outside =>
        rw [Engine.roundAt, Array.getElem?_eq_none outside] at hk
        exact absurd hk (by decide)
  · simp
  · simp
  · intro i x hx _
    obtain rfl := p.launched_role w hx
    have lap' : Role.launched.lap p = 0 := Nat.zero_div _
    refine ⟨by rw [lap']; exact (Nat.zero_mul _).symm, ?_, .inl (by rw [lap', lap]), ?_, ?_⟩
    · intro mark k
      rw [lap']
      have : mark.stage ≠ 0 := by cases mark <;> decide
      have : Role.launched.phase.stage = 1 := rfl
      simp
      omega
    · exact fun later => absurd later (by decide)
    · exact fun later => absurd later (by decide)

end Lockstep

/-- Every run keeps in step, whatever its moves are. -/
theorem lockstep (p : EnginePlan ω σ) (w : ω) (ms : List Engine.Move) :
    Lockstep p ((p.launch w).run p ms) ((p.launch w).trace p ms) :=
  Engine.turn_invariant (.launch p w) ms
    (fun _ _ _ _ _ _ h found step => h.turn found step)
    fun _ _ outside _ _ h => h.still outside

end Litmus
