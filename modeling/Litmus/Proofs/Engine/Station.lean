import Litmus.Proofs.Engine.Progress
import Mathlib.Data.List.Nodup
import Mathlib.Data.List.Perm.Subperm

/-!
The invariant of a run: the gate counters and the epoch count the roles that have passed the marks
of the round in progress, and each live role stands in that round where its marks say. The epoch is
the number of rounds that are over, each of which counts all roles and one more, plus the number of
roles that have finished the round in progress.
-/
namespace Litmus

variable {ω σ : Type}

/-- Where a live role stands. -/
structure Station (p : EnginePlan ω σ) (e : Engine ω σ) (tr : List (Event ω σ)) (r : Nat)
    (role : Role) : Prop where
  aligned : role.base = role.lap p * (p.size + 1)
  history : History tr r (role.lap p) role.phase.stage
  here : role.lap p = e.lap p ∨ (role.phase.stage = 0 ∧ role.lap p = e.lap p + 1)
  holds : 1 < role.phase.stage →
    role.round = e.lap p ∧ (e.roundAt (e.lap p)).stopped = false
  last : 9 < role.phase.stage →
    (marked tr .finished (e.lap p)).getLast? = some r ∧
      (marked tr .finished (e.lap p)).length = p.size

/-- Whether a role has published the next round and is about to open the barrier. -/
def Engine.Ready (e : Engine ω σ) : Prop :=
  ∃ (r : Nat) (role : Role), e.roles[r]? = some role ∧ role.phase.stage = 13

structure Lockstep (p : EnginePlan ω σ) (e : Engine ω σ) (tr : List (Event ω σ)) : Prop where
  size : e.roles.size = p.size
  epoch : e.epoch = e.lap p * (p.size + 1) + (marked tr .finished (e.lap p)).length
  past : ∀ k < e.lap p, (marked tr .finished k).length = p.size
  nodup : ∀ mark k, (marked tr mark k).Nodup
  inside : ∀ r mark k, .passed r mark k ∈ tr → r < p.size ∧ k ≤ e.lap p
  counted : ∀ k < e.rounds.size,
    (e.roundAt k).notFinished + (marked tr .departed k).length = p.size
  ready : e.Ready → e.rounds.size = e.lap p + 2
  unready : ¬ e.Ready → e.rounds.size = e.lap p + 1
  stoppedLast : ∀ k, (e.roundAt k).stopped = true → k + 1 = e.rounds.size
  running : ∀ r mark k, .passed r mark k ∈ tr → (e.roundAt k).stopped = false
  cleared : ∀ r k, .passed r .cleared k ∈ tr → ∀ i < p.size, .passed i .departed k ∈ tr
  stations : ∀ (r : Nat) (role : Role), e.roles[r]? = some role → role.Live → Station p e tr r role

variable {p : EnginePlan ω σ} {e e' : Engine ω σ} {tr events : List (Event ω σ)} {r : Nat}
  {role role' : Role} {mark : Mark} {k : Nat}

namespace Lockstep

theorem mem_lt (h : Lockstep p e tr) {i : Nat} (hi : i ∈ marked tr mark k) : i < p.size :=
  (h.inside i mark k (mem_marked.1 hi)).1

theorem marked_subperm (h : Lockstep p e tr) (mark : Mark) (k : Nat) :
    (marked tr mark k).Subperm (List.range p.size) :=
  (h.nodup mark k).subperm fun _ hi => List.mem_range.2 (h.mem_lt hi)

theorem length_marked_le (h : Lockstep p e tr) (mark : Mark) (k : Nat) :
    (marked tr mark k).length ≤ p.size := by
  simpa using (h.marked_subperm mark k).length_le

/-- As many roles as there are have passed a mark only if all have. -/
theorem passed_of_length (h : Lockstep p e tr) (full : (marked tr mark k).length = p.size) {i : Nat}
    (hi : i < p.size) : .passed i mark k ∈ tr := by
  have perm := (h.marked_subperm mark k).perm_of_length_le (by simp [full])
  exact mem_marked.1 (perm.mem_iff.2 (List.mem_range.2 hi))

theorem length_marked_lt (h : Lockstep p e tr) {i : Nat} (hi : i < p.size)
    (missing : .passed i mark k ∉ tr) : (marked tr mark k).length < p.size :=
  Nat.lt_of_le_of_ne (h.length_marked_le mark k) fun full => missing (h.passed_of_length full hi)

theorem lt_size (h : Lockstep p e tr) (found : e.roles[r]? = some role) : r < p.size := by
  rw [← h.size]
  exact (Array.getElem?_eq_some_iff.1 found).1

theorem exists_role (h : Lockstep p e tr) (hr : r < p.size) :
    ∃ role, e.roles[r]? = some role :=
  ⟨_, Array.getElem?_eq_getElem (h.size.symm ▸ hr)⟩

theorem lap_lt_rounds (h : Lockstep p e tr) : e.lap p < e.rounds.size := by
  by_cases ready : e.Ready
  · have := h.ready ready
    omega
  · have := h.unready ready
    omega

/-- No mark of a later round than the one in progress has been passed. -/
theorem marked_later (h : Lockstep p e tr) (later : e.lap p < k) : marked tr mark k = [] :=
  List.eq_nil_iff_forall_not_mem.2 fun i hi => by
    have := (h.inside i mark k (mem_marked.1 hi)).2
    omega

/-- Only one role at a time closes a round. -/
theorem closer_unique (h : Lockstep p e tr) {i : Nat} {other : Role}
    (found : e.roles[r]? = some role) (closes : role.Closes) (found' : e.roles[i]? = some other)
    (closes' : other.Closes) : i = r := by
  have last := ((h.stations r role found closes.2).last closes.1).1
  have last' := ((h.stations i other found' closes'.2).last closes'.1).1
  exact Option.some.inj (last'.symm.trans last)

/-- While a role closes a round, the other live roles wait for the next one. -/
theorem others_wait (h : Lockstep p e tr) {i : Nat} {other : Role}
    (found : e.roles[r]? = some role) (closes : role.Closes) (found' : e.roles[i]? = some other)
    (live : other.Live) (hne : i ≠ r) : other.phase.stage = 0 ∧ other.lap p = e.lap p + 1 := by
  have full := ((h.stations r role found closes.2).last closes.1).2
  have finished := h.passed_of_length full (h.lt_size found')
  have station := h.stations i other found' live
  rcases (station.history _ _).1 finished with later | ⟨-, later⟩
  · exact station.here.resolve_left (by omega)
  · exact absurd (h.closer_unique found closes found' ⟨later, live⟩) hne

/-- While a role that closes a round has not published the next one, no other has. -/
theorem not_ready_of_closer (h : Lockstep p e tr) (found : e.roles[r]? = some role)
    (closes : role.Closes) (earlier : role.phase.stage ≠ 13) : ¬ e.Ready := by
  rintro ⟨i, x, hx, stage⟩
  have closes' : x.Closes := by
    rw [Role.Closes, Role.Live]
    omega
  obtain rfl := h.closer_unique found closes hx closes'
  obtain rfl : role = x := Option.some.inj (found.symm.trans hx)
  exact earlier stage

/-- The epoch counts one more for a round than there are roles, so the round goes on after a role
has counted itself in at the barrier. -/
theorem lap_of_ticket (h : Lockstep p e tr)
    (going : (marked tr .finished (e.lap p)).length < p.size) (epoch : e'.epoch = e.epoch + 1) :
    e'.lap p = e.lap p := by
  have counted := h.epoch
  refine Nat.div_eq_of_lt_le (by omega) ?_
  rw [Nat.succ_mul]
  omega

/-- Once all roles have counted themselves in, the one count that is left begins the next round. -/
theorem lap_of_release (h : Lockstep p e tr)
    (full : (marked tr .finished (e.lap p)).length = p.size) (epoch : e'.epoch = e.epoch + 1) :
    e'.epoch = (e.lap p + 1) * (p.size + 1) ∧ e'.lap p = e.lap p + 1 := by
  have counted : e'.epoch = (e.lap p + 1) * (p.size + 1) := by
    rw [epoch, h.epoch, full, Nat.succ_mul]
    rfl
  refine ⟨counted, ?_⟩
  rw [Engine.lap, counted]
  exact Nat.mul_div_cancel _ (Nat.succ_pos _)

theorem current_eq_lap (h : Lockstep p e tr) (unready : ¬ e.Ready) : e.current = e.lap p := by
  rw [Engine.current, h.unready unready]
  rfl

end Lockstep

/-! ### Steps within a round -/

theorem Station.congr (h : Station p e tr r role) (lap : e'.lap p = e.lap p)
    (stopped : (e'.roundAt (e.lap p)).stopped = (e.roundAt (e.lap p)).stopped)
    (same : ∀ mark k, .passed r mark k ∈ events ↔ .passed r mark k ∈ tr)
    (last : 9 < role.phase.stage →
      marked events .finished (e.lap p) = marked tr .finished (e.lap p)) :
    Station p e' events r role where
  aligned := h.aligned
  history := h.history.congr same
  here := by rw [lap]; exact h.here
  holds later := by rw [lap, stopped]; exact h.holds later
  last later := by rw [lap, last later]; exact h.last later

/-- A live role that goes on within its round without passing a mark. -/
theorem Station.skip (h : Station p e tr r role) (base : role'.base = role.base)
    (round : role'.round = role.round) (skips : Skips role.phase.stage role'.phase.stage)
    (here : role.lap p = e.lap p) : Station p e tr r role' := by
  have lap : role'.lap p = role.lap p := by rw [Role.lap, base, Role.lap]
  refine ⟨?_, ?_, .inl (lap.trans here), ?_, ?_⟩
  · rw [lap, base]
    exact h.aligned
  · rw [lap]
    exact h.history.skip skips.gap
  · rw [round]
    exact fun later => h.holds (skips.holds later)
  · exact fun later => h.last (skips.last later)

theorem Station.stay (h : Station p e tr r role) (stage : role'.phase.stage = role.phase.stage)
    (base : role'.base = role.base) (round : role'.round = role.round) :
    Station p e tr r role' := by
  have lap : role'.lap p = role.lap p := by rw [Role.lap, base, Role.lap]
  refine ⟨?_, ?_, ?_, ?_, ?_⟩
  · rw [lap, base]
    exact h.aligned
  · rw [lap, stage]
    exact h.history
  · rw [lap, stage]
    exact h.here
  · rw [stage, round]
    exact h.holds
  · rw [stage]
    exact h.last

theorem Station.lap_eq (h : Station p e tr r role) (stage : 0 < role.phase.stage) :
    role.lap p = e.lap p :=
  h.here.resolve_right fun hbarrier => by omega

/-- A role that goes on from its round to the next. -/
theorem Station.next_lap (h : Station p e tr r role) (base : role'.base = role.base + p.size + 1) :
    role'.base = (role.lap p + 1) * (p.size + 1) ∧ role'.lap p = role.lap p + 1 := by
  have counted : role'.base = (role.lap p + 1) * (p.size + 1) := by
    rw [base, h.aligned, Nat.succ_mul, Nat.add_assoc]
  refine ⟨counted, ?_⟩
  rw [Role.lap, counted]
  exact Nat.mul_div_cancel _ (Nat.succ_pos _)

/-- What a step of one role leaves as it was, apart from that role. -/
structure Within (p : EnginePlan ω σ) (e e' : Engine ω σ) (r : Nat) (role' : Role) : Prop where
  roles : e'.roles = e.roles.setIfInBounds r role'
  epoch : e'.epoch = e.epoch
  published : e'.rounds.size = e.rounds.size
  stopped : ∀ k, (e'.roundAt k).stopped = (e.roundAt k).stopped

theorem Within.lap (w : Within p e e' r role') : e'.lap p = e.lap p := by
  rw [Engine.lap, w.epoch, Engine.lap]

theorem Within.ready_iff (w : Within p e e' r role') (found : e.roles[r]? = some role)
    (same : role'.phase.stage = 13 ↔ role.phase.stage = 13) : e'.Ready ↔ e.Ready := by
  unfold Engine.Ready
  rw [w.roles]
  exact Engine.exists_role_iff (P := fun _ x => x.phase.stage = 13) found same

theorem passed_iff_of_ne {i : Nat} (h : i ≠ r) (j : Nat) (mark m : Mark) (k : Nat) :
    (.passed i m k : Event ω σ) ∈ tr ++ [.passed r mark j] ↔ .passed i m k ∈ tr := by
  simp [h]

/-! ### The round of a role -/

namespace Lockstep

/-- A role that runs a round runs the one in progress. -/
theorem holds_lap (h : Lockstep p e tr) (found : e.roles[r]? = some role)
    (stage : 1 < role.phase.stage ∧ role.phase.stage < 14) : role.round = e.lap p :=
  ((h.stations r role found stage.2).holds stage.1).1

theorem round_lt (h : Lockstep p e tr) (found : e.roles[r]? = some role)
    (stage : 1 < role.phase.stage ∧ role.phase.stage < 14) : role.round < e.rounds.size := by
  rw [h.holds_lap found stage]
  exact h.lap_lt_rounds

theorem passed_lt (h : Lockstep p e tr) {mark : Mark} (hi : .passed r mark k ∈ tr) :
    k < e.rounds.size := by
  have := (h.inside r mark k hi).2
  have := h.lap_lt_rounds
  omega

theorem round_eq_lap (h : Lockstep p e tr) (found : e.roles[r]? = some role)
    (stage : 1 < role.phase.stage ∧ role.phase.stage < 14) : role.round = role.lap p := by
  rw [h.holds_lap found stage, (h.stations r role found stage.2).lap_eq (by omega)]

/-- The marks of its round that a role has not reached are not passed. -/
theorem not_passed (h : Lockstep p e tr) (found : e.roles[r]? = some role) {mark : Mark}
    (stage : 1 < role.phase.stage ∧ role.phase.stage ≤ mark.stage) :
    .passed r mark role.round ∉ tr := by
  have below := mark.stage_lt
  rw [h.round_eq_lap found (by omega)]
  exact (h.stations r role found (by rw [Role.Live]; omega)).history.not_passed stage.2

theorem passed (h : Lockstep p e tr) (found : e.roles[r]? = some role) {mark : Mark}
    (stage : mark.stage < role.phase.stage ∧ role.phase.stage < 14)
    (holds : 1 < role.phase.stage) : .passed r mark role.round ∈ tr := by
  rw [h.round_eq_lap found (by omega)]
  exact (h.stations r role found stage.2).history.passed stage.1

end Lockstep
end Litmus
