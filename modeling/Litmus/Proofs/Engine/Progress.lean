import Litmus.Proofs.Engine.Turn

/-!
How far a role is in a run: which marks it has passed, and which roles have passed a mark. The
phases of a live role stand in the order in which a round goes through them.
-/
namespace Litmus

def Mark.stage : Mark → Nat
  | .loaded => 1
  | .arrived => 2
  | .entered => 4
  | .departed => 7
  | .cleared => 8
  | .finished => 9

/-- The place of a phase in a round. A role at the barrier is at the start of its next round; the
role that closes a round is past all marks. -/
def Phase.stage : Phase → Nat
  | .waiting .barrier _ => 0
  | .loading => 1
  | .arriving => 2
  | .waiting .start _ => 3
  | .entering => 4
  | .acting _ => 5
  | .lagging => 6
  | .departing => 7
  | .waiting .finish _ => 8
  | .consuming _ => 9
  | .growing => 10
  | .sampling _ => 11
  | .storing _ _ => 12
  | .releasing => 13
  | .dying _ => 14
  | .halting _ => 14
  | .leaving _ => 14
  | .reporting _ => 14
  | .gone => 14

/-- Whether a role that goes on from one stage to another within a round passes no mark, and its
other duties stay as they are. -/
structure Skips (s s' : Nat) : Prop where
  forward : s ≤ s'
  bounded : s' < 14
  holds : 1 < s' → 1 < s
  last : 9 < s' → 9 < s
  marks : ∀ n ∈ [1, 2, 4, 7, 8, 9], n < s' ↔ n < s

instance (s s' : Nat) : Decidable (Skips s s') :=
  decidable_of_iff (s ≤ s' ∧ s' < 14 ∧ (1 < s' → 1 < s) ∧ (9 < s' → 9 < s) ∧
    ∀ n ∈ [1, 2, 4, 7, 8, 9], n < s' ↔ n < s)
    ⟨fun ⟨a, b, c, d, f⟩ => ⟨a, b, c, d, f⟩, fun ⟨a, b, c, d, f⟩ => ⟨a, b, c, d, f⟩⟩

theorem Skips.gap {s s' : Nat} (h : Skips s s') (mark : Mark) :
    mark.stage < s' ↔ mark.stage < s :=
  h.marks mark.stage (by cases mark <;> decide)

/-- A role that has neither left nor broken off. -/
def Role.Live (role : Role) : Prop := role.phase.stage < 14

/-- A role that closes its round. -/
def Role.Closes (role : Role) : Prop := 9 < role.phase.stage ∧ role.Live

/-- The round that a role is in, by its own count. -/
def Role.lap {ω σ : Type} (role : Role) (p : EnginePlan ω σ) : Nat := role.base / (p.size + 1)

/-- The round in progress: how often the barrier has opened. -/
def Engine.lap {ω σ : Type} (e : Engine ω σ) (p : EnginePlan ω σ) : Nat := e.epoch / (p.size + 1)

variable {ω σ : Type}

/-- The roles that passed a mark in a round, in the order in which they did. -/
def marked (tr : List (Event ω σ)) (mark : Mark) (k : Nat) : List Nat :=
  tr.filterMap fun
    | .passed r m j => if m = mark ∧ j = k then some r else none
    | _ => none

/-- Events that pass no mark. -/
def Silent (events : List (Event ω σ)) : Prop :=
  ∀ r mark k, .passed r mark k ∉ events

/-- The marks that a role has passed are those of earlier rounds and those before its stage. -/
def History (tr : List (Event ω σ)) (r lap stage : Nat) : Prop :=
  ∀ mark k, .passed r mark k ∈ tr ↔ k < lap ∨ (k = lap ∧ mark.stage < stage)

variable {tr events : List (Event ω σ)} {mark : Mark} {r k lap stage : Nat}

theorem mem_marked : r ∈ marked tr mark k ↔ .passed r mark k ∈ tr := by
  rw [marked, List.mem_filterMap]
  constructor
  · rintro ⟨event, hmem, h⟩
    cases event with
    | passed i m j =>
        simp only [Option.ite_none_right_eq_some, Option.some.injEq] at h
        obtain ⟨⟨rfl, rfl⟩, rfl⟩ := h
        exact hmem
    | _ => simp at h
  · intro h
    exact ⟨_, h, by simp⟩

theorem marked_append (tr events : List (Event ω σ)) (mark : Mark) (k : Nat) :
    marked (tr ++ events) mark k = marked tr mark k ++ marked events mark k :=
  List.filterMap_append

theorem marked_passed (r : Nat) (m mark : Mark) (j k : Nat) :
    marked [(.passed r m j : Event ω σ)] mark k = if m = mark ∧ j = k then [r] else [] := by
  by_cases h : m = mark ∧ j = k
  · simp [marked, h]
  · simp [marked, h]

theorem Silent.marked (h : Silent events) : marked (tr ++ events) mark k = marked tr mark k := by
  have none : Litmus.marked events mark k = [] :=
    List.eq_nil_iff_forall_not_mem.2 fun r hr => h r mark k (mem_marked.1 hr)
  rw [marked_append, none, List.append_nil]

theorem Silent.passed_iff (h : Silent events) :
    .passed r mark k ∈ tr ++ events ↔ .passed r mark k ∈ tr := by
  rw [List.mem_append, or_iff_left (h r mark k)]

theorem silent_madeFrom (k place : Nat) (made : List (ω × Pair σ)) :
    Silent (madeFrom k place made : List (Event ω σ)) := by
  intro r mark j h
  obtain ⟨x, -, hx⟩ := List.mem_map.1 h
  simp at hx

/-! ### Histories -/

theorem History.congr (h : History tr r lap stage)
    (same : ∀ mark k, .passed r mark k ∈ events ↔ .passed r mark k ∈ tr) :
    History events r lap stage := by
  intro mark k
  rw [same, h mark k]

/-- Between two stages with no mark, nothing is passed. -/
theorem History.skip (h : History tr r lap stage) {next : Nat}
    (gap : ∀ mark : Mark, mark.stage < next ↔ mark.stage < stage) : History tr r lap next := by
  intro mark k
  rw [h mark k, gap]

theorem Mark.stage_inj {m mark : Mark} (h : m.stage = mark.stage) : m = mark := by
  cases m <;> cases mark <;> simp [Mark.stage] at h ⊢

theorem History.pass (h : History tr r lap mark.stage) :
    History (tr ++ [.passed r mark lap]) r lap (mark.stage + 1) := by
  intro m k
  rw [List.mem_append, h m k, List.mem_singleton, Event.passed.injEq]
  constructor
  · rintro ((hlt | ⟨rfl, hm⟩) | ⟨-, rfl, rfl⟩)
    · exact .inl hlt
    · exact .inr ⟨rfl, Nat.lt_succ_of_lt hm⟩
    · exact .inr ⟨rfl, Nat.lt_succ_self _⟩
  · rintro (hlt | ⟨rfl, hm⟩)
    · exact .inl (.inl hlt)
    · cases Nat.lt_or_eq_of_le (Nat.le_of_lt_succ hm) with
      | inl hlt => exact .inl (.inr ⟨rfl, hlt⟩)
      | inr heq => exact .inr ⟨rfl, Mark.stage_inj heq, rfl⟩

theorem Mark.stage_lt (mark : Mark) : mark.stage < 10 := by
  cases mark <;> decide

/-- A role past all marks of a round is at the start of the next one. -/
theorem History.next (h : History tr r lap stage) (past : 9 < stage) :
    History tr r (lap + 1) 0 := by
  intro mark k
  have := mark.stage_lt
  rw [h mark k]
  omega

theorem History.not_passed (h : History tr r lap stage) (later : stage ≤ mark.stage) :
    .passed r mark lap ∉ tr := by
  rw [h mark lap]
  omega

theorem History.passed (h : History tr r lap stage) (earlier : mark.stage < stage) :
    .passed r mark lap ∈ tr :=
  (h mark lap).2 (.inr ⟨rfl, earlier⟩)

/-! ### Parts of an engine after a step -/

theorem Engine.role_setRole {roles : Array Role} {role role' x : Role} {i : Nat}
    (found : roles[r]? = some role) :
    (roles.setIfInBounds r role')[i]? = some x ↔
      (i = r ∧ x = role') ∨ (i ≠ r ∧ roles[i]? = some x) := by
  have inside := (Array.getElem?_eq_some_iff.1 found).1
  rw [Array.getElem?_setIfInBounds]
  by_cases h : r = i
  · subst h
    simp [inside, eq_comm]
  · simp [h, Ne.symm h]

theorem EnginePlan.launched_role (p : EnginePlan ω σ) (w : ω) {i : Nat} {role : Role}
    (found : (p.launch w).roles[i]? = some role) : role = Role.launched := by
  change (Array.replicate p.size Role.launched)[i]? = some role at found
  rw [Array.getElem?_replicate] at found
  split at found
  case isTrue => exact (Option.some.inj found).symm
  case isFalse => simp at found

/-- Whether some role has a property does not change if it does not change for the role that is
replaced. -/
theorem Engine.exists_role_iff {roles : Array Role} {role role' : Role} {P : Nat → Role → Prop}
    (found : roles[r]? = some role) (same : P r role' ↔ P r role) :
    (∃ (i : Nat) (x : Role), (roles.setIfInBounds r role')[i]? = some x ∧ P i x) ↔
      ∃ (i : Nat) (x : Role), roles[i]? = some x ∧ P i x := by
  constructor
  · rintro ⟨i, x, hx, holds⟩
    rcases (role_setRole found).1 hx with ⟨rfl, rfl⟩ | ⟨-, hx⟩
    · exact ⟨i, role, found, same.1 holds⟩
    · exact ⟨i, x, hx, holds⟩
  · rintro ⟨i, x, hx, holds⟩
    by_cases hi : i = r
    · subst hi
      obtain rfl : role = x := Option.some.inj (found.symm.trans hx)
      exact ⟨i, role', (role_setRole found).2 (.inl ⟨rfl, rfl⟩), same.2 holds⟩
    · exact ⟨i, x, (role_setRole found).2 (.inr ⟨hi, hx⟩), holds⟩

namespace Engine

theorem roundAt_onRound {e : Engine ω σ} {role : Role} {k : Nat} (inside : k < e.rounds.size)
    (change : Round → Round) :
    (e.onRound role change).roundAt k =
      if k = role.round then change (e.roundAt k) else e.roundAt k := by
  simp only [roundAt, onRound, Array.getElem?_modify, Array.getElem?_eq_getElem inside]
  by_cases h : role.round = k
  · simp [h]
  · simp [h, Ne.symm h]

/-- What a change of a round keeps, it keeps in every round. -/
theorem onRound_keeps {β : Type} (get : Round → β) (change : Round → Round)
    (same : ∀ round, get (change round) = get round) (e : Engine ω σ) (role : Role) (k : Nat) :
    get ((e.onRound role change).roundAt k) = get (e.roundAt k) := by
  cases Nat.lt_or_ge k e.rounds.size with
  | inl inside =>
      rw [roundAt_onRound inside]
      split
      · exact same _
      · rfl
  | inr outside =>
      have none : (e.onRound role change).rounds[k]? = none :=
        Array.getElem?_eq_none (by rw [onRound, Array.size_modify]; exact outside)
      rw [roundAt, none, roundAt, Array.getElem?_eq_none outside]

theorem size_onRound (e : Engine ω σ) (role : Role) (change : Round → Round) :
    (e.onRound role change).rounds.size = e.rounds.size :=
  Array.size_modify

theorem roundAt_push {e e' : Engine ω σ} {round : Round} (h : e'.rounds = e.rounds.push round)
    (k : Nat) : e'.roundAt k = if k = e.rounds.size then round else e.roundAt k := by
  rw [roundAt, h, Array.getElem?_push]
  split <;> rfl

theorem roundAt_congr {e e' : Engine ω σ} (h : e'.rounds = e.rounds) (k : Nat) :
    e'.roundAt k = e.roundAt k := by
  rw [roundAt, h, roundAt]

/-- A step publishes at most one round. What the gate counters do not touch, it leaves as it was
in the rounds published before. -/
theorem Turn.published {p : EnginePlan ω σ} {e e' : Engine ω σ} {events : List (Event ω σ)}
    {role : Role} {β : Type} (get : Round → β)
    (arrive : ∀ round, get (Round.arrive round) = get round)
    (enter : ∀ round, get (Round.enter round) = get round)
    (lag : ∀ round, get (Round.lag round) = get round)
    (depart : ∀ round, get (Round.depart round) = get round)
    (step : Turn p e r role e' events) :
    e.rounds.size ≤ e'.rounds.size ∧
      ∀ k < e.rounds.size, get (e'.roundAt k) = get (e.roundAt k) := by
  have same {e' : Engine ω σ} (rounds : e'.rounds = e.rounds) : e.rounds.size ≤ e'.rounds.size ∧
      ∀ k < e.rounds.size, get (e'.roundAt k) = get (e.roundAt k) :=
    ⟨Nat.le_of_eq (congrArg Array.size rounds.symm),
      fun k _ => congrArg get (roundAt_congr rounds k)⟩
  have changed {change : Round → Round} {role' : Role}
      (kept : ∀ round, get (change round) = get round) :
      e.rounds.size ≤ ((e.onRound role change).setRole r role').rounds.size ∧
        ∀ k < e.rounds.size, get (((e.onRound role change).setRole r role').roundAt k) =
          get (e.roundAt k) :=
    ⟨Nat.le_of_eq (size_onRound e role change).symm,
      fun k _ => onRound_keeps get change kept e role k⟩
  cases step with
  | arrive => exact changed arrive
  | enter => exact changed enter
  | lag => exact changed lag
  | depart => exact changed depart
  | consume place rest pair fresh e₁ tally phase _ result _ =>
      have alike := alike_of_consume result
      exact same alike.rounds
  | consumeBroke place rest pair e₁ fault phase _ result =>
      have alike := alike_of_consume result
      exact same alike.rounds
  | store view stopped phase =>
      refine ⟨?_, fun k hk => ?_⟩
      · exact Nat.le_of_lt (by simp [setRole])
      · rw [roundAt_push (e := e) rfl, if_neg (Nat.ne_of_lt hk)]
  | _ => exact same rfl

theorem Turn.views {p : EnginePlan ω σ} {e e' : Engine ω σ} {events : List (Event ω σ)}
    {role : Role} (step : Turn p e r role e' events) :
    ∀ k < e.rounds.size, (e'.roundAt k).view = (e.roundAt k).view :=
  (step.published Round.view (fun _ => rfl) (fun _ => rfl) (fun _ => rfl) fun _ => rfl).2

end Engine
end Litmus
