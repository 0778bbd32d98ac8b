import Litmus.Proofs.Engine.Pool

/-!
Who published which round: each round that is over is recorded and then made current by one and
the same role, and the numbers of the rounds follow each other without a gap.
-/
namespace Litmus

variable {ω σ : Type}

/-- The roles that recorded a round and the numbers that they recorded, in order. -/
def recordings (tr : List (Event ω σ)) : List (Nat × Nat) :=
  tr.filterMap fun
    | .recorded r k => some (r, k)
    | _ => none

/-- The roles that published a round and the rounds that this ended, in order. -/
def stores (tr : List (Event ω σ)) : List (Nat × Nat) :=
  tr.filterMap fun
    | .stored r k => some (r, k)
    | _ => none

variable {p : EnginePlan ω σ} {e e' : Engine ω σ} {tr events : List (Event ω σ)} {r k : Nat}
  {role role' : Role}

theorem recordings_append (tr events : List (Event ω σ)) :
    recordings (tr ++ events) = recordings tr ++ recordings events :=
  List.filterMap_append

theorem stores_append (tr events : List (Event ω σ)) :
    stores (tr ++ events) = stores tr ++ stores events :=
  List.filterMap_append

theorem mem_stores : (r, k) ∈ stores tr ↔ .stored r k ∈ tr := by
  rw [stores, List.mem_filterMap]
  constructor
  · rintro ⟨event, hmem, h⟩
    cases event with
    | stored i j =>
        obtain ⟨rfl, rfl⟩ := Prod.mk.inj (Option.some.inj h)
        exact hmem
    | _ => simp at h
  · exact fun h => ⟨_, h, rfl⟩

theorem recordings_madeFrom (k place : Nat) (made : List (ω × Pair σ)) :
    recordings (madeFrom k place made : List (Event ω σ)) = [] := by
  simp [recordings, madeFrom]

theorem stores_madeFrom (k place : Nat) (made : List (ω × Pair σ)) :
    stores (madeFrom k place made : List (Event ω σ)) = [] := by
  simp [stores, madeFrom]

/-- A role has drawn up the next view. -/
def Engine.DrawnBy (e : Engine ω σ) (r : Nat) : Prop :=
  ∃ (role : Role) (view : View), e.roles[r]? = some role ∧ role.phase.drawn = some view

theorem Engine.drawn_iff : (∃ view, e.Drawn view) ↔ ∃ r, e.DrawnBy r := by
  constructor
  · rintro ⟨view, r, role, found, h⟩
    exact ⟨r, role, view, found, h⟩
  · rintro ⟨r, role, view, found, h⟩
    exact ⟨view, r, role, found, h⟩

structure Ledger (e : Engine ω σ) (tr : List (Event ω σ)) : Prop where
  stored : (stores tr).map (·.2) = List.range e.current
  settled : (¬ ∃ r, e.DrawnBy r) → recordings tr = stores tr
  drawn : ∀ r, e.DrawnBy r → recordings tr = stores tr ++ [(r, e.current)]

namespace Ledger

theorem drawnBy_iff (found : e.roles[r]? = some role)
    (roles : e'.roles = e.roles.setIfInBounds r role')
    (same : role'.phase.drawn = role.phase.drawn) (i : Nat) : e'.DrawnBy i ↔ e.DrawnBy i := by
  unfold Engine.DrawnBy
  rw [roles]
  by_cases hi : i = r
  · subst hi
    obtain ⟨inside, heq⟩ := Array.getElem?_eq_some_iff.1 found
    simp [inside, heq, same]
  · simp [Ne.symm hi]

theorem keep (h : Ledger e tr) (drawn : ∀ i, e'.DrawnBy i ↔ e.DrawnBy i)
    (published : e'.rounds.size = e.rounds.size) (recorded : recordings events = [])
    (stored : stores events = []) : Ledger e' (tr ++ events) := by
  have current : e'.current = e.current := by rw [Engine.current, published, Engine.current]
  refine ⟨?_, ?_, ?_⟩
  · rw [stores_append, stored, List.append_nil, current]
    exact h.stored
  · rw [stores_append, recordings_append, recorded, stored, List.append_nil, List.append_nil]
    intro none
    refine h.settled ?_
    rintro ⟨i, hi⟩
    exact none ⟨i, (drawn i).2 hi⟩
  · intro i hi
    rw [stores_append, recordings_append, recorded, stored, List.append_nil, List.append_nil,
      current]
    exact h.drawn i ((drawn i).1 hi)

/-- A step that leaves what the role has drawn up, and neither records nor publishes. -/
theorem plain (h : Ledger e tr) (found : e.roles[r]? = some role)
    (roles : e'.roles = e.roles.setIfInBounds r role')
    (same : role'.phase.drawn = role.phase.drawn) (published : e'.rounds.size = e.rounds.size)
    (recorded : recordings events = []) (stored : stores events = []) :
    Ledger e' (tr ++ events) :=
  h.keep (drawnBy_iff found roles same) published recorded stored

/-- The role that closes the current round records it. -/
theorem grow (h : Ledger e tr) (lock : Lockstep p e tr) (found : e.roles[r]? = some role)
    (phase : role.phase = .growing) (view : View)
    (roles : e'.roles = e.roles.setIfInBounds r { role with phase := .sampling view })
    (published : e'.rounds.size = e.rounds.size) {made : List (ω × Pair σ)} {place : Nat} :
    Ledger e' (tr ++ .recorded r (role.base / (p.size + 1)) ::
      madeFrom (role.round + 1) place made) := by
  have number := (lock.growing_current found phase).2
  have undrawn : ¬ ∃ i, e.DrawnBy i := fun drawn =>
    lock.growing_undrawn found phase (Engine.drawn_iff.2 drawn)
  have current : e'.current = e.current := by rw [Engine.current, published, Engine.current]
  have recorded : recordings (.recorded r (role.base / (p.size + 1)) ::
      madeFrom (role.round + 1) place made : List (Event ω σ)) = [(r, e.current)] := by
    change (r, role.lap p) :: recordings (madeFrom _ place made : List (Event ω σ)) = _
    rw [recordings_madeFrom, number]
  have stored : stores (.recorded r (role.base / (p.size + 1)) ::
      madeFrom (role.round + 1) place made : List (Event ω σ)) = [] :=
    stores_madeFrom (role.round + 1) place made
  refine ⟨?_, ?_, ?_⟩
  · rw [stores_append, stored, List.append_nil, current]
    exact h.stored
  · refine fun none => absurd ⟨r, { role with phase := .sampling view }, view, ?_, rfl⟩ none
    rw [roles]
    exact (Engine.role_setRole found).2 (.inl ⟨rfl, rfl⟩)
  · rintro i ⟨x, v, hx, hdrawn⟩
    rw [roles] at hx
    rcases (Engine.role_setRole found).1 hx with ⟨rfl, rfl⟩ | ⟨-, hx⟩
    · rw [recordings_append, stores_append, recorded, stored, List.append_nil, current,
        h.settled undrawn]
    · exact absurd ⟨i, x, v, hx, hdrawn⟩ undrawn

/-- The role that recorded a round publishes the next one. -/
theorem store (h : Ledger e tr) (lock : Lockstep p e tr) (found : e.roles[r]? = some role)
    {view : View} {stopped : Bool} (phase : role.phase = .storing view stopped)
    (roles : e'.roles = e.roles.setIfInBounds r { role with phase := .releasing })
    (published : e'.rounds.size = e.rounds.size + 1) :
    Ledger e' (tr ++ [.stored r role.round]) := by
  have own : role.phase.drawn = some view := by rw [phase]; rfl
  obtain ⟨closes, earlier⟩ := Role.closes_of_drawn own
  have round := (lock.closer_current found closes earlier).1
  have current : e'.current = e.current + 1 := by
    have := lock.lap_lt_rounds
    rw [Engine.current, published, Engine.current]
    omega
  have stored : stores [(.stored r role.round : Event ω σ)] = [(r, e.current)] := by
    rw [← round]
    rfl
  have recorded : recordings [(.stored r role.round : Event ω σ)] = [] := rfl
  refine ⟨?_, ?_, ?_⟩
  · rw [stores_append, stored, List.map_append, h.stored, current, List.range_succ]
    rfl
  · intro
    rw [recordings_append, stores_append, recorded, stored, List.append_nil]
    exact h.drawn r ⟨role, view, found, own⟩
  · rintro i ⟨x, v, hx, hdrawn⟩
    rw [roles] at hx
    rcases (Engine.role_setRole found).1 hx with ⟨rfl, rfl⟩ | ⟨hne, hx⟩
    · simp [Phase.drawn] at hdrawn
    · exact absurd (lock.drawn_unique found closes hx hdrawn).1 hne

theorem turn (h : Ledger e tr) (lock : Lockstep p e tr) (found : e.roles[r]? = some role)
    (step : Engine.Turn p e r role e' events) : Ledger e' (tr ++ events) := by
  cases step with
  | arrive phase =>
      exact h.plain found rfl (by rw [phase]; rfl) (Engine.size_onRound ..) rfl rfl
  | enter phase =>
      exact h.plain found rfl (by rw [phase]; rfl) (Engine.size_onRound ..) rfl rfl
  | lag phase =>
      exact h.plain found rfl (by rw [phase]; rfl) (Engine.size_onRound ..) rfl rfl
  | depart phase =>
      exact h.plain found rfl (by rw [phase]; rfl) (Engine.size_onRound ..) rfl rfl
  | consume place rest pair fresh e₁ tally phase _ result _ =>
      have alike := Engine.alike_of_consume result
      exact h.plain found (alike.roles_setRole r _) (by rw [phase]; rfl)
        (congrArg Array.size alike.rounds) rfl rfl
  | consumeBroke place rest pair e₁ fault phase _ result =>
      have alike := Engine.alike_of_consume result
      exact h.plain found (alike.roles_setRole r _) (by rw [phase]; rfl)
        (congrArg Array.size alike.rounds) rfl rfl
  | grow world view arena phase grown =>
      refine h.grow lock found phase view ?_ ?_
      · rfl
      · rfl
  | store view stopped phase =>
      exact h.store lock found phase rfl (Array.size_push _)
  | rest phase =>
      rwa [List.append_nil]
  | _ => exact h.plain found rfl (by simp [*, Phase.drawn]) rfl rfl rfl

theorem still (h : Ledger e tr) {m : Engine.Move} (outside : ∀ r, m ≠ .role r) :
    Ledger (e.apply p m) tr := by
  cases m with
  | role r => exact absurd rfl (outside r)
  | stop => exact { h with }
  | abort => exact { h with }
  | tick nanos => exact { h with }

theorem launch (p : EnginePlan ω σ) (w : ω) : Ledger (p.launch w) [] := by
  have undrawn (i : Nat) : ¬ (p.launch w).DrawnBy i := by
    rintro ⟨x, view, hx, hdrawn⟩
    rw [p.launched_role w hx] at hdrawn
    simp [Role.launched, Phase.drawn] at hdrawn
  exact ⟨rfl, fun _ => rfl, fun i hi => absurd hi (undrawn i)⟩

end Ledger

theorem ledger (p : EnginePlan ω σ) (w : ω) (ms : List Engine.Move) :
    Ledger ((p.launch w).run p ms) ((p.launch w).trace p ms) :=
  (Engine.turn_invariant (P := fun e tr => Lockstep p e tr ∧ Ledger e tr)
    ⟨.launch p w, .launch p w⟩ ms
    (fun _ _ _ _ _ _ h found step => ⟨h.1.turn found step, h.2.turn h.1 found step⟩)
    fun _ _ outside _ _ h => ⟨h.1.still outside, h.2.still outside⟩).2

end Litmus
