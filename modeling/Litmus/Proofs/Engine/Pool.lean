import Litmus.Proofs.Engine.Lockstep

/-!
The pools of a run and what is counted about them. The view of a round never changes; it lists the
places from zero up to its size, and it is no larger than the view of the next round. The role that
closes a round has drawn up the next view before it publishes it, and the statistics count it from
then on.
-/
namespace Litmus

variable {ω σ : Type}

/-! ### Growing a view -/

theorem StrideRange.le_growTarget (r : StrideRange) (size : Nat) (lagged : Bool) :
    size ≤ r.growTarget size lagged := by
  unfold growTarget
  split
  · exact Nat.le_max_right _ _
  · exact Nat.le_refl _

theorem StrideRange.growTarget_le {r : StrideRange} {size : Nat}
    (h : size ≤ Nat.max r.least r.most) (lagged : Bool) :
    r.growTarget size lagged ≤ Nat.max r.least r.most := by
  unfold growTarget
  split
  · refine Nat.max_le.2 ⟨Nat.max_le.2 ⟨?_, Nat.le_max_left _ _⟩, h⟩
    exact Nat.le_trans (Nat.min_le_right _ _) (Nat.le_max_right _ _)
  · exact h

theorem View.grow_eq_ok {v : View} {memory : Memory} {size pairBytes : Nat} {blank : Outcome}
    {fresh : ω → ω × Except Fault σ} {world world' : ω} {arena arena' : Arena σ} {view : View}
    (h : v.grow memory size pairBytes blank fresh world arena = (world', .ok (view, arena'))) :
    v.grown size arena.size = view ∧ ∃ states,
      makeStates fresh (v.missing size) world = (world', .ok states) ∧
        arena' = arena ++ (states.map (Pair.mk · blank)).toArray := by
  unfold View.grow at h
  cases allotted : v.allot memory size arena.size pairBytes with
  | error fault => simp [allotted] at h
  | ok grown =>
      cases made : makeStates fresh (v.missing size) world with
      | mk world₁ outcome =>
          cases outcome with
          | error fault => simp [allotted, made, Except.map] at h
          | ok states =>
              simp only [allotted, made, Except.map, Prod.mk.injEq, Except.ok.injEq] at h
              obtain ⟨rfl, rfl, rfl⟩ := h
              exact ⟨(View.allot_eq_ok.1 allotted).2, states, rfl, rfl⟩

theorem makeStates_ok {fresh : ω → ω × Except Fault σ}
    (makes : ∀ world, ∃ world' state, fresh world = (world', .ok state)) (n : Nat) (world : ω) :
    ∃ world' states, makeStates fresh n world = (world', .ok states) := by
  induction n generalizing world with
  | zero => exact ⟨world, [], rfl⟩
  | succ n ih =>
      obtain ⟨world₁, state, first⟩ := makes world
      obtain ⟨world₂, states, rest⟩ := ih world₁
      refine ⟨world₂, state :: states, ?_⟩
      simp only [makeStates, first, rest]
      rfl

/-- Each of the states was made in a world of its own. -/
theorem fresh_of_makeStates {fresh : ω → ω × Except Fault σ} {n : Nat} {world world' : ω}
    {states : List σ} (h : makeStates fresh n world = (world', .ok states)) {i : Nat} {state : σ}
    (hstate : states[i]? = some state) :
    ∃ before, (worldsOf fresh n world)[i]? = some before ∧ (fresh before).2 = .ok state := by
  induction n generalizing world states i with
  | zero =>
      obtain rfl := Except.ok.inj (Prod.mk.inj h).2
      simp at hstate
  | succ n ih =>
      unfold makeStates at h
      cases first : fresh world with
      | mk world₁ outcome =>
          cases outcome with
          | error fault => simp [first] at h
          | ok state₁ =>
              cases rest : makeStates fresh n world₁ with
              | mk world₂ others =>
                  cases others with
                  | error fault => simp [first, rest, Except.map] at h
                  | ok states₁ =>
                      simp only [first, rest, Except.map, Prod.mk.injEq, Except.ok.injEq] at h
                      obtain ⟨rfl, rfl⟩ := h
                      rw [worldsOf, first]
                      cases i with
                      | zero =>
                          obtain rfl := Option.some.inj hstate
                          exact ⟨world, rfl, by rw [first]⟩
                      | succ i => exact ih rest hstate

theorem View.grow_ok {v : View} {memory : Memory} {size pairBytes : Nat}
    {fresh : ω → ω × Except Fault σ}
    (room : v.size < size → memory (v.missing size * pairBytes) = .given)
    (makes : ∀ world, ∃ world' state, fresh world = (world', .ok state)) (blank : Outcome)
    (world : ω) (arena : Arena σ) :
    ∃ world' view arena',
      v.grow memory size pairBytes blank fresh world arena = (world', .ok (view, arena')) := by
  obtain ⟨world', states, made⟩ := makeStates_ok makes (v.missing size) world
  refine ⟨world', v.grown size arena.size,
    arena ++ (states.map (Pair.mk · blank)).toArray, ?_⟩
  rw [View.grow, View.allot_ok room]
  simp only [made, Except.map]

/-- A view whose places are the indices below its size. -/
def View.Flat (v : View) : Prop := v.places = List.range v.size

theorem View.Flat.grown {v : View} (h : v.Flat) (size : Nat) : (v.grown size v.size).Flat := by
  rw [View.Flat, View.places_grown, h, View.size_grown, View.missing, List.range_eq_range',
    List.range_eq_range']
  cases Nat.le_total size v.size with
  | inl hle => simp [Nat.sub_eq_zero_of_le hle, Nat.max_eq_right hle]
  | inr hle =>
      have parted := @List.range'_append_1 0 v.size (size - v.size)
      rw [Nat.zero_add] at parted
      rw [Nat.max_eq_left hle, parted, Nat.add_sub_cancel' hle]

/-! ### The books of a run -/

/-- The next view, while it is drawn up but not published. -/
def Phase.drawn : Phase → Option View
  | .sampling view => some view
  | .storing view _ => some view
  | _ => none

namespace Engine

def Drawn (e : Engine ω σ) (view : View) : Prop :=
  ∃ (r : Nat) (role : Role), e.roles[r]? = some role ∧ role.phase.drawn = some view

/-- The size of the pool in a round. -/
def sizeAt (e : Engine ω σ) (k : Nat) : Nat := (e.roundAt k).view.size

/-- How many rounds were published with a larger pool than the one before. -/
def enlarged (e : Engine ω σ) : Nat :=
  (List.range e.current).countP fun k => e.sizeAt k < e.sizeAt (k + 1)

end Engine

structure Books (p : EnginePlan ω σ) (e : Engine ω σ) : Prop where
  flat : ∀ k, (e.roundAt k).view.Flat
  bounded : ∀ k, e.sizeAt k ≤ Nat.max p.range.least p.range.most
  first : e.sizeAt 0 = 0
  widening : ∀ k < e.current, e.sizeAt k ≤ e.sizeAt (k + 1)
  settled : (¬ ∃ view, e.Drawn view) → e.stats.publishes = e.current ∧
    e.stats.grows = e.enlarged ∧ e.stats.pool = e.sizeAt e.current ∧
      e.arena.size = e.sizeAt e.current
  drawn : ∀ view, e.Drawn view →
    (view.Flat ∧ e.sizeAt e.current ≤ view.size ∧
      view.size ≤ Nat.max p.range.least p.range.most) ∧
    e.stats.publishes = e.current + 1 ∧
    e.stats.grows = e.enlarged + (if e.sizeAt e.current < view.size then 1 else 0) ∧
    e.stats.pool = view.size ∧ e.arena.size = view.size
  duplicates : e.stats.duplicates = 0
  lastRound : (e.stats.publishes = 0 ∧ e.stats.lastRound = Word.max) ∨
    e.stats.lastRound + 1 = e.stats.publishes

variable {p : EnginePlan ω σ} {e e' : Engine ω σ} {tr events : List (Event ω σ)} {r : Nat}
  {role role' : Role}

theorem Role.closes_of_drawn {view : View} (h : role.phase.drawn = some view) :
    role.Closes ∧ role.phase.stage ≠ 13 := by
  unfold Role.Closes Role.Live
  cases phase : role.phase <;> simp [phase, Phase.drawn, Phase.stage] at h ⊢

namespace Lockstep

/-- Until it publishes the next one, the round that a role closes is the current one. -/
theorem closer_current (h : Lockstep p e tr) (found : e.roles[r]? = some role)
    (closes : role.Closes) (earlier : role.phase.stage ≠ 13) :
    role.round = e.current ∧ role.lap p = e.current := by
  have station := h.stations r role found closes.2
  have current := h.current_eq_lap (h.not_ready_of_closer found closes earlier)
  have later : 0 < role.phase.stage := Nat.lt_trans (by decide) closes.1
  obtain ⟨held, -⟩ := station.holds (Nat.lt_trans (by decide) closes.1)
  exact ⟨held.trans current.symm, (station.lap_eq later).trans current.symm⟩

/-- No other role has drawn up a view that a role has drawn up, or is about to. -/
theorem drawn_unique (h : Lockstep p e tr) (found : e.roles[r]? = some role)
    (closes : role.Closes) {i : Nat} {other : Role} {view : View}
    (found' : e.roles[i]? = some other) (drawn : other.phase.drawn = some view) :
    i = r ∧ role.phase.drawn = some view := by
  obtain rfl := h.closer_unique found closes found' (Role.closes_of_drawn drawn).1
  obtain rfl : role = other := Option.some.inj (found.symm.trans found')
  exact ⟨rfl, drawn⟩

/-- Before the role that closes a round draws up the next view, nobody has. -/
theorem growing_undrawn (h : Lockstep p e tr) (found : e.roles[r]? = some role)
    (phase : role.phase = .growing) : ¬ ∃ view, e.Drawn view := by
  have closes : role.Closes := by
    rw [Role.Closes, Role.Live, phase]
    exact ⟨by decide, by decide⟩
  rintro ⟨view, i, other, found', drawn⟩
  have own := (h.drawn_unique found closes found' drawn).2
  rw [phase] at own
  simp [Phase.drawn] at own

/-- The role that is about to enlarge the pool closes the current round. -/
theorem growing_current (h : Lockstep p e tr) (found : e.roles[r]? = some role)
    (phase : role.phase = .growing) : role.round = e.current ∧ role.lap p = e.current := by
  refine h.closer_current found ?_ (by rw [phase]; decide)
  rw [Role.Closes, Role.Live, phase]
  exact ⟨by decide, by decide⟩

end Lockstep

/-- The size that the role that closes a round gives to the next one. -/
def Engine.target (p : EnginePlan ω σ) (e : Engine ω σ) (role : Role) : Nat :=
  p.range.growTarget (e.sizeAt role.round) (e.roundAt role.round).lagged

theorem Engine.growth_eq_ok {world : ω} {view : View} {arena : Arena σ}
    (h : e.growth p role = (world, .ok (view, arena))) :
    (e.roundAt role.round).view.grown (e.target p role) e.arena.size = view ∧ ∃ states,
      makeStates p.test.fresh (e.target p role - e.sizeAt role.round) e.world =
          (world, .ok states) ∧
        arena = e.arena ++ (states.map (Pair.mk · p.test.blank)).toArray :=
  View.grow_eq_ok h

theorem Engine.size_of_growth {world : ω} {view : View} {arena : Arena σ}
    (h : e.growth p role = (world, .ok (view, arena))) :
    view.size = e.target p role ∧
      arena.size = e.arena.size + (e.target p role - e.sizeAt role.round) := by
  obtain ⟨rfl, states, made, rfl⟩ := Engine.growth_eq_ok h
  refine ⟨?_, ?_⟩
  · rw [View.size_grown]
    exact Nat.max_eq_left (p.range.le_growTarget _ _)
  · simp [length_of_makeStates made]

namespace Books

/-- The pool never shrinks. -/
theorem sizeAt_mono (h : Books p e) {i j : Nat} (hij : i ≤ j) (hj : j ≤ e.current) :
    e.sizeAt i ≤ e.sizeAt j := by
  induction hij with
  | refl => exact Nat.le_refl _
  | @step j _ ih => exact Nat.le_trans (ih (by omega)) (h.widening j hj)

/-- All pairs of the rounds published so far exist. -/
theorem sizeAt_le_arena (h : Books p e) {k : Nat} (hk : k ≤ e.current) :
    e.sizeAt k ≤ e.arena.size := by
  refine Nat.le_trans (h.sizeAt_mono hk (Nat.le_refl _)) ?_
  by_cases drawn : ∃ view, e.Drawn view
  · obtain ⟨view, hview⟩ := drawn
    obtain ⟨⟨-, wider, -⟩, -, -, -, pairs⟩ := h.drawn view hview
    omega
  · exact Nat.le_of_eq (h.settled drawn).2.2.2.symm

/-- A step that publishes nothing and leaves the pool as large as it is. -/
theorem keep (h : Books p e) (drawn : ∀ view, e'.Drawn view ↔ e.Drawn view)
    (views : ∀ k, (e'.roundAt k).view = (e.roundAt k).view)
    (published : e'.rounds.size = e.rounds.size) (stats : e'.stats = e.stats)
    (pairs : e'.arena.size = e.arena.size) : Books p e' := by
  have sizes (k : Nat) : e'.sizeAt k = e.sizeAt k := by rw [Engine.sizeAt, views, Engine.sizeAt]
  have current : e'.current = e.current := by rw [Engine.current, published, Engine.current]
  have enlarged : e'.enlarged = e.enlarged := by
    unfold Engine.enlarged
    rw [current]
    congr 1
    funext k
    rw [sizes, sizes]
  refine ⟨?_, ?_, ?_, ?_, ?_, ?_, ?_, ?_⟩
  · intro k
    rw [views]
    exact h.flat k
  · intro k
    rw [sizes]
    exact h.bounded k
  · rw [sizes]
    exact h.first
  · intro k hk
    rw [sizes, sizes]
    exact h.widening k (current ▸ hk)
  · intro none
    rw [stats, current, enlarged, sizes, pairs]
    refine h.settled ?_
    rintro ⟨view, hview⟩
    exact none ⟨view, (drawn view).2 hview⟩
  · intro view hview
    rw [stats, current, enlarged, sizes, pairs]
    exact h.drawn view ((drawn view).1 hview)
  · rw [stats]
    exact h.duplicates
  · rw [stats]
    exact h.lastRound

theorem drawn_setRole (found : e.roles[r]? = some role)
    (roles : e'.roles = e.roles.setIfInBounds r role')
    (same : role'.phase.drawn = role.phase.drawn) (view : View) :
    e'.Drawn view ↔ e.Drawn view := by
  unfold Engine.Drawn
  rw [roles]
  exact Engine.exists_role_iff (P := fun _ x => x.phase.drawn = some view) found (by rw [same])

theorem alike (h : Books p e) (found : e.roles[r]? = some role) {e₁ : Engine ω σ}
    (a : Engine.Alike e e₁) (same : role'.phase.drawn = role.phase.drawn) :
    Books p (e₁.setRole r role') :=
  h.keep (drawn_setRole found (by rw [← a.roles]; rfl) same)
    (fun k => by rw [Engine.roundAt_congr (e := e) (by exact a.rounds)])
    (congrArg Array.size a.rounds) a.stats a.size

theorem onRound (h : Books p e) (found : e.roles[r]? = some role) {change : Round → Round}
    (view : ∀ round, (change round).view = round.view)
    (same : role'.phase.drawn = role.phase.drawn) :
    Books p ((e.onRound role change).setRole r role') :=
  h.keep (drawn_setRole found rfl same) (Engine.onRound_keeps Round.view change view e role)
    (Engine.size_onRound e role change) rfl rfl

/-- The role that closes a round draws up the next view. -/
theorem grow (h : Books p e) (lock : Lockstep p e tr) (found : e.roles[r]? = some role)
    (phase : role.phase = .growing) {world : ω} {view : View} {arena : Arena σ}
    (grown : e.growth p role = (world, .ok (view, arena))) :
    Books p ({ e with
      world, arena
      stats := e.stats.recordPublish e.now (role.base / (p.size + 1))
        ((e.roundAt role.round).view.size <
          p.range.growTarget (e.roundAt role.round).view.size (e.roundAt role.round).lagged)
        view.size }.setRole r { role with phase := .sampling view }) := by
  obtain ⟨round, number⟩ := lock.growing_current found phase
  have undrawn := lock.growing_undrawn found phase
  obtain ⟨publishes, grows, pool, pairs⟩ := h.settled undrawn
  obtain ⟨size, pairs'⟩ := Engine.size_of_growth grown
  obtain ⟨flat, -⟩ := Engine.growth_eq_ok grown
  have wider : e.sizeAt e.current ≤ view.size := by
    rw [size, Engine.target, round]
    exact p.range.le_growTarget _ _
  have drawn (v : View) : (e.setRole r { role with phase := .sampling view }).Drawn v ↔
      v = view := by
    constructor
    · rintro ⟨i, x, hx, hdrawn⟩
      rcases (Engine.role_setRole found).1 hx with ⟨rfl, rfl⟩ | ⟨-, hx⟩
      · exact (Option.some.inj hdrawn).symm
      · exact absurd ⟨v, i, x, hx, hdrawn⟩ undrawn
    · rintro rfl
      exact ⟨r, _, (Engine.role_setRole found).2 (.inl ⟨rfl, rfl⟩), rfl⟩
  refine ⟨h.flat, h.bounded, h.first, h.widening, ?_, ?_, ?_, ?_⟩
  · exact fun none => absurd ⟨view, (drawn view).2 rfl⟩ none
  · intro v hv
    obtain rfl := (drawn v).1 hv
    refine ⟨⟨?_, wider, ?_⟩, ?_, ?_, rfl, ?_⟩
    · rw [round, pairs] at flat
      rw [← flat]
      exact (h.flat _).grown _
    · rw [size]
      exact StrideRange.growTarget_le (h.bounded _) _
    · exact congrArg (· + 1) publishes
    · change (if decide (e.sizeAt role.round < e.target p role) = true then e.stats.grows + 1
        else e.stats.grows) = e.enlarged + if e.sizeAt e.current < v.size then 1 else 0
      rw [← size, round, grows]
      by_cases larger : e.sizeAt e.current < v.size
      · simp [larger]
      · simp [larger]
    · change arena.size = v.size
      rw [pairs', size, round, pairs]
      exact Nat.add_sub_cancel' (size ▸ wider)
  · change (if e.stats.lastRound = role.lap p then e.stats.duplicates + 1
      else e.stats.duplicates) = 0
    rw [number, if_neg, h.duplicates]
    have := h.lastRound
    have : Word.max ≠ 0 := by decide
    omega
  · refine .inr ?_
    change role.lap p + 1 = e.stats.publishes + 1
    rw [number, publishes]

/-- The drawn view becomes that of the current round. -/
theorem store (h : Books p e) (lock : Lockstep p e tr) (found : e.roles[r]? = some role)
    {view : View} {stopped : Bool} (phase : role.phase = .storing view stopped) :
    Books p ({ e with rounds := e.rounds.push (Round.published stopped view p.size) }.setRole r
      { role with phase := .releasing }) := by
  have isDrawn : e.Drawn view := ⟨r, role, found, by rw [phase]; rfl⟩
  have own : role.phase.drawn = some view := by rw [phase]; rfl
  have closes := Role.closes_of_drawn own
  obtain ⟨⟨flat, wider, bound⟩, publishes, grows, pool, pairs⟩ := h.drawn view isDrawn
  have published : e.rounds.size = e.current + 1 := by
    have := lock.lap_lt_rounds
    rw [Engine.current]
    omega
  generalize he' : ({ e with rounds := e.rounds.push (Round.published stopped view p.size)
    }.setRole r { role with phase := .releasing }) = e'
  have rounds : e'.rounds = e.rounds.push (Round.published stopped view p.size) := by
    rw [← he']
    rfl
  have before {k : Nat} (hk : k ≠ e.current + 1) : (e'.roundAt k).view = (e.roundAt k).view := by
    rw [Engine.roundAt_push rounds, if_neg (published ▸ hk)]
  have new : (e'.roundAt (e.current + 1)).view = view := by
    rw [Engine.roundAt_push rounds, if_pos published.symm]
    rfl
  have sizes {k : Nat} (hk : k ≠ e.current + 1) : e'.sizeAt k = e.sizeAt k :=
    congrArg View.size (before hk)
  have newSize : e'.sizeAt (e.current + 1) = view.size := congrArg View.size new
  have current : e'.current = e.current + 1 := by
    rw [Engine.current, rounds, Array.size_push, published]
    rfl
  have undrawn : ¬ ∃ v, e'.Drawn v := by
    rintro ⟨v, i, x, hx, hdrawn⟩
    rw [← he'] at hx
    rcases (Engine.role_setRole found).1 hx with ⟨rfl, rfl⟩ | ⟨hne, hx⟩
    · simp [Phase.drawn] at hdrawn
    · exact hne (lock.drawn_unique found closes.1 hx hdrawn).1
  have stats : e'.stats = e.stats := by rw [← he']; rfl
  have arena : e'.arena = e.arena := by rw [← he']; rfl
  refine ⟨?_, ?_, ?_, ?_, ?_, fun v hv => absurd ⟨v, hv⟩ undrawn, ?_, ?_⟩
  · intro k
    by_cases hk : k = e.current + 1
    · rw [hk, new]
      exact flat
    · rw [before hk]
      exact h.flat k
  · intro k
    by_cases hk : k = e.current + 1
    · rw [hk, newSize]
      exact bound
    · rw [sizes hk]
      exact h.bounded k
  · rw [sizes (by omega)]
    exact h.first
  · intro k hk
    rw [current] at hk
    rw [sizes (by omega)]
    rcases Nat.lt_or_eq_of_le (Nat.le_of_lt_succ hk) with hk | rfl
    · rw [sizes (by omega)]
      exact h.widening k hk
    · rw [newSize]
      exact wider
  · intro
    refine ⟨by rw [stats, publishes, current], ?_, by rw [stats, pool, current, newSize],
      by rw [arena, pairs, current, newSize]⟩
    have earlier : (List.range e.current).countP (fun k => e'.sizeAt k < e'.sizeAt (k + 1)) =
        e.enlarged := by
      refine List.countP_congr fun k hk => ?_
      have := List.mem_range.1 hk
      rw [sizes (by omega), sizes (by omega)]
    have total : e'.enlarged = e.enlarged + if e.sizeAt e.current < view.size then 1 else 0 := by
      rw [Engine.enlarged, current, List.range_succ, List.countP_append, earlier,
        List.countP_singleton, sizes (by omega), newSize]
      simp
    rw [stats, grows, total]
  · rw [stats]
    exact h.duplicates
  · rw [stats]
    exact h.lastRound

theorem turn (h : Books p e) (lock : Lockstep p e tr) (found : e.roles[r]? = some role)
    (step : Engine.Turn p e r role e' events) : Books p e' := by
  have plain {role' : Role} (same : role'.phase.drawn = role.phase.drawn) :
      Books p (e.setRole r role') := h.alike found (.refl e) same
  cases step with
  | load phase _ => exact plain (by rw [phase]; rfl)
  | leave phase _ => exact plain (by rw [phase]; rfl)
  | arrive phase => exact h.onRound found (fun _ => rfl) (by rw [phase]; rfl)
  | miss gate phase _ => exact plain (by rw [phase]; rfl)
  | retry gate phase _ => exact plain (by rw [phase]; rfl)
  | giveUp gate phase _ => exact plain (by rw [phase]; rfl)
  | passStart phase _ => exact plain (by rw [phase]; rfl)
  | clear phase _ _ _ _ => exact plain (by rw [phase]; rfl)
  | misfit phase _ _ _ => exact plain (by rw [phase]; rfl)
  | begin phase _ => exact plain (by rw [phase]; rfl)
  | enter phase => exact h.onRound found (fun _ => rfl) (by rw [phase]; rfl)
  | act place rest pair phase _ _ =>
      exact h.alike found (Engine.alike_absorb ..) (by rw [phase]; rfl)
  | actBroke place rest pair fault phase _ _ =>
      exact h.alike found (Engine.alike_absorb ..) (by rw [phase]; rfl)
  | actLost place rest phase _ => exact plain (by rw [phase]; rfl)
  | early phase _ => exact plain (by rw [phase]; rfl)
  | done phase _ => exact plain (by rw [phase]; rfl)
  | lag phase => exact h.onRound found (fun _ => rfl) (by rw [phase]; rfl)
  | depart phase => exact h.onRound found (fun _ => rfl) (by rw [phase]; rfl)
  | consume place rest pair fresh e₁ tally phase _ result _ =>
      have alike := Engine.alike_of_consume result
      exact h.alike found alike (by rw [phase]; rfl)
  | consumeBroke place rest pair e₁ fault phase _ result =>
      have alike := Engine.alike_of_consume result
      exact h.alike found alike (by rw [phase]; rfl)
  | consumeLost place rest phase _ => exact plain (by rw [phase]; rfl)
  | close phase _ =>
      exact h.keep (drawn_setRole found rfl (by rw [phase]; rfl)) (fun _ => rfl) rfl rfl rfl
  | finish phase _ =>
      exact h.keep (drawn_setRole found rfl (by rw [phase]; rfl)) (fun _ => rfl) rfl rfl rfl
  | grow world view arena phase grown => exact h.grow lock found phase grown
  | growBroke world fault phase _ =>
      exact h.keep (drawn_setRole found rfl (by rw [phase]; rfl)) (fun _ => rfl) rfl rfl rfl
  | sample view phase => exact plain (by rw [phase]; rfl)
  | store view stopped phase => exact h.store lock found phase
  | release phase =>
      exact h.keep (drawn_setRole found rfl (by rw [phase]; rfl)) (fun _ => rfl) rfl rfl rfl
  | die fault phase =>
      exact h.keep (drawn_setRole found rfl (by rw [phase]; rfl)) (fun _ => rfl) rfl rfl rfl
  | halt fault phase =>
      exact h.keep (drawn_setRole found rfl (by rw [phase]; rfl)) (fun _ => rfl) rfl rfl rfl
  | exit result phase =>
      exact h.keep (drawn_setRole found rfl (by rw [phase]; rfl)) (fun _ => rfl) rfl rfl rfl
  | report result phase =>
      exact h.keep (drawn_setRole found rfl (by rw [phase]; rfl)) (fun _ => rfl) rfl rfl rfl
  | rest _ => exact h

theorem still (h : Books p e) {m : Engine.Move} (outside : ∀ r, m ≠ .role r) :
    Books p (e.apply p m) := by
  cases m with
  | role r => exact absurd rfl (outside r)
  | stop => exact h.keep (fun _ => Iff.rfl) (fun _ => rfl) rfl rfl rfl
  | abort => exact h.keep (fun _ => Iff.rfl) (fun _ => rfl) rfl rfl rfl
  | tick nanos => exact h.keep (fun _ => Iff.rfl) (fun _ => rfl) rfl rfl rfl

theorem launch (p : EnginePlan ω σ) (w : ω) : Books p (p.launch w) := by
  have view (k : Nat) : ((p.launch w).roundAt k).view = View.empty := by
    cases k with
    | zero => rfl
    | succ k => rfl
  have undrawn (v : View) : ¬ (p.launch w).Drawn v := by
    rintro ⟨i, x, hx, hdrawn⟩
    rw [p.launched_role w hx] at hdrawn
    simp [Role.launched, Phase.drawn] at hdrawn
  refine ⟨?_, ?_, rfl, ?_, fun _ => ⟨rfl, rfl, rfl, rfl⟩, fun v hv => absurd hv (undrawn v), rfl,
    .inl ⟨rfl, rfl⟩⟩
  · intro k
    rw [view]
    rfl
  · intro k
    rw [Engine.sizeAt, view]
    exact Nat.zero_le _
  · intro k hk
    exact absurd hk (Nat.not_lt_zero k)

end Books

theorem books (p : EnginePlan ω σ) (w : ω) (ms : List Engine.Move) :
    Books p ((p.launch w).run p ms) :=
  (Engine.turn_invariant (P := fun e tr => Lockstep p e tr ∧ Books p e)
    ⟨.launch p w, .launch p w⟩ ms
    (fun _ _ _ _ _ _ h found step => ⟨h.1.turn found step, h.2.turn h.1 found step⟩)
    fun _ _ outside _ _ h => ⟨h.1.still outside, h.2.still outside⟩).2

end Litmus
