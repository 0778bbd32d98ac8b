import Litmus.Proofs.Engine.Accounting

/-!
How the pool of a run grows. The size of a round follows from that of the round before and from
whether that one lagged. The first publish gives the least size, each lagging round after it doubles
the size, and the maximum cuts it; so the size is known from the number of rounds that lagged.
-/
namespace Litmus

/-! ### Sizes and lagging rounds -/

namespace StrideRange

/-- The sizes of the pool, round by round, if it starts empty and these rounds lag. -/
def sizes (r : StrideRange) (lags : Nat → Bool) : Nat → Nat
  | 0 => 0
  | k + 1 => r.growTarget (sizes r lags k) (lags k)

variable {r : StrideRange} {lags : Nat → Bool}

/-- To double what is cut at the maximum is to cut the double, whatever the word bound is. -/
theorem growTarget_min (ordered : r.least ≤ r.most) (small : r.most ≤ Word.max) {size : Nat}
    (above : r.least ≤ size) : r.growTarget (min r.most size) true = min r.most (size * 2) := by
  have cut : r.least ≤ min r.most size := Nat.le_min.2 ⟨ordered, above⟩
  rw [growTarget, if_pos rfl, Word.double]
  omega

theorem sizes_one (first : lags 0 = true) : r.sizes lags 1 = r.least := by
  change r.growTarget 0 (lags 0) = r.least
  rw [first, growTarget, if_pos rfl, Word.double]
  omega

/-- The rounds that lag after the first one and up to a given one. -/
def laggards (lags : Nat → Bool) (k : Nat) : Nat := (List.range' 1 k).countP lags

theorem laggards_succ (lags : Nat → Bool) (k : Nat) :
    laggards lags (k + 1) = laggards lags k + if lags (k + 1) then 1 else 0 := by
  rw [laggards, List.range'_concat, List.countP_append, List.countP_singleton, Nat.one_mul,
    Nat.add_comm 1 k, laggards]

theorem sizes_succ (ordered : r.least ≤ r.most) (small : r.most ≤ Word.max)
    (first : lags 0 = true) (k : Nat) :
    r.sizes lags (k + 1) = min r.most (r.least * 2 ^ laggards lags k) := by
  induction k with
  | zero =>
      rw [sizes_one first]
      change r.least = min r.most (r.least * 2 ^ 0)
      omega
  | succ k ih =>
      change r.growTarget (r.sizes lags (k + 1)) (lags (k + 1)) = _
      rw [ih, laggards_succ]
      cases lags (k + 1) with
      | false => rfl
      | true =>
          have above : r.least ≤ r.least * 2 ^ laggards lags k :=
            Nat.le_mul_of_pos_right _ (Nat.two_pow_pos _)
          rw [growTarget_min ordered small above, if_pos rfl, Nat.pow_succ, Nat.mul_assoc]

/-- What is known of the sizes from the rounds that lag. -/
structure Doubles (r : StrideRange) (lags : Nat → Bool) : Prop where
  closed : ∀ k, r.sizes lags (k + 1) = min r.most (r.least * 2 ^ laggards lags k)
  widening : ∀ k, r.sizes lags k ≤ r.sizes lags (k + 1)
  within : ∀ k, r.least ≤ r.sizes lags (k + 1) ∧ r.sizes lags (k + 1) ≤ r.most
  idle : ∀ k, lags k = false → r.sizes lags (k + 1) = r.sizes lags k
  /-- No size is so large that its double is not a count and the maximum is. -/
  unsaturated : ∀ k, min (Word.double (r.sizes lags k)) r.most = min (r.sizes lags k * 2) r.most

theorem doubles (ordered : r.least ≤ r.most) (small : r.most ≤ Word.max)
    (first : lags 0 = true) : r.Doubles lags where
  closed := sizes_succ ordered small first
  widening k := r.le_growTarget (r.sizes lags k) (lags k)
  within k := by
    rw [sizes_succ ordered small first]
    have above : r.least ≤ r.least * 2 ^ laggards lags k :=
      Nat.le_mul_of_pos_right _ (Nat.two_pow_pos _)
    omega
  idle k idle := by
    change r.growTarget (r.sizes lags k) (lags k) = _
    rw [idle]
    rfl
  unsaturated k := by
    rw [Word.double]
    omega

end StrideRange

/-! ### The pools of a run -/

variable {ω σ : Type} {p : EnginePlan ω σ} {e e' : Engine ω σ} {tr events : List (Event ω σ)}
  {r k : Nat} {role role' : Role}

/-- Whether a round lagged. -/
def Engine.lags (e : Engine ω σ) (k : Nat) : Bool := (e.roundAt k).lagged

/-- Each pool was made from the one before, as the round that it ends says. -/
structure Grown (p : EnginePlan ω σ) (e : Engine ω σ) : Prop where
  first : e.lags 0 = true
  past : ∀ k < e.current, e.sizeAt (k + 1) = p.range.growTarget (e.sizeAt k) (e.lags k)
  drawn : ∀ view, e.Drawn view →
    view.size = p.range.growTarget (e.sizeAt e.current) (e.lags e.current)

/-- A role that marks its round as lagging is in the current one, and nobody has drawn up the
next. -/
theorem Lockstep.lagging_current (h : Lockstep p e tr) (found : e.roles[r]? = some role)
    (phase : role.phase = .lagging) : role.round = e.current ∧ ¬ ∃ view, e.Drawn view := by
  have station := h.stations r role found (by rw [Role.Live, phase]; decide)
  have missing : .passed r .finished (e.lap p) ∉ tr := by
    rw [← station.lap_eq (by rw [phase]; decide)]
    exact station.history.not_passed (by rw [phase]; decide)
  have going := h.length_marked_lt (h.lt_size found) missing
  refine ⟨?_, ?_⟩
  · rw [h.current_eq_lap (h.not_ready going)]
    exact h.holds_lap found (by rw [phase]; decide)
  · rintro ⟨view, i, x, hx, hdrawn⟩
    obtain ⟨closes, live⟩ := (Role.closes_of_drawn hdrawn).1
    exact h.not_closes going hx live closes

namespace Grown

/-- A step that publishes nothing, and no round starts to lag. -/
theorem keep (h : Grown p e) (drawn : ∀ view, e'.Drawn view ↔ e.Drawn view)
    (views : ∀ k, (e'.roundAt k).view = (e.roundAt k).view) (lags : ∀ k, e'.lags k = e.lags k)
    (published : e'.rounds.size = e.rounds.size) : Grown p e' := by
  have sizes (k : Nat) : e'.sizeAt k = e.sizeAt k := congrArg View.size (views k)
  have current : e'.current = e.current := congrArg (· - 1) published
  refine ⟨(lags 0).trans h.first, fun k hk => ?_, fun view hview => ?_⟩
  · rw [sizes, sizes, lags]
    exact h.past k (current ▸ hk)
  · rw [current, sizes, lags]
    exact h.drawn view ((drawn view).1 hview)

theorem plain (h : Grown p e) (found : e.roles[r]? = some role)
    (roles : e'.roles = e.roles.setIfInBounds r role')
    (same : role'.phase.drawn = role.phase.drawn) (rounds : e'.rounds = e.rounds) :
    Grown p e' :=
  h.keep (Books.drawn_setRole found roles same)
    (fun k => congrArg Round.view (Engine.roundAt_congr rounds k))
    (fun k => congrArg Round.lagged (Engine.roundAt_congr rounds k)) (congrArg Array.size rounds)

theorem onRound (h : Grown p e) (found : e.roles[r]? = some role) {change : Round → Round}
    (view : ∀ round, (change round).view = round.view)
    (lagged : ∀ round, (change round).lagged = round.lagged)
    (same : role'.phase.drawn = role.phase.drawn) :
    Grown p ((e.onRound role change).setRole r role') :=
  h.keep (Books.drawn_setRole found rfl same) (Engine.onRound_keeps Round.view change view e role)
    (Engine.onRound_keeps Round.lagged change lagged e role) (Engine.size_onRound e role change)

theorem lag (h : Grown p e) (lock : Lockstep p e tr) (found : e.roles[r]? = some role)
    (phase : role.phase = .lagging)
    (roles : e'.roles = e.roles.setIfInBounds r { role with phase := .departing })
    (rounds : e'.rounds = (e.onRound role Round.lag).rounds) : Grown p e' := by
  obtain ⟨here, undrawn⟩ := lock.lagging_current found phase
  have inside := lock.lap_lt_rounds
  have lags {k : Nat} (hk : k < e.rounds.size) :
      e'.lags k = if k = e.current then true else e.lags k := by
    rw [Engine.lags, Engine.roundAt_congr rounds, Engine.roundAt_onRound hk, here]
    split <;> rfl
  have sizes (k : Nat) : e'.sizeAt k = e.sizeAt k := by
    rw [Engine.sizeAt, Engine.roundAt_congr rounds]
    exact congrArg View.size (Engine.onRound_keeps Round.view Round.lag (fun _ => rfl) e role k)
  have current : e'.current = e.current := by
    rw [Engine.current, rounds, Engine.size_onRound, Engine.current]
  refine ⟨?_, fun k hk => ?_, fun view hview => ?_⟩
  · rw [lags (by omega), h.first]
    split <;> rfl
  · rw [current] at hk
    have earlier : k < e.rounds.size := Nat.lt_of_lt_of_le hk (Nat.sub_le _ _)
    rw [sizes, sizes, lags earlier, if_neg (Nat.ne_of_lt hk)]
    exact h.past k hk
  · rw [Books.drawn_setRole found roles (by rw [phase]; rfl)] at hview
    exact absurd ⟨view, hview⟩ undrawn

/-- The role that closes a round draws up the next view. -/
theorem grow (h : Grown p e) (lock : Lockstep p e tr) (found : e.roles[r]? = some role)
    (phase : role.phase = .growing) {world : ω} {view : View} {arena : Arena σ}
    (grown : e.growth p role = (world, .ok (view, arena)))
    (roles : e'.roles = e.roles.setIfInBounds r { role with phase := .sampling view })
    (rounds : e'.rounds = e.rounds) : Grown p e' := by
  have round := (lock.growing_current found phase).1
  have undrawn := lock.growing_undrawn found phase
  have same (k : Nat) : e'.roundAt k = e.roundAt k := Engine.roundAt_congr rounds k
  have current : e'.current = e.current := congrArg (Array.size · - 1) rounds
  refine ⟨?_, fun k hk => ?_, ?_⟩
  · rw [Engine.lags, same]
    exact h.first
  · rw [Engine.sizeAt, Engine.sizeAt, Engine.lags, same, same]
    exact h.past k (current ▸ hk)
  · rintro v ⟨i, x, hx, hdrawn⟩
    rw [roles] at hx
    rcases (Engine.role_setRole found).1 hx with ⟨rfl, rfl⟩ | ⟨-, hx⟩
    · obtain rfl := Option.some.inj hdrawn
      rw [(Engine.size_of_growth grown).1, Engine.target, round, current, Engine.sizeAt,
        Engine.sizeAt, Engine.lags, same]
    · exact absurd ⟨v, i, x, hx, hdrawn⟩ undrawn

theorem store (h : Grown p e) (lock : Lockstep p e tr) (found : e.roles[r]? = some role)
    {view : View} {stopped : Bool} (phase : role.phase = .storing view stopped)
    (roles : e'.roles = e.roles.setIfInBounds r { role with phase := .releasing })
    (rounds : e'.rounds = e.rounds.push (Round.published stopped view p.size)) : Grown p e' := by
  have own : role.phase.drawn = some view := by rw [phase]; rfl
  have closes := (Role.closes_of_drawn own).1
  have inside := lock.lap_lt_rounds
  have published : e.rounds.size = e.current + 1 := by
    rw [Engine.current]
    omega
  have current : e'.current = e.current + 1 := by
    rw [Engine.current, rounds, Array.size_push, published]
    rfl
  have before {k : Nat} (hk : k ≤ e.current) : e'.roundAt k = e.roundAt k := by
    rw [Engine.roundAt_push rounds, if_neg (by omega)]
  have sizes {k : Nat} (hk : k ≤ e.current) : e'.sizeAt k = e.sizeAt k :=
    congrArg (View.size ∘ Round.view) (before hk)
  have new : e'.sizeAt (e.current + 1) = view.size := by
    rw [Engine.sizeAt, Engine.roundAt_push rounds, if_pos published.symm]
    rfl
  refine ⟨?_, fun k hk => ?_, ?_⟩
  · rw [Engine.lags, before (Nat.zero_le _)]
    exact h.first
  · have earlier : k ≤ e.current := by omega
    rw [sizes earlier, Engine.lags, before earlier]
    rcases Nat.lt_or_eq_of_le earlier with earlier | rfl
    · rw [sizes earlier]
      exact h.past k earlier
    · rw [new]
      exact h.drawn view ⟨r, role, found, own⟩
  · rintro v ⟨i, x, hx, hdrawn⟩
    rw [roles] at hx
    rcases (Engine.role_setRole found).1 hx with ⟨rfl, rfl⟩ | ⟨hne, hx⟩
    · simp [Phase.drawn] at hdrawn
    · exact absurd (lock.drawn_unique found closes hx hdrawn).1 hne

theorem turn (h : Grown p e) (lock : Lockstep p e tr) (found : e.roles[r]? = some role)
    (step : Engine.Turn p e r role e' events) : Grown p e' := by
  cases step with
  | arrive phase => exact h.onRound found (fun _ => rfl) (fun _ => rfl) (by rw [phase]; rfl)
  | enter phase => exact h.onRound found (fun _ => rfl) (fun _ => rfl) (by rw [phase]; rfl)
  | depart phase => exact h.onRound found (fun _ => rfl) (fun _ => rfl) (by rw [phase]; rfl)
  | lag phase => exact h.lag lock found phase rfl rfl
  | consume place rest pair fresh e₁ tally phase _ result _ =>
      have alike := Engine.alike_of_consume result
      exact h.plain found (alike.roles_setRole r _) (by rw [phase]; rfl) alike.rounds
  | consumeBroke place rest pair e₁ fault phase _ result =>
      have alike := Engine.alike_of_consume result
      exact h.plain found (alike.roles_setRole r _) (by rw [phase]; rfl) alike.rounds
  | grow world view arena phase grown => exact h.grow lock found phase grown rfl rfl
  | store view stopped phase => exact h.store lock found phase rfl rfl
  | rest phase => exact h
  | _ => exact h.plain found rfl (by simp [*, Phase.drawn]) rfl

theorem still (h : Grown p e) {m : Engine.Move} (outside : ∀ r, m ≠ .role r) :
    Grown p (e.apply p m) := by
  cases m with
  | role r => exact absurd rfl (outside r)
  | stop => exact { h with }
  | abort => exact { h with }
  | tick nanos => exact { h with }

theorem launch (p : EnginePlan ω σ) (w : ω) : Grown p (p.launch w) := by
  refine ⟨rfl, fun k hk => absurd hk (Nat.not_lt_zero k), ?_⟩
  rintro view ⟨i, x, hx, hdrawn⟩
  rw [p.launched_role w hx] at hdrawn
  simp [Role.launched, Phase.drawn] at hdrawn

end Grown

theorem grown (p : EnginePlan ω σ) (w : ω) (ms : List Engine.Move) :
    Grown p ((p.launch w).run p ms) :=
  (Engine.turn_invariant (P := fun e tr => Lockstep p e tr ∧ Grown p e)
    ⟨.launch p w, .launch p w⟩ ms
    (fun _ _ _ _ _ _ h found step => ⟨h.1.turn found step, h.2.turn h.1 found step⟩)
    fun _ _ outside _ _ h => ⟨h.1.still outside, h.2.still outside⟩).2

/-! ### Rounds that are over -/

/-- Whether a round that is over lagged stays as it is. -/
theorem Engine.Turn.lags_past (step : Engine.Turn p e r role e' events) (lock : Lockstep p e tr)
    (found : e.roles[r]? = some role) (hk : k < e.current) : e'.lags k = e.lags k := by
  have earlier : k < e.rounds.size := Nat.lt_of_lt_of_le hk (Nat.sub_le _ _)
  cases step with
  | arrive => exact Engine.onRound_keeps Round.lagged Round.arrive (fun _ => rfl) e role k
  | enter => exact Engine.onRound_keeps Round.lagged Round.enter (fun _ => rfl) e role k
  | depart => exact Engine.onRound_keeps Round.lagged Round.depart (fun _ => rfl) e role k
  | lag phase =>
      have here := (lock.lagging_current found phase).1
      change ((e.onRound role Round.lag).roundAt k).lagged = _
      rw [Engine.roundAt_onRound earlier, if_neg (here ▸ Nat.ne_of_lt hk), Engine.lags]
  | consume place rest pair fresh e₁ tally phase _ result _ =>
      have alike := Engine.alike_of_consume result
      exact congrArg Round.lagged (Engine.roundAt_congr alike.rounds k)
  | consumeBroke place rest pair e₁ fault phase _ result =>
      have alike := Engine.alike_of_consume result
      exact congrArg Round.lagged (Engine.roundAt_congr alike.rounds k)
  | store view stopped phase =>
      rw [Engine.lags, Engine.roundAt_push (e := e) rfl, if_neg (Nat.ne_of_lt earlier),
        Engine.lags]
  | _ => rfl

theorem Lockstep.lags_final (lock : Lockstep p e tr) (later : List Engine.Move)
    (hk : k < e.current) : (e.run p later).lags k = e.lags k := by
  have kept := Engine.turn_invariant (p := p)
    (P := fun e' _ => (∃ tr', Lockstep p e' tr') ∧ e.rounds.size ≤ e'.rounds.size ∧
      e'.lags k = e.lags k)
    ⟨⟨tr, lock⟩, Nat.le_refl _, rfl⟩ later
    (fun e₁ _ r role e₂ events ⟨⟨tr', lock'⟩, more, same⟩ found step => ?_)
    fun m _ outside e₁ _ ⟨⟨tr', lock'⟩, more, same⟩ => ?_
  · exact kept.2.2
  · have published := (step.published Round.stopped (fun _ => rfl) (fun _ => rfl) (fun _ => rfl)
      fun _ => rfl).1
    have past : k < e₁.current := Nat.lt_of_lt_of_le hk (Nat.sub_le_sub_right more 1)
    exact ⟨⟨_, lock'.turn found step⟩, Nat.le_trans more published,
      (step.lags_past lock' found past).trans same⟩
  · refine ⟨⟨tr', lock'.still outside⟩, ?_⟩
    cases m with
    | role r => exact absurd rfl (outside r)
    | stop | abort | tick => exact ⟨more, same⟩

/-! ### Sizes and statistics -/

/-- What a run publishes and records about its pools: the sizes follow from the rounds that
lagged. -/
structure Pools (p : EnginePlan ω σ) (e : Engine ω σ) : Prop where
  first : e.lags 0 = true
  final : ∀ later, ∀ k < e.current, (e.run p later).lags k = e.lags k
  sizes : ∀ k ≤ e.current, e.sizeAt k = p.range.sizes e.lags k
  /-- The next round is recorded shortly before it is published. -/
  publishes : e.current ≤ e.stats.publishes ∧ e.stats.publishes ≤ e.current + 1
  grows : e.stats.grows = (List.range e.stats.publishes).countP fun k =>
    p.range.sizes e.lags k < p.range.sizes e.lags (k + 1)
  pool : e.stats.pool = p.range.sizes e.lags e.stats.publishes

namespace Grown

theorem sizeAt_eq (h : Grown p e) (kept : Books p e) (hk : k ≤ e.current) :
    e.sizeAt k = p.range.sizes e.lags k := by
  induction k with
  | zero => exact kept.first
  | succ k ih =>
      rw [h.past k hk, ih (Nat.le_of_succ_le hk)]
      rfl

theorem enlarged_eq (h : Grown p e) (kept : Books p e) :
    e.enlarged = (List.range e.current).countP fun k =>
      p.range.sizes e.lags k < p.range.sizes e.lags (k + 1) := by
  refine List.countP_congr fun k hk => ?_
  have earlier := List.mem_range.1 hk
  rw [h.sizeAt_eq kept (Nat.le_of_lt earlier), h.sizeAt_eq kept earlier]

theorem counted (h : Grown p e) (kept : Books p e) :
    (e.current ≤ e.stats.publishes ∧ e.stats.publishes ≤ e.current + 1) ∧
      e.stats.grows = ((List.range e.stats.publishes).countP fun k =>
        p.range.sizes e.lags k < p.range.sizes e.lags (k + 1)) ∧
      e.stats.pool = p.range.sizes e.lags e.stats.publishes := by
  have last := h.sizeAt_eq kept (Nat.le_refl _)
  by_cases drawn : ∃ view, e.Drawn view
  · obtain ⟨view, hview⟩ := drawn
    obtain ⟨-, publishes, grows, pool, -⟩ := kept.drawn view hview
    have next : view.size = p.range.sizes e.lags (e.current + 1) := by
      rw [h.drawn view hview, last]
      rfl
    refine ⟨by omega, ?_, by rw [pool, publishes, next]⟩
    rw [grows, publishes, List.range_succ, List.countP_append, ← h.enlarged_eq kept,
      List.countP_singleton, last, next]
    simp
  · obtain ⟨publishes, grows, pool, -⟩ := kept.settled drawn
    exact ⟨by omega, by rw [grows, publishes, h.enlarged_eq kept], by rw [pool, publishes, last]⟩

theorem pools (h : Grown p e) (lock : Lockstep p e tr) (kept : Books p e) : Pools p e where
  first := h.first
  final later _ hk := lock.lags_final later hk
  sizes _ hk := h.sizeAt_eq kept hk
  publishes := (h.counted kept).1
  grows := (h.counted kept).2.1
  pool := (h.counted kept).2.2

end Grown

/-- Whichever rounds lag after the first one, the size of a pool is the least size, doubled as often
as a round lagged and cut at the maximum; and in every run the pools have these sizes, and their
strict increases are counted. -/
theorem pool_doubles {range : StrideRange} (ordered : range.least ≤ range.most)
    (small : range.most ≤ Word.max) :
    (∀ lags : Nat → Bool, lags 0 = true → range.Doubles lags) ∧
      ∀ (test : StressTest ω σ) (memory : Memory) (w : ω) (ms : List Engine.Move),
        Pools ⟨test, range, memory⟩
          ((EnginePlan.launch ⟨test, range, memory⟩ w).run ⟨test, range, memory⟩ ms) :=
  ⟨fun _ first => StrideRange.doubles ordered small first, fun test memory w ms =>
    (grown ⟨test, range, memory⟩ w ms).pools (lockstep ⟨test, range, memory⟩ w ms)
      (books ⟨test, range, memory⟩ w ms)⟩

theorem pool_doubles_counting :
    (StrideRange.fixed 1 2).least ≤ (StrideRange.fixed 1 2).most ∧
      (StrideRange.fixed 1 2).most ≤ Word.max ∧
      (StrideRange.fixed 1 2).Doubles (fun _ => true) ∧
      Pools counting ((counting.launch ()).run counting countingMoves) ∧
      ((counting.launch ()).run counting countingMoves).stats.grows = 1 := by
  obtain ⟨doubles, pools⟩ := @pool_doubles Unit Nat (.fixed 1 2) (by decide) (by decide)
  exact ⟨by decide, by decide, doubles _ rfl, pools counting.test counting.memory () countingMoves,
    by cbv⟩

end Litmus
