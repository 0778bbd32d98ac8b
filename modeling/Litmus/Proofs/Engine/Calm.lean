import Litmus.Proofs.Engine.Visits
import Litmus.Proofs.Tally

/-!
Runs in which no body breaks off. If the pool and the counts fit their words, then no role breaks
off or gives up, and each role keeps a tally of exactly what it observed.
-/
namespace Litmus

variable {ω σ : Type}

/-! ### What is asked of a test and of a plan -/

/-- A body that runs to its end on slots of a given number, and keeps their number. -/
def Body.Calm (slots : Nat) (body : Body ω σ) : Prop :=
  ∀ world state result, result.values.length = slots →
    (body world state result).fault = none ∧
      (body world state result).result.values.length = slots

structure StressTest.Calm (t : StressTest ω σ) : Prop where
  actors : ∀ actor ∈ t.actors, Body.Calm t.slots actor.body
  arbiter : ∀ body, t.arbiter = some body → Body.Calm t.slots body
  fresh : ∀ world, ∃ world' state, t.fresh world = (world', .ok state)

/-- The pool can grow as far as the strides take it, and its indices are counts. -/
structure EnginePlan.Fits (p : EnginePlan ω σ) : Prop where
  staffed : 0 < p.size
  roles : p.size < Word.bound
  slices : p.size * Nat.max p.range.least p.range.most < Word.bound
  room : ∀ pairs, 0 < pairs → pairs ≤ Nat.max p.range.least p.range.most →
    p.memory (pairs * p.test.pairBytes) = .given

/-- What a role saw in a pair when it consumed it. -/
structure Observation where
  role : Nat
  round : Nat
  place : Nat
  outcome : Outcome
deriving DecidableEq

/-- All observations of a run, in order. -/
def observed (p : EnginePlan ω σ) (tr : List (Event ω σ)) : List Observation :=
  tr.filterMap fun
    | .consumed r k place world pair =>
        some ⟨r, k, place, (p.test.runArbiter world pair.state pair.result).result⟩
    | _ => none

def observedBy (p : EnginePlan ω σ) (tr : List (Event ω σ)) (r : Nat) : List Outcome :=
  ((observed p tr).filter (·.role = r)).map (·.outcome)

variable {p : EnginePlan ω σ} {e e' e₁ : Engine ω σ} {tr events : List (Event ω σ)}
  {r i k place : Nat} {role role' : Role} {pair : Pair σ} {tally : Tally Outcome}

theorem StressTest.Calm.runActor {t : StressTest ω σ} (h : t.Calm) (hr : r < t.size) :
    Body.Calm t.slots (t.runActor r) := by
  intro world state result slots
  have found : elementAt t.actors r = .ok t.actors[r] :=
    elementAt_eq_ok.2 (List.getElem?_eq_getElem hr)
  simp only [StressTest.runActor, found]
  exact h.actors _ (List.getElem_mem hr) world state result slots

theorem StressTest.Calm.runArbiter {t : StressTest ω σ} (h : t.Calm) :
    Body.Calm t.slots t.runArbiter := by
  intro world state result slots
  cases body : t.arbiter with
  | none =>
      simp only [StressTest.runArbiter, body]
      exact ⟨trivial, slots⟩
  | some body' =>
      simp only [StressTest.runArbiter, body]
      exact h.arbiter body' body world state result slots

theorem observed_append (tr events : List (Event ω σ)) :
    observed p (tr ++ events) = observed p tr ++ observed p events :=
  List.filterMap_append

theorem observedBy_append (tr events : List (Event ω σ)) (r : Nat) :
    observedBy p (tr ++ events) r = observedBy p tr r ++ observedBy p events r := by
  rw [observedBy, observed_append, List.filter_append, List.map_append, observedBy, observedBy]

theorem observedBy_of_none (none : observed p events = []) (r : Nat) :
    observedBy p events r = [] := by
  rw [observedBy, none]
  rfl

theorem length_observedBy_le (tr : List (Event ω σ)) (r : Nat) :
    (observedBy p tr r).length ≤ (observed p tr).length := by
  rw [observedBy, List.length_map]
  exact List.length_filter_le ..

theorem observed_grow (r k j place : Nat) (made : List (ω × Pair σ)) :
    observed p (.recorded r k :: madeFrom j place made : List (Event ω σ)) = [] := by
  simp [observed, madeFrom]

/-! ### Consuming a pair -/

theorem Outcome.reset_eq_blank {result : Outcome} {slots : Nat}
    (h : result.values.length = slots) : result.reset = .blank slots := by
  rw [Outcome.reset, Outcome.blank, List.map_const', h]

namespace Engine

/-- The engine after the arbiter has looked at a pair. -/
def judged (p : EnginePlan ω σ) (e : Engine ω σ) (place : Nat) (pair : Pair σ) : Engine ω σ :=
  e.absorb place (p.test.runArbiter e.world pair.state pair.result)

theorem observe_judged (found : e.arena[place]? = some pair) :
    (e.judged p place pair).observe place =
      (p.test.runArbiter e.world pair.state pair.result).result := by
  have inside := (Array.getElem?_eq_some_iff.1 found).1
  simp [observe, judged, absorb, inside]

theorem consume_eq (found : e.arena[place]? = some pair) (tally : Tally Outcome) :
    e.consume p place tally =
      match (p.test.runArbiter e.world pair.state pair.result).fault with
      | some fault => (e.judged p place pair, .error fault)
      | none =>
          match tally.record (p.test.runArbiter e.world pair.state pair.result).result with
          | .error fault => (e.judged p place pair, .error fault)
          | .ok tally =>
              match (e.judged p place pair).renew p place with
              | (e, some fault) => (e, .error fault)
              | (e, none) => (e, .ok tally) := by
  have judging : e.onPair place p.test.runArbiter =
      (e.judged p place pair, (p.test.runArbiter e.world pair.state pair.result).fault) := by
    simp only [onPair, found]
    rfl
  rw [consume, judging, ← observe_judged found]
  cases (p.test.runArbiter e.world pair.state pair.result).fault with
  | some fault => rfl
  | none => rfl

/-- A pair that is renewed gets the state that was made for it. -/
theorem renew_eq {state : σ} {world : ω} (found : e.arena[place]? = some pair)
    (fresh : p.test.fresh (p.test.runArbiter e.world pair.state pair.result).world =
      (world, .ok state)) :
    (e.judged p place pair).renew p place = ({ e.judged p place pair with
      world
      arena := e.arena.setIfInBounds place
        ⟨state, (p.test.runArbiter e.world pair.state pair.result).result.reset⟩ }, none) := by
  have made : p.test.fresh (e.judged p place pair).world = (world, .ok state) := fresh
  have replaced : (e.judged p place pair).arena.modify place (fun pair =>
      { pair with result := pair.result.reset, state := state }) =
      e.arena.setIfInBounds place
        ⟨state, (p.test.runArbiter e.world pair.state pair.result).result.reset⟩ := by
    refine Array.ext_getElem? fun i => ?_
    have inside := (Array.getElem?_eq_some_iff.1 found).1
    rw [Array.getElem?_modify, judged, absorb, Array.getElem?_setIfInBounds]
    by_cases hi : place = i
    · subst hi
      simp [inside]
    · simp [hi]
  simp only [renew, made, Except.toOption, Option.getD_some, replaced]

/-- If neither the arbiter nor the making of a state breaks off, only the count of the outcome can
fail. All that is left behind is the renewed pair. -/
theorem consume_calm {state : σ} {world : ω} (found : e.arena[place]? = some pair)
    (calm : (p.test.runArbiter e.world pair.state pair.result).fault = none)
    (fresh : p.test.fresh (p.test.runArbiter e.world pair.state pair.result).world =
      (world, .ok state)) (tally : Tally Outcome) :
    e.consume p place tally =
      match tally.record (p.test.runArbiter e.world pair.state pair.result).result with
      | .error fault => (e.judged p place pair, .error fault)
      | .ok tally => ({ e.judged p place pair with
          world
          arena := e.arena.setIfInBounds place
            ⟨state, (p.test.runArbiter e.world pair.state pair.result).result.reset⟩ },
          .ok tally) := by
  rw [consume_eq found, calm, renew_eq found fresh]

end Engine

/-! ### Places in reach -/

theorem Lockstep.round_le (h : Lockstep p e tr) (found : e.roles[r]? = some role)
    (stage : 1 < role.phase.stage ∧ role.phase.stage < 14) : role.round ≤ e.current := by
  have inside := h.round_lt found stage
  rw [Engine.current]
  omega

namespace Visits

/-- A role that runs its actor goes over places of its round. -/
theorem acting_lt (h : Visits p e tr) (kept : Books p e) (found : e.roles[r]? = some role)
    {rest : List Nat} (phase : role.phase = .acting (place :: rest)) :
    place < e.sizeAt role.round := by
  have acting := h.acting r role _ found phase
  have mem : place ∈ (e.roundAt role.round).view.places := by
    rw [← acting]
    simp
  rw [kept.flat role.round] at mem
  exact List.mem_range.1 mem

theorem consuming_lt (h : Visits p e tr) (kept : Books p e) (found : e.roles[r]? = some role)
    {rest : List Nat} (phase : role.phase = .consuming (place :: rest)) :
    place < e.sizeAt role.round := by
  have consuming := h.consuming r role _ found phase
  have mem : place ∈ e.slice p r role.round := by
    rw [← consuming]
    simp
  exact (slice_bounds (kept.flat role.round) mem).2.2

end Visits

/-! ### Roles that go well -/

/-- A role that has not broken off, and that reports its own tally. -/
def Role.Well (role : Role) : Prop :=
  match role.phase with
  | .dying _ => False
  | .halting _ => False
  | .leaving result => result = .ok role.tally
  | .reporting result => result = .ok role.tally
  | _ => True

/-- A tally that counts exactly the given outcomes. -/
structure Tally.Counts (tally : Tally Outcome) (outcomes : List Outcome) : Prop where
  distinct : tally.Distinct
  weight : tally.weight = outcomes.length
  count : ∀ outcome, tally.count outcome = outcomes.count outcome

theorem Tally.Counts.record {outcomes : List Outcome} {outcome : Outcome} {tally' : Tally Outcome}
    (h : tally.Counts outcomes) (recorded : tally.record outcome = .ok tally') :
    tally'.Counts (outcomes ++ [outcome]) := by
  obtain ⟨weight, kept⟩ := Tally.recordMany_eq_ok recorded
  refine ⟨kept h.distinct, ?_, fun o => ?_⟩
  · rw [weight, h.weight, List.length_append]
    rfl
  · rw [Tally.count_recordMany recorded, h.count, List.count_append, List.count_singleton]
    by_cases ho : o = outcome
    · simp [ho]
    · simp [ho, Ne.symm ho]

theorem Tally.Counts.record_ok {outcomes : List Outcome} (h : tally.Counts outcomes)
    (room : outcomes.length + 1 < Word.bound) (outcome : Outcome) :
    ∃ tally', tally.record outcome = .ok tally' := by
  refine Tally.recordMany_ok ?_
  have small := tally.count_le_weight outcome
  rw [h.weight] at small
  omega

structure Sound (p : EnginePlan ω σ) (e : Engine ω σ) (tr : List (Event ω σ)) : Prop where
  unaborted : e.control.aborted = false
  well : ∀ (r : Nat) (role : Role), e.roles[r]? = some role → role.Well
  counts : ∀ (r : Nat) (role : Role), e.roles[r]? = some role →
    role.tally.Counts (observedBy p tr r)
  quiet : ∀ r, .gaveUp r ∉ tr ∧ .broke r ∉ tr
  slots : ∀ (i : Nat) (pair : Pair σ), e.arena[i]? = some pair →
    pair.result.values.length = p.test.slots

namespace Sound

/-- A step of one role, from what it does to that role and to the pairs. -/
theorem step (h : Sound p e tr) (found : e.roles[r]? = some role)
    (roles : e'.roles = e.roles.setIfInBounds r role')
    (unaborted : e'.control.aborted = e.control.aborted) (well : role'.Well)
    (counts : role'.tally.Counts (observedBy p tr r ++ observedBy p events r))
    (others : ∀ i, i ≠ r → observedBy p events i = [])
    (quiet : ∀ i, .gaveUp i ∉ events ∧ .broke i ∉ events)
    (slots : ∀ (i : Nat) (pair : Pair σ), e'.arena[i]? = some pair →
      pair.result.values.length = p.test.slots) : Sound p e' (tr ++ events) := by
  refine ⟨unaborted.trans h.unaborted, ?_, ?_, ?_, slots⟩
  · intro i x hx
    rw [roles] at hx
    rcases (Engine.role_setRole found).1 hx with ⟨rfl, rfl⟩ | ⟨-, hx⟩
    · exact well
    · exact h.well i x hx
  · intro i x hx
    rw [roles] at hx
    rw [observedBy_append]
    rcases (Engine.role_setRole found).1 hx with ⟨rfl, rfl⟩ | ⟨hi, hx⟩
    · exact counts
    · rw [others i hi, List.append_nil]
      exact h.counts i x hx
  · intro i
    simp only [List.mem_append, not_or]
    exact ⟨⟨(h.quiet i).1, (quiet i).1⟩, (h.quiet i).2, (quiet i).2⟩

/-- A step that touches neither the pairs nor the tally of the role. -/
theorem plain (h : Sound p e tr) (found : e.roles[r]? = some role)
    (roles : e'.roles = e.roles.setIfInBounds r role')
    (unaborted : e'.control.aborted = e.control.aborted) (arena : e'.arena = e.arena)
    (well : role'.Well) (tally : role'.tally = role.tally) (none : observed p events = [])
    (quiet : ∀ i, .gaveUp i ∉ events ∧ .broke i ∉ events) : Sound p e' (tr ++ events) := by
  refine h.step found roles unaborted well ?_ (fun i _ => observedBy_of_none none i) quiet ?_
  · rw [observedBy_of_none none, List.append_nil, tally]
    exact h.counts r role found
  · rw [arena]
    exact h.slots

/-! #### Nothing breaks off -/

/-- A role finds the pairs of its round. -/
theorem pair_ne_none (lock : Lockstep p e tr) (kept : Books p e) (found : e.roles[r]? = some role)
    (live : 1 < role.phase.stage ∧ role.phase.stage < 14)
    (hplace : place < e.sizeAt role.round) : e.arena[place]? ≠ none := by
  have reach := kept.sizeAt_le_arena (lock.round_le found live)
  rw [Array.getElem?_eq_getElem (Nat.lt_of_lt_of_le hplace reach)]
  exact Option.some_ne_none _

theorem slots_replace (h : Sound p e tr) (new : Pair σ)
    (slots : new.result.values.length = p.test.slots) (i : Nat) (pair : Pair σ)
    (hit : (e.arena.setIfInBounds place new)[i]? = some pair) :
    pair.result.values.length = p.test.slots := by
  rw [Array.getElem?_setIfInBounds] at hit
  split at hit
  case isTrue =>
    split at hit
    case isTrue =>
      rw [← Option.some.inj hit]
      exact slots
    case isFalse => simp at hit
  case isFalse => exact h.slots i pair hit

theorem slice_ok (fits : p.Fits) (kept : Books p e) (hr : r < p.size) (k : Nat) :
    ∃ first last, consumeSlice r p.size (e.sizeAt k) = .ok (first, last) := by
  refine ⟨_, _, consumeSlice_eq_ok.2 ⟨⟨?_, ?_, ?_, ?_⟩, rfl, rfl⟩⟩
  · exact Nat.lt_of_le_of_lt (Nat.mul_le_mul (Nat.le_of_lt hr) (kept.bounded k)) fits.slices
  · exact Nat.lt_of_le_of_lt hr fits.roles
  · exact Nat.lt_of_le_of_lt (Nat.mul_le_mul hr (kept.bounded k)) fits.slices
  · exact Nat.ne_of_gt fits.staffed

theorem growth_ok (calm : p.test.Calm) (fits : p.Fits) (kept : Books p e) (role : Role) :
    ∃ world view arena, e.growth p role = (world, .ok (view, arena)) := by
  refine View.grow_ok (fun grows => fits.room _ (Nat.sub_pos_of_lt grows) ?_) calm.fresh _ _ _
  exact Nat.le_trans (Nat.sub_le ..) (StrideRange.growTarget_le (kept.bounded role.round) _)

/-- A pair that is consumed is counted, and then renewed. -/
theorem consumed (h : Sound p e tr) (calm : p.test.Calm) {tally' : Tally Outcome}
    (hit : e.arena[place]? = some pair) (result : e.consume p place tally = (e₁, .ok tally')) :
    Engine.Alike e e₁ ∧
      tally.record (p.test.runArbiter e.world pair.state pair.result).result = .ok tally' ∧
      ∃ state,
        (p.test.fresh (p.test.runArbiter e.world pair.state pair.result).world).2 = .ok state ∧
        e₁.arena = e.arena.setIfInBounds place ⟨state, p.test.blank⟩ := by
  have alike := Engine.alike_of_consume result
  have judges := calm.runArbiter e.world pair.state pair.result (h.slots place pair hit)
  obtain ⟨world, state, made⟩ := calm.fresh (p.test.runArbiter e.world pair.state pair.result).world
  rw [Engine.consume_calm hit judges.1 made, Outcome.reset_eq_blank judges.2] at result
  cases recorded : tally.record (p.test.runArbiter e.world pair.state pair.result).result with
  | error fault => simp [recorded] at result
  | ok tally₁ =>
      simp only [recorded, Prod.mk.injEq, Except.ok.injEq] at result
      obtain ⟨rfl, rfl⟩ := result
      exact ⟨alike, rfl, state, by rw [made], rfl⟩

/-! #### Every step -/

theorem act (h : Sound p e tr) (calm : p.test.Calm) (hr : r < p.size)
    (found : e.roles[r]? = some role) (hit : e.arena[place]? = some pair) (rest : List Nat) :
    Sound p
      ((e.absorb place (p.test.runActor r e.world pair.state pair.result)).setRole r
        { role with phase := .acting rest })
      (tr ++ [.acted r role.round place e.world pair]) := by
  have alike := Engine.alike_absorb e place (p.test.runActor r e.world pair.state pair.result)
  have acts := calm.runActor hr e.world pair.state pair.result (h.slots place pair hit)
  refine h.step found rfl alike.aborted trivial ?_ (fun _ _ => rfl) (by simp) ?_
  · rw [show observedBy p [_] r = [] from rfl, List.append_nil]
    exact h.counts r role found
  · exact h.slots_replace ⟨_, _⟩ acts.2

theorem consume (h : Sound p e tr) (calm : p.test.Calm) (found : e.roles[r]? = some role)
    (hit : e.arena[place]? = some pair) {tally : Tally Outcome}
    (result : e.consume p place role.tally = (e₁, .ok tally)) (rest : List Nat)
    (world : ω) (fresh : Pair σ) :
    Sound p (e₁.setRole r { role with tally, phase := .consuming rest })
      (tr ++ [.consumed r role.round place e.world pair,
        .made (role.round + 1) place world fresh]) := by
  obtain ⟨alike, recorded, state, -, arena⟩ := h.consumed calm hit result
  refine h.step found (alike.roles_setRole r _) alike.aborted
    trivial ?_ (fun i hi => ?_) (by simp) ?_
  · simpa [observedBy, observed] using (h.counts r role found).record recorded
  · simp [observedBy, observed, Ne.symm hi]
  · change ∀ (i : Nat) (pair : Pair σ), e₁.arena[i]? = some pair → _
    rw [arena]
    exact h.slots_replace ⟨_, _⟩ List.length_replicate

/-- As long as the observations fit a count, none of them breaks off a role. -/
theorem consume_ne_error (h : Sound p e tr) (calm : p.test.Calm)
    (found : e.roles[r]? = some role) (hit : e.arena[place]? = some pair)
    (room : (observed p tr).length + 1 < Word.bound) {fault : Fault} :
    e.consume p place role.tally ≠ (e₁, .error fault) := by
  have judges := calm.runArbiter e.world pair.state pair.result (h.slots place pair hit)
  obtain ⟨world, state, made⟩ :=
    calm.fresh (p.test.runArbiter e.world pair.state pair.result).world
  have own := length_observedBy_le (p := p) tr r
  obtain ⟨tally, recorded⟩ := (h.counts r role found).record_ok (by omega)
    (p.test.runArbiter e.world pair.state pair.result).result
  rw [Engine.consume_calm hit judges.1 made, recorded]
  simp

theorem grow (h : Sound p e tr) (found : e.roles[r]? = some role) {world : ω} {view : View}
    {arena : Arena σ} (grown : e.growth p role = (world, .ok (view, arena))) (stats : RoundStats) :
    Sound p ({ e with world, arena, stats }.setRole r { role with phase := .sampling view })
      (tr ++ .recorded r (role.base / (p.size + 1)) ::
        madeFrom (role.round + 1) e.arena.size (e.added p arena)) := by
  obtain ⟨-, states, -, rfl⟩ := Engine.growth_eq_ok grown
  refine h.step found rfl rfl trivial ?_ (fun i _ => ?_) (by simp [madeFrom]) ?_
  · rw [observedBy_of_none (observed_grow ..), List.append_nil]
    exact h.counts r role found
  · exact observedBy_of_none (observed_grow ..) i
  · intro i pair hit
    have hit : (e.arena ++ (states.map (Pair.mk · p.test.blank)).toArray)[i]? = some pair := hit
    rw [Array.getElem?_append] at hit
    split at hit
    case isTrue => exact h.slots i pair hit
    case isFalse =>
      obtain ⟨state, -, rfl⟩ := List.mem_map.1 (List.mem_of_getElem? (by simpa using hit))
      exact List.length_replicate

theorem turn (h : Sound p e tr) (calm : p.test.Calm) (fits : p.Fits) (lock : Lockstep p e tr)
    (kept : Books p e) (seen : Visits p e tr) (found : e.roles[r]? = some role)
    (step : Engine.Turn p e r role e' events)
    (room : (observed p (tr ++ events)).length < Word.bound) : Sound p e' (tr ++ events) := by
  have hr := lock.lt_size found
  cases step with
  | act place rest pair phase hit => exact h.act calm hr found hit rest
  | consume place rest pair fresh e₁ tally phase hit result =>
      exact h.consume calm found hit result rest _ fresh
  | grow world view arena phase grown => exact h.grow found grown _
  -- A role that has broken off is not well, and none gives up unless the run is aborted.
  | die fault phase | halt fault phase =>
      have well := h.well r role found
      simp [Role.Well, phase] at well
  | giveUp gate phase aborted =>
      rw [h.unaborted] at aborted
      simp at aborted
  -- The sizes fit, so that a slice and a pool can be worked out.
  | misfit phase opened fault slice =>
      obtain ⟨first, last, fits⟩ := slice_ok fits kept hr role.round
      rw [Engine.sizeAt, slice] at fits
      simp at fits
  | growBroke world fault phase stuck =>
      obtain ⟨world', view, arena, grown⟩ := growth_ok calm fits kept role
      rw [stuck] at grown
      simp at grown
  -- The bodies are calm, and called on pairs that there are.
  | actBroke place rest pair fault phase hit broke =>
      have acts := calm.runActor hr e.world pair.state pair.result (h.slots place pair hit)
      rw [acts.1] at broke
      simp at broke
  | consumeBroke place rest pair e₁ fault phase hit result =>
      rw [observed_append, List.length_append] at room
      exact absurd result (h.consume_ne_error calm found hit room)
  | actLost place rest phase lost =>
      have reach := seen.acting_lt kept found phase
      exact absurd lost (pair_ne_none lock kept found (by simp [phase, Phase.stage]) reach)
  | consumeLost place rest phase lost =>
      have reach := seen.consuming_lt kept found phase
      exact absurd lost (pair_ne_none lock kept found (by simp [phase, Phase.stage]) reach)
  | exit result phase =>
      have well := h.well r role found
      simp only [Role.Well, phase] at well
      exact h.plain found rfl rfl rfl well rfl rfl (by simp)
  | rest phase => rwa [List.append_nil]
  | _ => exact h.plain found rfl rfl rfl (by simp [Role.Well]) rfl rfl (by simp)

theorem still (h : Sound p e tr) {m : Engine.Move} (outside : ∀ r, m ≠ .role r)
    (kept : m ≠ .abort) : Sound p (e.apply p m) tr := by
  cases m with
  | role r => exact absurd rfl (outside r)
  | stop => exact { h with unaborted := h.unaborted }
  | abort => exact absurd rfl kept
  | tick nanos => exact { h with unaborted := h.unaborted }

theorem launch (p : EnginePlan ω σ) (w : ω) : Sound p (p.launch w) [] := by
  refine ⟨rfl, ?_, ?_, by simp, ?_⟩
  · intro r role found
    rw [p.launched_role w found]
    exact trivial
  · intro r role found
    rw [p.launched_role w found]
    exact ⟨List.nodup_nil, rfl, fun _ => rfl⟩
  · intro i pair found
    simp [EnginePlan.launch] at found

end Sound

end Litmus
