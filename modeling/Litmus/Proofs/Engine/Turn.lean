import Litmus.Proofs.Engine.Trace

/-!
The steps of a role, one rule for each kind: when it can be taken, the engine after it and the
events it gives. All that is proved about a step goes by these rules.
-/
namespace Litmus

namespace Engine

variable {ω σ : Type}

/-! ### What calls of bodies leave alone -/

/-- An engine that differs from another at most in its world, its pairs and what a body asked
for. -/
structure Alike (e e' : Engine ω σ) : Prop where
  roles : e'.roles = e.roles
  rounds : e'.rounds = e.rounds
  epoch : e'.epoch = e.epoch
  stats : e'.stats = e.stats
  exits : e'.exits = e.exits
  size : e'.arena.size = e.arena.size
  aborted : e'.control.aborted = e.control.aborted

theorem Alike.refl (e : Engine ω σ) : Alike e e :=
  ⟨rfl, rfl, rfl, rfl, rfl, rfl, rfl⟩

theorem Alike.trans {e₁ e₂ e₃ : Engine ω σ} (h : Alike e₁ e₂) (h' : Alike e₂ e₃) : Alike e₁ e₃ :=
  ⟨h'.roles.trans h.roles, h'.rounds.trans h.rounds, h'.epoch.trans h.epoch,
    h'.stats.trans h.stats, h'.exits.trans h.exits, h'.size.trans h.size,
    h'.aborted.trans h.aborted⟩

theorem alike_absorb (e : Engine ω σ) (place : Nat) (effect : Effect ω σ) :
    Alike e (e.absorb place effect) := by
  refine ⟨rfl, rfl, rfl, rfl, rfl, Array.size_setIfInBounds, ?_⟩
  change (if effect.signals.stop then e.control.stop else e.control).aborted = e.control.aborted
  split <;> rfl

theorem alike_onPair (e : Engine ω σ) (place : Nat) (body : Body ω σ) :
    Alike e (e.onPair place body).1 := by
  unfold onPair
  split
  case h_1 => exact .refl e
  case h_2 => exact alike_absorb e place _

theorem alike_renew (p : EnginePlan ω σ) (e : Engine ω σ) (place : Nat) :
    Alike e (e.renew p place).1 :=
  ⟨rfl, rfl, rfl, rfl, rfl, Array.size_modify, rfl⟩

theorem alike_consume (p : EnginePlan ω σ) (e : Engine ω σ) (place : Nat)
    (tally : Tally Outcome) : Alike e (e.consume p place tally).1 := by
  have judged := alike_onPair e place p.test.runArbiter
  unfold consume
  split
  case h_1 heq => rwa [heq] at judged
  case h_2 e₁ heq =>
    rw [heq] at judged
    split
    case h_1 => exact judged
    case h_2 =>
      have renewed := alike_renew p e₁ place
      split
      case h_1 heq =>
        rw [heq] at renewed
        exact judged.trans renewed
      case h_2 heq =>
        rw [heq] at renewed
        exact judged.trans renewed

theorem alike_of_consume {p : EnginePlan ω σ} {e e₁ : Engine ω σ} {place : Nat}
    {tally : Tally Outcome} {outcome : Except Fault (Tally Outcome)}
    (result : e.consume p place tally = (e₁, outcome)) : Alike e e₁ := by
  have alike := alike_consume p e place tally
  rwa [result] at alike

theorem Alike.roles_setRole {e e₁ : Engine ω σ} (h : Alike e e₁) (r : Nat) (role : Role) :
    (e₁.setRole r role).roles = e.roles.setIfInBounds r role :=
  congrArg (Array.setIfInBounds · r role) h.roles

theorem consume_lost {p : EnginePlan ω σ} {e : Engine ω σ} {place : Nat}
    (lost : e.arena[place]? = none) (tally : Tally Outcome) :
    e.consume p place tally = (e, .error (.index e.arena.size place)) := by
  simp only [consume, onPair, lost]

/-! ### The rules -/

inductive Turn (p : EnginePlan ω σ) (e : Engine ω σ) (r : Nat) (role : Role) :
    Engine ω σ → List (Event ω σ) → Prop where
  | load (phase : role.phase = .loading) (going : (e.roundAt e.current).stopped = false) :
      Turn p e r role (e.setRole r { role with round := e.current, phase := .arriving })
        [.passed r .loaded e.current]
  | leave (phase : role.phase = .loading) (stopped : (e.roundAt e.current).stopped = true) :
      Turn p e r role
        (e.setRole r { role with round := e.current, phase := .leaving (.ok role.tally) })
        [.left r e.current]
  | arrive (phase : role.phase = .arriving) :
      Turn p e r role
        ((e.onRound role Round.arrive).setRole r { role with phase := .waiting .start false })
        [.passed r .arrived role.round]
  | miss (gate : Gate) (phase : role.phase = .waiting gate false)
      (shut : e.isOpen role gate = false) :
      Turn p e r role (e.setRole r { role with phase := .waiting gate true }) []
  | retry (gate : Gate) (phase : role.phase = .waiting gate true)
      (kept : e.control.aborted = false) :
      Turn p e r role (e.setRole r { role with phase := .waiting gate false }) []
  | giveUp (gate : Gate) (phase : role.phase = .waiting gate true)
      (aborted : e.control.aborted = true) :
      Turn p e r role (e.setRole r { role with phase := .leaving (.ok role.tally) }) [.gaveUp r]
  | passStart (phase : role.phase = .waiting .start false)
      (opened : (e.roundAt role.round).notStarted = 0) :
      Turn p e r role (e.setRole r { role with phase := .entering }) []
  | clear (phase : role.phase = .waiting .finish false)
      (opened : (e.roundAt role.round).notFinished = 0) (first last : Nat)
      (slice : consumeSlice r p.size (e.roundAt role.round).view.size = .ok (first, last)) :
      Turn p e r role
        (e.setRole r
          { role with phase := .consuming ((e.roundAt role.round).view.range first last) })
        [.passed r .cleared role.round]
  | misfit (phase : role.phase = .waiting .finish false)
      (opened : (e.roundAt role.round).notFinished = 0) (fault : Fault)
      (slice : consumeSlice r p.size (e.roundAt role.round).view.size = .error fault) :
      Turn p e r role (e.setRole r { role with phase := .dying fault }) []
  | begin (phase : role.phase = .waiting .barrier false) (opened : e.epoch = role.base) :
      Turn p e r role (e.setRole r { role with phase := .loading }) []
  | enter (phase : role.phase = .entering) :
      Turn p e r role
        ((e.onRound role Round.enter).setRole r
          { role with phase := .acting (e.roundAt role.round).view.places })
        [.passed r .entered role.round]
  | act (place : Nat) (rest : List Nat) (pair : Pair σ)
      (phase : role.phase = .acting (place :: rest)) (found : e.arena[place]? = some pair)
      (calm : (p.test.runActor r e.world pair.state pair.result).fault = none) :
      Turn p e r role
        ((e.absorb place (p.test.runActor r e.world pair.state pair.result)).setRole r
          { role with phase := .acting rest })
        [.acted r role.round place e.world pair]
  | actBroke (place : Nat) (rest : List Nat) (pair : Pair σ) (fault : Fault)
      (phase : role.phase = .acting (place :: rest)) (found : e.arena[place]? = some pair)
      (broke : (p.test.runActor r e.world pair.state pair.result).fault = some fault) :
      Turn p e r role
        ((e.absorb place (p.test.runActor r e.world pair.state pair.result)).setRole r
          { role with phase := .dying fault })
        [.acted r role.round place e.world pair]
  | actLost (place : Nat) (rest : List Nat) (phase : role.phase = .acting (place :: rest))
      (lost : e.arena[place]? = none) :
      Turn p e r role (e.setRole r { role with phase := .dying (.index e.arena.size place) }) []
  | early (phase : role.phase = .acting []) (early : (e.roundAt role.round).isEarly = true) :
      Turn p e r role (e.setRole r { role with phase := .lagging }) []
  | done (phase : role.phase = .acting []) (late : (e.roundAt role.round).isEarly = false) :
      Turn p e r role (e.setRole r { role with phase := .departing }) []
  | lag (phase : role.phase = .lagging) :
      Turn p e r role ((e.onRound role Round.lag).setRole r { role with phase := .departing }) []
  | depart (phase : role.phase = .departing) :
      Turn p e r role
        ((e.onRound role Round.depart).setRole r { role with phase := .waiting .finish false })
        [.passed r .departed role.round]
  | consume (place : Nat) (rest : List Nat) (pair fresh : Pair σ) (e₁ : Engine ω σ)
      (tally : Tally Outcome) (phase : role.phase = .consuming (place :: rest))
      (found : e.arena[place]? = some pair)
      (result : e.consume p place role.tally = (e₁, .ok tally))
      (renewed : e₁.arena[place]? = some fresh) :
      Turn p e r role (e₁.setRole r { role with tally, phase := .consuming rest })
        [.consumed r role.round place e.world pair, .made (role.round + 1) place
          (p.test.runArbiter e.world pair.state pair.result).world fresh]
  | consumeBroke (place : Nat) (rest : List Nat) (pair : Pair σ) (e₁ : Engine ω σ)
      (fault : Fault) (phase : role.phase = .consuming (place :: rest))
      (found : e.arena[place]? = some pair)
      (result : e.consume p place role.tally = (e₁, .error fault)) :
      Turn p e r role (e₁.setRole r { role with phase := .dying fault })
        [.consumed r role.round place e.world pair]
  | consumeLost (place : Nat) (rest : List Nat) (phase : role.phase = .consuming (place :: rest))
      (lost : e.arena[place]? = none) :
      Turn p e r role (e.setRole r { role with phase := .dying (.index e.arena.size place) }) []
  | close (phase : role.phase = .consuming []) (last : e.epoch + 1 = role.base + p.size) :
      Turn p e r role
        ({ e with epoch := e.epoch + 1 }.setRole r { role with phase := .growing })
        [.passed r .finished role.round]
  | finish (phase : role.phase = .consuming []) (others : e.epoch + 1 ≠ role.base + p.size) :
      Turn p e r role
        ({ e with epoch := e.epoch + 1 }.setRole r
          { role with base := nextBase p role, phase := .waiting .barrier false })
        [.passed r .finished role.round]
  | grow (world : ω) (view : View) (arena : Arena σ) (phase : role.phase = .growing)
      (grown : e.growth p role = (world, .ok (view, arena))) :
      Turn p e r role
        ({ e with
            world, arena
            stats := e.stats.recordPublish e.now (role.base / (p.size + 1))
              ((e.roundAt role.round).view.size <
                p.range.growTarget (e.roundAt role.round).view.size (e.roundAt role.round).lagged)
              view.size }.setRole r
          { role with phase := .sampling view })
        (.recorded r (role.base / (p.size + 1)) ::
          madeFrom (role.round + 1) e.arena.size (e.added p arena))
  | growBroke (world : ω) (fault : Fault) (phase : role.phase = .growing)
      (stuck : e.growth p role = (world, .error fault)) :
      Turn p e r role ({ e with world }.setRole r { role with phase := .dying fault }) []
  | sample (view : View) (phase : role.phase = .sampling view) :
      Turn p e r role (e.setRole r { role with phase := .storing view e.control.stopped }) []
  | store (view : View) (stopped : Bool) (phase : role.phase = .storing view stopped) :
      Turn p e r role
        ({ e with rounds := e.rounds.push (Round.published stopped view p.size) }.setRole r
          { role with phase := .releasing })
        [.stored r role.round]
  | release (phase : role.phase = .releasing) :
      Turn p e r role
        ({ e with epoch := e.epoch + 1 }.setRole r
          { role with base := nextBase p role, phase := .waiting .barrier false })
        []
  | die (fault : Fault) (phase : role.phase = .dying fault) :
      Turn p e r role
        ({ e with control := e.control.alarm }.setRole r { role with phase := .halting fault })
        [.broke r]
  | halt (fault : Fault) (phase : role.phase = .halting fault) :
      Turn p e r role
        ({ e with control := e.control.stop }.setRole r
          { role with phase := .leaving (.error fault) }) []
  | exit (result : RoleEnd) (phase : role.phase = .leaving result) :
      Turn p e r role
        ({ e with exited := e.exited + 1 }.setRole r { role with phase := .reporting result }) []
  | report (result : RoleEnd) (phase : role.phase = .reporting result) :
      Turn p e r role
        ({ e with exits := e.exits.push ⟨r, result⟩ }.setRole r { role with phase := .gone }) []
  | rest (phase : role.phase = .gone) : Turn p e r role e []

theorem grow_eq (p : EnginePlan ω σ) (e : Engine ω σ) (r : Nat) (role : Role) :
    e.grow p r role =
      match e.growth p role with
      | (world, .error fault) => { e with world }.setRole r { role with phase := .dying fault }
      | (world, .ok (view, arena)) =>
          { e with
            world, arena
            stats := e.stats.recordPublish e.now (role.base / (p.size + 1))
              ((e.roundAt role.round).view.size < p.range.growTarget
                (e.roundAt role.round).view.size (e.roundAt role.round).lagged) view.size
            }.setRole r { role with phase := .sampling view } :=
  rfl

/-- A role that waits looks whether its gate is open, or whether the run is aborted. -/
theorem waiting_turn (p : EnginePlan ω σ) (e : Engine ω σ) (r : Nat) {role : Role} {gate : Gate}
    {missed : Bool} (phase : role.phase = .waiting gate missed) :
    Turn p e r role (e.stepRole p r role) (e.eventsOfStep p r role) := by
  cases missed with
  | true =>
      simp only [stepRole, eventsOfStep, phase]
      cases aborted : e.control.aborted with
      | false => exact .retry gate phase aborted
      | true => exact .giveUp gate phase aborted
  | false =>
      cases opened : e.isOpen role gate with
      | false =>
          cases gate <;> simp only [stepRole, eventsOfStep, phase, opened] <;>
            exact .miss _ phase opened
      | true =>
          cases gate with
          | start =>
              simp only [stepRole, eventsOfStep, phase, opened, pass]
              exact .passStart phase (of_decide_eq_true opened)
          | barrier =>
              simp only [stepRole, eventsOfStep, phase, opened, pass]
              exact .begin phase (of_decide_eq_true opened)
          | finish =>
              simp only [stepRole, eventsOfStep, phase, opened, pass]
              cases slice : consumeSlice r p.size (e.roundAt role.round).view.size with
              | error fault => exact .misfit phase (of_decide_eq_true opened) fault slice
              | ok ends => exact .clear phase (of_decide_eq_true opened) ends.1 ends.2 slice

/-- A role runs its actor on the next pair, if it is there. -/
theorem acting_turn (p : EnginePlan ω σ) (e : Engine ω σ) (r : Nat) {role : Role} {place : Nat}
    {rest : List Nat} (phase : role.phase = .acting (place :: rest)) :
    Turn p e r role (e.stepRole p r role) (e.eventsOfStep p r role) := by
  cases found : e.arena[place]? with
  | none =>
      simp only [stepRole, eventsOfStep, phase, onPair, found]
      exact .actLost place rest phase found
  | some pair =>
      simp only [stepRole, eventsOfStep, phase, onPair, found]
      cases broke : (p.test.runActor r e.world pair.state pair.result).fault with
      | none => exact .act place rest pair phase found broke
      | some fault => exact .actBroke place rest pair fault phase found broke

/-- A role consumes the next pair of its slice, if it is there. -/
theorem consuming_turn (p : EnginePlan ω σ) (e : Engine ω σ) (r : Nat) {role : Role} {place : Nat}
    {rest : List Nat} (phase : role.phase = .consuming (place :: rest)) :
    Turn p e r role (e.stepRole p r role) (e.eventsOfStep p r role) := by
  cases found : e.arena[place]? with
  | none =>
      simp only [stepRole, eventsOfStep, phase, consume_lost found, found]
      exact .consumeLost place rest phase found
  | some pair =>
      have size := (alike_consume p e place role.tally).size
      simp only [stepRole, eventsOfStep, phase, found]
      cases result : e.consume p place role.tally with
      | mk e₁ outcome =>
          cases outcome with
          | error fault => exact .consumeBroke place rest pair e₁ fault phase found result
          | ok tally =>
              rw [result] at size
              have inside : place < e₁.arena.size := by
                rw [size]
                exact (Array.getElem?_eq_some_iff.1 found).1
              have renewed := Array.getElem?_eq_getElem inside
              simp only [renewed, Option.toList_some, List.map_cons, List.map_nil]
              exact .consume place rest pair _ e₁ tally phase found result renewed

theorem stepRole_turn (p : EnginePlan ω σ) (e : Engine ω σ) (r : Nat) (role : Role) :
    Turn p e r role (e.stepRole p r role) (e.eventsOfStep p r role) := by
  cases phase : role.phase with
  | loading =>
      simp only [stepRole, eventsOfStep, phase]
      cases going : (e.roundAt e.current).stopped with
      | false => exact .load phase going
      | true => exact .leave phase going
  | arriving =>
      simp only [stepRole, eventsOfStep, phase]
      exact .arrive phase
  | waiting gate missed => exact waiting_turn p e r phase
  | entering =>
      simp only [stepRole, eventsOfStep, phase]
      exact .enter phase
  | acting places =>
      cases places with
      | nil =>
          simp only [stepRole, eventsOfStep, phase]
          cases early : (e.roundAt role.round).isEarly with
          | false => exact .done phase early
          | true => exact .early phase early
      | cons place rest => exact acting_turn p e r phase
  | lagging =>
      simp only [stepRole, eventsOfStep, phase]
      exact .lag phase
  | departing =>
      simp only [stepRole, eventsOfStep, phase]
      exact .depart phase
  | consuming places =>
      cases places with
      | nil =>
          simp only [stepRole, eventsOfStep, phase]
          by_cases last : e.epoch + 1 = role.base + p.size
          · rw [if_pos last]
            exact .close phase last
          · rw [if_neg last]
            exact .finish phase last
      | cons place rest => exact consuming_turn p e r phase
  | growing =>
      simp only [stepRole, eventsOfStep, phase, grow_eq]
      cases grown : e.growth p role with
      | mk world outcome =>
          cases outcome with
          | error fault => exact .growBroke world fault phase grown
          | ok pool => exact .grow world pool.1 pool.2 phase grown
  | sampling view =>
      simp only [stepRole, eventsOfStep, phase]
      exact .sample view phase
  | storing view stopped =>
      simp only [stepRole, eventsOfStep, phase]
      exact .store view stopped phase
  | releasing =>
      simp only [stepRole, eventsOfStep, phase]
      exact .release phase
  | dying fault =>
      simp only [stepRole, eventsOfStep, phase]
      exact .die fault phase
  | halting fault =>
      simp only [stepRole, eventsOfStep, phase]
      exact .halt fault phase
  | leaving result =>
      simp only [stepRole, eventsOfStep, phase]
      exact .exit result phase
  | reporting result =>
      simp only [stepRole, eventsOfStep, phase]
      exact .report result phase
  | gone =>
      simp only [stepRole, eventsOfStep, phase]
      exact .rest phase

/-- What every step of a role and every move from outside keeps holds after every run. -/
theorem turn_invariant {p : EnginePlan ω σ} {P : Engine ω σ → List (Event ω σ) → Prop}
    {e : Engine ω σ} (init : P e []) (ms : List Move)
    (turn : ∀ e tr r role e' events, P e tr → e.roles[r]? = some role →
      Turn p e r role e' events → P e' (tr ++ events))
    (still : ∀ m ∈ ms, (∀ r, m ≠ .role r) → ∀ e tr, P e tr → P (e.apply p m) tr) :
    P (e.run p ms) (e.trace p ms) := by
  rw [← List.nil_append (e.trace p ms)]
  refine run_keeps (fun m hm e tr h => ?_) init
  cases m with
  | role r =>
      cases found : e.roles[r]? with
      | none => simpa [apply, eventsOf, found] using h
      | some role =>
          simp only [apply, eventsOf, found]
          exact turn e tr r role _ _ h found (stepRole_turn p e r role)
  | stop => simpa [eventsOf] using still _ hm (by simp) e tr h
  | abort => simpa [eventsOf] using still _ hm (by simp) e tr h
  | tick nanos => simpa [eventsOf] using still _ hm (by simp) e tr h

end Engine
end Litmus
