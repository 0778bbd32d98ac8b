import Litmus.Proofs.Engine.Slices

/-!
Which pairs the roles visit: in a round every actor goes over the places of the pool in order, and
after the finish gate each role consumes the places of its slice in order.
-/
namespace Litmus

variable {ω σ : Type}

structure Visits (p : EnginePlan ω σ) (e : Engine ω σ) (tr : List (Event ω σ)) : Prop where
  entered : ∀ r k place, place ∈ actedBy tr r k → .passed r .entered k ∈ tr
  cleared : ∀ r k place, place ∈ consumedBy tr r k → .passed r .cleared k ∈ tr
  acting : ∀ (r : Nat) (role : Role) rest, e.roles[r]? = some role → role.phase = .acting rest →
    actedBy tr r role.round ++ rest = (e.roundAt role.round).view.places
  acted : ∀ (r : Nat) (role : Role), e.roles[r]? = some role →
    (role.phase = .lagging ∨ role.phase = .departing) →
      actedBy tr r role.round = (e.roundAt role.round).view.places
  departed : ∀ r k, .passed r .departed k ∈ tr → actedBy tr r k = (e.roundAt k).view.places
  consuming : ∀ (r : Nat) (role : Role) rest, e.roles[r]? = some role →
    role.phase = .consuming rest → consumedBy tr r role.round ++ rest = e.slice p r role.round
  finished : ∀ r k, .passed r .finished k ∈ tr → consumedBy tr r k = e.slice p r k
  begun : ∀ r k, consumedBy tr r k <+: e.slice p r k

variable {p : EnginePlan ω σ} {e e' : Engine ω σ} {tr events : List (Event ω σ)} {r k place : Nat}
  {role role' : Role}

/-- Whether a role goes over pairs, or has just done so, before it counts itself in. -/
def Phase.visits : Phase → Bool
  | .acting _ => true
  | .lagging => true
  | .departing => true
  | .consuming _ => true
  | _ => false

namespace Visits

theorem entered_append (h : Visits p e tr) (own : OfRole r events)
    (entered : ∀ k, ∀ place ∈ actedBy events r k, .passed r .entered k ∈ tr) (i k place : Nat)
    (hplace : place ∈ actedBy (tr ++ events) i k) : .passed i .entered k ∈ tr := by
  by_cases hi : i = r
  · subst hi
    rw [actedBy_append, List.mem_append] at hplace
    exact hplace.elim (h.entered i k place) (entered k place)
  · rw [own.actedBy_eq hi] at hplace
    exact h.entered i k place hplace

theorem cleared_append (h : Visits p e tr) (own : OfRole r events)
    (cleared : ∀ k, ∀ place ∈ consumedBy events r k, .passed r .cleared k ∈ tr) (i k place : Nat)
    (hplace : place ∈ consumedBy (tr ++ events) i k) : .passed i .cleared k ∈ tr := by
  by_cases hi : i = r
  · subst hi
    rw [consumedBy_append, List.mem_append] at hplace
    exact hplace.elim (h.cleared i k place) (cleared k place)
  · rw [own.consumedBy_eq hi] at hplace
    exact h.cleared i k place hplace

/-- A step of one role, from what it does to the visits of that role. -/
theorem step (h : Visits p e tr) (lock : Lockstep p e tr) (found : e.roles[r]? = some role)
    (turn : Engine.Turn p e r role e' events) (roles : e'.roles = e.roles.setIfInBounds r role')
    (inside : ∀ mark k, .passed r mark k ∈ events → k < e.rounds.size)
    (entered : ∀ k, ∀ place ∈ actedBy events r k, .passed r .entered k ∈ tr)
    (cleared : ∀ k, ∀ place ∈ consumedBy events r k, .passed r .cleared k ∈ tr)
    (acting : ∀ rest, role'.phase = .acting rest → role'.round < e.rounds.size ∧
      actedBy (tr ++ events) r role'.round ++ rest = (e.roundAt role'.round).view.places)
    (acted : role'.phase = .lagging ∨ role'.phase = .departing → role'.round < e.rounds.size ∧
      actedBy (tr ++ events) r role'.round = (e.roundAt role'.round).view.places)
    (departed : ∀ k, .passed r .departed k ∈ tr ++ events →
      actedBy (tr ++ events) r k = (e.roundAt k).view.places)
    (consuming : ∀ rest, role'.phase = .consuming rest → role'.round < e.rounds.size ∧
      consumedBy (tr ++ events) r role'.round ++ rest = e.slice p r role'.round)
    (finished : ∀ k, .passed r .finished k ∈ tr ++ events →
      consumedBy (tr ++ events) r k = e.slice p r k)
    (begun : ∀ k, consumedBy (tr ++ events) r k <+: e.slice p r k) :
    Visits p e' (tr ++ events) := by
  have views := turn.views
  have own := turn.ofRole
  have slices {k : Nat} (hk : k < e.rounds.size) (i : Nat) : e'.slice p i k = e.slice p i k :=
    Engine.slice_congr (views k hk) i
  have passed_lt {i : Nat} {mark : Mark} {k : Nat} (hi : .passed i mark k ∈ tr ++ events) :
      k < e.rounds.size := by
    cases List.mem_append.1 hi with
    | inl hi => exact lock.passed_lt hi
    | inr hi =>
        by_cases hr : i = r
        · subst hr
          exact inside mark k hi
        · exact absurd hi (own.passed i mark k hr)
  have enters := h.entered_append own entered
  have clears := h.cleared_append own cleared
  refine ⟨fun i k place hplace => List.mem_append_left _ (enters i k place hplace),
    fun i k place hplace => List.mem_append_left _ (clears i k place hplace),
    ?_, ?_, ?_, ?_, ?_, ?_⟩
  · intro i x rest hx phase
    rw [roles] at hx
    rcases (Engine.role_setRole found).1 hx with ⟨rfl, rfl⟩ | ⟨hi, hx⟩
    · obtain ⟨hlt, hacting⟩ := acting rest phase
      rw [views _ hlt, hacting]
    · have hlt := lock.round_lt hx (by simp [phase, Phase.stage])
      rw [views _ hlt, own.actedBy_eq hi]
      exact h.acting i x rest hx phase
  · intro i x hx phase
    rw [roles] at hx
    rcases (Engine.role_setRole found).1 hx with ⟨rfl, rfl⟩ | ⟨hi, hx⟩
    · obtain ⟨hlt, hacted⟩ := acted phase
      rw [views _ hlt, hacted]
    · have hlt := lock.round_lt hx (by rcases phase with phase | phase <;> rw [phase] <;> decide)
      rw [views _ hlt, own.actedBy_eq hi]
      exact h.acted i x hx phase
  · intro i k hpassed
    rw [views k (passed_lt hpassed)]
    by_cases hi : i = r
    · subst hi
      exact departed k hpassed
    · rw [own.actedBy_eq hi]
      exact h.departed i k ((own.passed_iff hi).1 hpassed)
  · intro i x rest hx phase
    rw [roles] at hx
    rcases (Engine.role_setRole found).1 hx with ⟨rfl, rfl⟩ | ⟨hi, hx⟩
    · obtain ⟨hlt, hconsuming⟩ := consuming rest phase
      rw [slices hlt, hconsuming]
    · have hlt := lock.round_lt hx (by simp [phase, Phase.stage])
      rw [slices hlt, own.consumedBy_eq hi]
      exact h.consuming i x rest hx phase
  · intro i k hpassed
    rw [slices (passed_lt hpassed)]
    by_cases hi : i = r
    · subst hi
      exact finished k hpassed
    · rw [own.consumedBy_eq hi]
      exact h.finished i k ((own.passed_iff hi).1 hpassed)
  · intro i k
    cases Nat.lt_or_ge k e.rounds.size with
    | inl hk =>
        rw [slices hk]
        by_cases hi : i = r
        · subst hi
          exact begun k
        · rw [own.consumedBy_eq hi]
          exact h.begun i k
    | inr hk =>
        have none : consumedBy (tr ++ events) i k = [] :=
          List.eq_nil_iff_forall_not_mem.2 fun place hplace =>
            absurd (lock.passed_lt (clears i k place hplace)) (Nat.not_lt.2 hk)
        rw [none]
        exact List.nil_prefix

/-- A step of a role that visits no pair and ends neither its pass nor its slice. -/
theorem quiet (h : Visits p e tr) (lock : Lockstep p e tr) (found : e.roles[r]? = some role)
    (turn : Engine.Turn p e r role e' events) (roles : e'.roles = e.roles.setIfInBounds r role')
    (passed : ∀ i mark k, .passed i mark k ∈ events →
      k < e.rounds.size ∧ mark ≠ .departed ∧ mark ≠ .finished)
    (acts : ∀ i k, actedBy events i k = []) (consumes : ∀ i k, consumedBy events i k = [])
    (acting : ∀ rest, role'.phase = .acting rest → role'.round < e.rounds.size ∧
      actedBy tr r role'.round ++ rest = (e.roundAt role'.round).view.places)
    (acted : role'.phase = .lagging ∨ role'.phase = .departing → role'.round < e.rounds.size ∧
      actedBy tr r role'.round = (e.roundAt role'.round).view.places)
    (consuming : ∀ rest, role'.phase = .consuming rest → role'.round < e.rounds.size ∧
      consumedBy tr r role'.round ++ rest = e.slice p r role'.round) :
    Visits p e' (tr ++ events) := by
  have actedSame (k : Nat) : actedBy (tr ++ events) r k = actedBy tr r k := by
    rw [actedBy_append, acts, List.append_nil]
  have consumedSame (k : Nat) : consumedBy (tr ++ events) r k = consumedBy tr r k := by
    rw [consumedBy_append, consumes, List.append_nil]
  refine h.step lock found turn roles (fun mark k hpassed => (passed r mark k hpassed).1)
    (by simp [acts]) (by simp [consumes]) ?_ ?_ ?_ ?_ ?_ ?_
  · intro rest phase
    rw [actedSame]
    exact acting rest phase
  · intro phase
    rw [actedSame]
    exact acted phase
  · intro k hpassed
    rw [actedSame]
    cases List.mem_append.1 hpassed with
    | inl hpassed => exact h.departed r k hpassed
    | inr hpassed => exact absurd rfl (passed r .departed k hpassed).2.1
  · intro rest phase
    rw [consumedSame]
    exact consuming rest phase
  · intro k hpassed
    rw [consumedSame]
    cases List.mem_append.1 hpassed with
    | inl hpassed => exact h.finished r k hpassed
    | inr hpassed => exact absurd rfl (passed r .finished k hpassed).2.2
  · intro k
    rw [consumedSame]
    exact h.begun r k

/-- A step to a phase that visits no pair. -/
theorem away (h : Visits p e tr) (lock : Lockstep p e tr) (found : e.roles[r]? = some role)
    (turn : Engine.Turn p e r role e' events) (roles : e'.roles = e.roles.setIfInBounds r role')
    (passed : ∀ i mark k, .passed i mark k ∈ events →
      k < e.rounds.size ∧ mark ≠ .departed ∧ mark ≠ .finished)
    (acts : ∀ i k, actedBy events i k = []) (consumes : ∀ i k, consumedBy events i k = [])
    (away : role'.phase.visits = false) : Visits p e' (tr ++ events) := by
  refine h.quiet lock found turn roles passed acts consumes ?_ ?_ ?_
  · intro rest phase
    simp [phase, Phase.visits] at away
  · rintro (phase | phase) <;> simp [phase, Phase.visits] at away
  · intro rest phase
    simp [phase, Phase.visits] at away

/-- A role calls its actor on the next place of its pass. -/
theorem call (h : Visits p e tr) (lock : Lockstep p e tr) (found : e.roles[r]? = some role)
    {rest : List Nat} {world : ω} {pair : Pair σ} (phase : role.phase = .acting (place :: rest))
    (turn : Engine.Turn p e r role e' [.acted r role.round place world pair])
    (roles : e'.roles = e.roles.setIfInBounds r role')
    (next : role'.phase.visits = false ∨ role'.phase = .acting rest ∧ role'.round = role.round) :
    Visits p e' (tr ++ [.acted r role.round place world pair]) := by
  have stage : role.phase.stage = 5 := congrArg Phase.stage phase
  have acting := h.acting r role _ found phase
  have consumes (i k : Nat) : consumedBy [(.acted r role.round place world pair : Event ω σ)] i k =
      [] := by simp [consumedBy]
  have consumedSame (k : Nat) : consumedBy (tr ++ [.acted r role.round place world pair]) r k =
      consumedBy tr r k := by
    rw [consumedBy_append, consumes, List.append_nil]
  have passedSame {mark : Mark} {k : Nat}
      (hpassed : .passed r mark k ∈ tr ++ [.acted r role.round place world pair]) :
      .passed r mark k ∈ tr := by simpa using hpassed
  refine h.step lock found turn roles (by simp) ?_ (by simp [consumes]) ?_ ?_ ?_ ?_ ?_ ?_
  · intro k x hx
    rw [actedBy_acted] at hx
    split at hx
    case isTrue heq =>
      obtain ⟨-, rfl⟩ := heq
      exact lock.passed found (by rw [stage]; decide) (by omega)
    case isFalse => simp at hx
  · intro rest' phase'
    rcases next with away | ⟨next, round⟩
    · simp [phase', Phase.visits] at away
    · obtain rfl : rest = rest' := by simpa [next] using phase'
      rw [round, actedBy_append, actedBy_acted, if_pos ⟨rfl, rfl⟩, List.append_assoc]
      exact ⟨lock.round_lt found (by omega), acting⟩
  · intro phase'
    rcases next with away | ⟨next, -⟩
    · rcases phase' with phase' | phase' <;> simp [phase', Phase.visits] at away
    · rcases phase' with phase' | phase' <;> simp [next] at phase'
  · intro k hpassed
    have hpassed := passedSame hpassed
    have hk : role.round ≠ k := fun heq => by
      subst heq
      exact lock.not_passed found (by rw [stage]; decide) hpassed
    rw [actedBy_append, actedBy_acted, if_neg fun heq => hk heq.2, List.append_nil]
    exact h.departed r k hpassed
  · intro rest' phase'
    rcases next with away | ⟨next, -⟩
    · simp [phase', Phase.visits] at away
    · simp [next] at phase'
  · intro k hpassed
    rw [consumedSame]
    exact h.finished r k (passedSame hpassed)
  · intro k
    rw [consumedSame]
    exact h.begun r k

/-- A role consumes the next place of its slice. -/
theorem judge (h : Visits p e tr) (lock : Lockstep p e tr) (found : e.roles[r]? = some role)
    {rest : List Nat} {world : ω} {pair : Pair σ} {made : List (Event ω σ)}
    (phase : role.phase = .consuming (place :: rest))
    (turn : Engine.Turn p e r role e' (.consumed r role.round place world pair :: made))
    (roles : e'.roles = e.roles.setIfInBounds r role')
    (only : ∀ event ∈ made, ∃ k x world pair, event = .made k x world pair)
    (next : role'.phase.visits = false ∨ role'.phase = .consuming rest ∧ role'.round = role.round) :
    Visits p e' (tr ++ .consumed r role.round place world pair :: made) := by
  have stage : role.phase.stage = 9 := congrArg Phase.stage phase
  have consuming := h.consuming r role _ found phase
  have acts (i k : Nat) : actedBy (.consumed r role.round place world pair :: made) i k = [] := by
    refine List.eq_nil_iff_forall_not_mem.2 fun x hx => ?_
    obtain ⟨w, q, hmem⟩ := mem_actedBy.1 hx
    cases List.mem_cons.1 hmem with
    | inl heq => simp at heq
    | inr hmem =>
        obtain ⟨k, x, world, pair, heq⟩ := only _ hmem
        simp at heq
  have consumes (i k : Nat) : consumedBy (.consumed r role.round place world pair :: made) i k =
      if r = i ∧ role.round = k then [place] else [] := by
    have none : consumedBy made i k = [] := by
      refine List.eq_nil_iff_forall_not_mem.2 fun x hx => ?_
      obtain ⟨w, q, hmem⟩ := mem_consumedBy.1 hx
      obtain ⟨k, x, world, pair, heq⟩ := only _ hmem
      simp at heq
    rw [consumedBy_consumed, none, List.append_nil]
  have silent : Silent (.consumed r role.round place world pair :: made) := by
    intro i mark k hmem
    cases List.mem_cons.1 hmem with
    | inl heq => simp at heq
    | inr hmem =>
        obtain ⟨k, x, world, pair, heq⟩ := only _ hmem
        simp at heq
  have actedSame (k : Nat) : actedBy (tr ++ .consumed r role.round place world pair :: made) r k =
      actedBy tr r k := by
    rw [actedBy_append, acts, List.append_nil]
  refine h.step lock found turn roles (fun mark k hmem => absurd hmem (silent r mark k))
    (by simp [acts]) ?_ ?_ ?_ ?_ ?_ ?_ ?_
  · intro k x hx
    rw [consumes] at hx
    split at hx
    case isTrue heq =>
      obtain ⟨-, rfl⟩ := heq
      exact lock.passed found (by rw [stage]; decide) (by omega)
    case isFalse => simp at hx
  · intro rest' phase'
    rcases next with away | ⟨next, -⟩
    · simp [phase', Phase.visits] at away
    · simp [next] at phase'
  · intro phase'
    rcases next with away | ⟨next, -⟩
    · rcases phase' with phase' | phase' <;> simp [phase', Phase.visits] at away
    · rcases phase' with phase' | phase' <;> simp [next] at phase'
  · intro k hpassed
    rw [actedSame]
    exact h.departed r k (silent.passed_iff.1 hpassed)
  · intro rest' phase'
    rcases next with away | ⟨next, round⟩
    · simp [phase', Phase.visits] at away
    · obtain rfl : rest = rest' := by simpa [next] using phase'
      rw [round, consumedBy_append, consumes, if_pos ⟨rfl, rfl⟩, List.append_assoc]
      exact ⟨lock.round_lt found (by omega), consuming⟩
  · intro k hpassed
    have hpassed := silent.passed_iff.1 hpassed
    have hk : role.round ≠ k := fun heq => by
      subst heq
      exact lock.not_passed found (by rw [stage]; decide) hpassed
    rw [consumedBy_append, consumes, if_neg fun heq => hk heq.2, List.append_nil]
    exact h.finished r k hpassed
  · intro k
    rw [consumedBy_append, consumes]
    split
    case isTrue heq =>
      obtain ⟨-, rfl⟩ := heq
      rw [← consuming]
      exact ⟨rest, by simp⟩
    case isFalse =>
      rw [List.append_nil]
      exact h.begun r k

/-- A role counts itself in after its pass or after its slice. -/
theorem mark (h : Visits p e tr) (lock : Lockstep p e tr) (found : e.roles[r]? = some role)
    {mark : Mark} (turn : Engine.Turn p e r role e' [.passed r mark role.round])
    (roles : e'.roles = e.roles.setIfInBounds r role') (inside : role.round < e.rounds.size)
    (away : role'.phase.visits = false)
    (departed : mark = .departed →
      actedBy tr r role.round = (e.roundAt role.round).view.places)
    (finished : mark = .finished → consumedBy tr r role.round = e.slice p r role.round) :
    Visits p e' (tr ++ [.passed r mark role.round]) := by
  have acts (i k : Nat) : actedBy [(.passed r mark role.round : Event ω σ)] i k = [] := by
    simp [actedBy]
  have consumes (i k : Nat) : consumedBy [(.passed r mark role.round : Event ω σ)] i k = [] := by
    simp [consumedBy]
  have actedSame (k : Nat) : actedBy (tr ++ [.passed r mark role.round]) r k = actedBy tr r k := by
    rw [actedBy_append, acts, List.append_nil]
  have consumedSame (k : Nat) :
      consumedBy (tr ++ [.passed r mark role.round]) r k = consumedBy tr r k := by
    rw [consumedBy_append, consumes, List.append_nil]
  refine h.step lock found turn roles ?_ (by simp [acts]) (by simp [consumes]) ?_ ?_ ?_ ?_ ?_ ?_
  · intro m k hpassed
    rw [(Event.passed.inj (List.mem_singleton.1 hpassed)).2.2]
    exact inside
  · intro rest phase
    simp [phase, Phase.visits] at away
  · rintro (phase | phase) <;> simp [phase, Phase.visits] at away
  · intro k hpassed
    rw [actedSame]
    cases List.mem_append.1 hpassed with
    | inl hpassed => exact h.departed r k hpassed
    | inr hpassed =>
        obtain ⟨-, hmark, rfl⟩ := Event.passed.inj (List.mem_singleton.1 hpassed)
        exact departed hmark.symm
  · intro rest phase
    simp [phase, Phase.visits] at away
  · intro k hpassed
    rw [consumedSame]
    cases List.mem_append.1 hpassed with
    | inl hpassed => exact h.finished r k hpassed
    | inr hpassed =>
        obtain ⟨-, hmark, rfl⟩ := Event.passed.inj (List.mem_singleton.1 hpassed)
        exact finished hmark.symm
  · intro k
    rw [consumedSame]
    exact h.begun r k

/-- A step that gives no event, to a phase that visits no pair. -/
theorem idle (h : Visits p e tr) (lock : Lockstep p e tr) (found : e.roles[r]? = some role)
    (turn : Engine.Turn p e r role e' ([] : List (Event ω σ)))
    (roles : e'.roles = e.roles.setIfInBounds r role') (away : role'.phase.visits = false) :
    Visits p e' (tr ++ []) :=
  h.away lock found turn roles (by simp) (fun _ _ => rfl) (fun _ _ => rfl) away

/-- A role that has called its actor on all places goes on towards the finish gate. -/
theorem onward (h : Visits p e tr) (lock : Lockstep p e tr) (found : e.roles[r]? = some role)
    (turn : Engine.Turn p e r role e' ([] : List (Event ω σ)))
    (roles : e'.roles = e.roles.setIfInBounds r role') (round : role'.round = role.round)
    (inside : 1 < role.phase.stage ∧ role.phase.stage < 14)
    (acted : actedBy tr r role.round = (e.roundAt role.round).view.places)
    (next : role'.phase = .lagging ∨ role'.phase = .departing) : Visits p e' (tr ++ []) := by
  have hlt := lock.round_lt found inside
  refine h.quiet lock found turn roles (by simp) (fun _ _ => rfl) (fun _ _ => rfl) ?_ ?_ ?_
  · intro rest phase
    rcases next with next | next <;> simp [next] at phase
  · intro
    rw [round]
    exact ⟨hlt, acted⟩
  · intro rest phase
    rcases next with next | next <;> simp [next] at phase

/-- A role reads the round in progress. -/
theorem load (h : Visits p e tr) (lock : Lockstep p e tr) (found : e.roles[r]? = some role)
    (phase : role.phase = .loading)
    (turn : Engine.Turn p e r role e' [.passed r .loaded e.current])
    (roles : e'.roles = e.roles.setIfInBounds r role') (away : role'.phase.visits = false) :
    Visits p e' (tr ++ [.passed r .loaded e.current]) := by
  have current := lock.current_eq found (congrArg Phase.stage phase)
  refine h.away lock found turn roles ?_ (by simp [actedBy]) (by simp [consumedBy]) away
  intro i mark k hpassed
  obtain ⟨rfl, rfl, rfl⟩ := Event.passed.inj (List.mem_singleton.1 hpassed)
  rw [current]
  exact ⟨lock.lap_lt_rounds, by decide, by decide⟩

/-- A role that passes the start gate has all places of the pool before it. -/
theorem enter (h : Visits p e tr) (lock : Lockstep p e tr) (found : e.roles[r]? = some role)
    (phase : role.phase = .entering)
    (turn : Engine.Turn p e r role e' [.passed r .entered role.round])
    (roles : e'.roles = e.roles.setIfInBounds r
      { role with phase := .acting (e.roundAt role.round).view.places }) :
    Visits p e' (tr ++ [.passed r .entered role.round]) := by
  have hlt := lock.round_lt found (by rw [phase]; decide)
  refine h.quiet lock found turn roles ?_ (by simp [actedBy]) (by simp [consumedBy]) ?_ (by simp)
    (by simp)
  · intro i mark k hpassed
    obtain ⟨rfl, rfl, rfl⟩ := Event.passed.inj (List.mem_singleton.1 hpassed)
    exact ⟨hlt, by decide, by decide⟩
  · intro rest phase'
    have none : actedBy tr r role.round = [] :=
      List.eq_nil_iff_forall_not_mem.2 fun place hplace =>
        lock.not_passed found (by rw [phase]; decide) (h.entered r _ place hplace)
    refine ⟨hlt, ?_⟩
    rw [none, List.nil_append, ← Phase.acting.inj phase']

/-- A role that passes the finish gate has its slice of the pool before it. -/
theorem clear (h : Visits p e tr) (lock : Lockstep p e tr) (found : e.roles[r]? = some role)
    (phase : role.phase = .waiting .finish false)
    (turn : Engine.Turn p e r role e' [.passed r .cleared role.round])
    (roles : e'.roles = e.roles.setIfInBounds r
      { role with phase := .consuming (e.slice p r role.round) }) :
    Visits p e' (tr ++ [.passed r .cleared role.round]) := by
  have hlt := lock.round_lt found (by rw [phase]; decide)
  refine h.quiet lock found turn roles ?_ (by simp [actedBy]) (by simp [consumedBy]) (by simp)
    (by simp) ?_
  · intro i mark k hpassed
    obtain ⟨rfl, rfl, rfl⟩ := Event.passed.inj (List.mem_singleton.1 hpassed)
    exact ⟨hlt, by decide, by decide⟩
  · intro rest phase'
    have none : consumedBy tr r role.round = [] :=
      List.eq_nil_iff_forall_not_mem.2 fun place hplace =>
        lock.not_passed found (by rw [phase]; decide) (h.cleared r _ place hplace)
    refine ⟨hlt, ?_⟩
    rw [none, List.nil_append, ← Phase.consuming.inj phase']

/-- A role that has consumed its slice counts itself in at the barrier. -/
theorem finish (h : Visits p e tr) (lock : Lockstep p e tr) (found : e.roles[r]? = some role)
    (phase : role.phase = .consuming [])
    (turn : Engine.Turn p e r role e' [.passed r .finished role.round])
    (roles : e'.roles = e.roles.setIfInBounds r role') (away : role'.phase.visits = false) :
    Visits p e' (tr ++ [.passed r .finished role.round]) := by
  have consuming := h.consuming r role _ found phase
  rw [List.append_nil] at consuming
  exact h.mark lock found turn roles (lock.round_lt found (by rw [phase]; decide)) away (by simp)
    fun _ => consuming

/-- Fresh pairs are made, and no pair is visited. -/
theorem grow (h : Visits p e tr) (lock : Lockstep p e tr) (found : e.roles[r]? = some role)
    {k place n : Nat} {made : List (ω × Pair σ)}
    (turn : Engine.Turn p e r role e' (.recorded r n :: madeFrom k place made))
    (roles : e'.roles = e.roles.setIfInBounds r role') (away : role'.phase.visits = false) :
    Visits p e' (tr ++ .recorded r n :: madeFrom k place made) := by
  refine h.away lock found turn roles ?_ ?_ ?_ away
  · intro i mark k hpassed
    cases List.mem_cons.1 hpassed with
    | inl heq => simp at heq
    | inr hpassed => exact absurd hpassed (silent_madeFrom _ _ _ i mark k)
  · exact fun i k => actedBy_madeFrom _ _ _ i k
  · exact fun i k => consumedBy_madeFrom _ _ _ i k

theorem turn (h : Visits p e tr) (lock : Lockstep p e tr) (found : e.roles[r]? = some role)
    (step : Engine.Turn p e r role e' events) : Visits p e' (tr ++ events) := by
  have taken := step
  cases step with
  | load phase => exact h.load lock found phase taken rfl rfl
  | arrive phase =>
      exact h.mark lock found taken rfl (lock.round_lt found (by rw [phase]; decide)) rfl (by simp)
        (by simp)
  | enter phase => exact h.enter lock found phase taken rfl
  | act place rest pair phase => exact h.call lock found phase taken rfl (.inr ⟨rfl, rfl⟩)
  | actBroke place rest pair fault phase => exact h.call lock found phase taken rfl (.inl rfl)
  | early phase | done phase =>
      have acting := h.acting r role _ found phase
      rw [List.append_nil] at acting
      exact h.onward lock found taken rfl rfl (by rw [phase]; decide) acting (by simp)
  | lag phase =>
      have acted := h.acted r role found (.inl phase)
      exact h.onward lock found taken rfl rfl (by rw [phase]; decide) acted (by simp)
  | depart phase =>
      exact h.mark lock found taken rfl (lock.round_lt found (by rw [phase]; decide)) rfl
        (fun _ => h.acted r role found (.inr phase)) (by simp)
  | clear phase opened first last slice =>
      refine h.clear lock found phase taken ?_
      rw [Engine.slice, Engine.sizeAt, slice]
      rfl
  | consume place rest pair fresh e₁ tally phase hit result =>
      have alike := Engine.alike_of_consume result
      exact h.judge lock found phase taken (alike.roles_setRole r _) (by simp) (.inr ⟨rfl, rfl⟩)
  | consumeBroke place rest pair e₁ fault phase hit result =>
      have alike := Engine.alike_of_consume result
      exact h.judge lock found phase taken (alike.roles_setRole r _) (by simp) (.inl rfl)
  | close phase | finish phase => exact h.finish lock found phase taken rfl rfl
  | grow => exact h.grow lock found taken rfl rfl
  | leave | giveUp | store | die =>
      exact h.away lock found taken rfl (by simp) (by simp [actedBy]) (by simp [consumedBy]) rfl
  | miss | retry | passStart | misfit | begin | actLost | consumeLost | growBroke | sample | release
  | halt | exit | report =>
      exact h.idle lock found taken rfl rfl
  | rest => rwa [List.append_nil]

theorem still (h : Visits p e tr) {m : Engine.Move} (outside : ∀ r, m ≠ .role r) :
    Visits p (e.apply p m) tr := by
  cases m with
  | role r => exact absurd rfl (outside r)
  | stop => exact { h with }
  | abort => exact { h with }
  | tick nanos => exact { h with }

theorem launch (p : EnginePlan ω σ) (w : ω) : Visits p (p.launch w) [] := by
  have loading {i : Nat} {x : Role} (hx : (p.launch w).roles[i]? = some x) :
      x.phase = .loading := by
    rw [p.launched_role w hx]
    rfl
  refine ⟨by simp [actedBy], by simp [consumedBy], ?_, ?_, by simp, ?_, by simp, ?_⟩
  · intro i x rest hx phase
    simp [loading hx] at phase
  · intro i x hx phase
    simp [loading hx] at phase
  · intro i x rest hx phase
    simp [loading hx] at phase
  · exact fun i k => List.nil_prefix

end Visits

theorem visits (p : EnginePlan ω σ) (w : ω) (ms : List Engine.Move) :
    Visits p ((p.launch w).run p ms) ((p.launch w).trace p ms) :=
  (Engine.turn_invariant (P := fun e tr => Lockstep p e tr ∧ Visits p e tr)
    ⟨.launch p w, .launch p w⟩ ms
    (fun _ _ _ _ _ _ h found step => ⟨h.1.turn found step, h.2.turn h.1 found step⟩)
    fun _ _ outside _ _ h => ⟨h.1.still outside, h.2.still outside⟩).2

end Litmus
