import Litmus.Proofs.Engine.Visits

/-!
What a pair goes through. In each of its rounds it is made ready, played by every actor once in
some order, and then consumed; this is its life in that round. What happened at a place is a row
of such lives, one for each round, and the life that has begun there.
-/
namespace Litmus

variable {ω σ : Type}

/-- The round and the place of the pair that an event is about. -/
def Event.spot? : Event ω σ → Option (Nat × Nat)
  | .acted _ k place _ _ => some (k, place)
  | .consumed _ k place _ _ => some (k, place)
  | .made k place _ _ => some (k, place)
  | _ => none

/-- Whether an event is about the pair at a place, in whatever round. -/
def Event.isAt (event : Event ω σ) (place : Nat) : Bool :=
  event.spot?.map (·.2) = some place

/-- What happened to the pair at a place in one round. -/
def story (tr : List (Event ω σ)) (k place : Nat) : List (Event ω σ) :=
  tr.filter fun event => event.spot? = some (k, place)

/-- What happened at a place in all rounds. -/
def saga (tr : List (Event ω σ)) (place : Nat) : List (Event ω σ) :=
  tr.filter fun event => event.isAt place

variable (p : EnginePlan ω σ)

/-- A pair with the state that the test makes in a given world, and with blank slots. -/
structure EnginePlan.Fresh (world : ω) (pair : Pair σ) : Prop where
  state : (p.test.fresh world).2 = .ok pair.state
  result : pair.result = p.test.blank

/-- The pair that the actor of a role leaves behind. -/
def EnginePlan.acted (r : Nat) (world : ω) (pair : Pair σ) : Pair σ :=
  ⟨(p.test.runActor r world pair.state pair.result).state,
    (p.test.runActor r world pair.state pair.result).result⟩

/-- A pair was made ready, and then some roles played it. -/
inductive Played (k place : Nat) : List (Event ω σ) → List Nat → Pair σ → Prop where
  | made {world : ω} {pair : Pair σ} (fresh : p.Fresh world pair) :
      Played k place [.made k place world pair] [] pair
  | acted {events : List (Event ω σ)} {roles : List Nat} {pair : Pair σ}
      (played : Played k place events roles pair) (r : Nat) (world : ω) :
      Played k place (events ++ [.acted r k place world pair]) (roles ++ [r])
        (p.acted r world pair)

/-- All that happens to a pair in one round: every actor plays it once, and then it is consumed
as the last of them left it. -/
structure Life (k place : Nat) (events : List (Event ω σ)) : Prop where
  played : ∃ before roles pair r world, Played p k place before roles pair ∧
    roles.Perm (List.range p.size) ∧ events = before ++ [.consumed r k place world pair]

/-- The lives of the pair at a place from one round up to, but not including, another. -/
inductive Lives (place first : Nat) : List (Event ω σ) → Nat → Prop where
  | none : Lives place first [] first
  | more {events life : List (Event ω σ)} {k : Nat} (before : Lives place first events k)
      (lived : Life p k place life) : Lives place first (events ++ life) (k + 1)

variable {p} {tr events life : List (Event ω σ)} {r i j k first place x : Nat} {roles : List Nat}
  {pair : Pair σ} {world : ω}

/-! ### Stories -/

theorem story_append (tr events : List (Event ω σ)) (k place : Nat) :
    story (tr ++ events) k place = story tr k place ++ story events k place :=
  List.filter_append ..

theorem story_eq_self (h : ∀ event ∈ events, event.spot? = some (k, place)) :
    story events k place = events :=
  List.filter_eq_self.2 fun event hevent => decide_eq_true (h event hevent)

theorem story_eq_nil (h : ∀ event ∈ events, event.spot? ≠ some (k, place)) :
    story events k place = [] :=
  List.filter_eq_nil_iff.2 fun event hevent => by
    rw [decide_eq_true_iff]
    exact h event hevent

theorem saga_append (tr events : List (Event ω σ)) (place : Nat) :
    saga (tr ++ events) place = saga tr place ++ saga events place :=
  List.filter_append ..

theorem story_saga (tr : List (Event ω σ)) (k place : Nat) :
    story (saga tr place) k place = story tr k place := by
  rw [story, saga, List.filter_filter, story]
  refine List.filter_congr fun event _ => ?_
  by_cases h : event.spot? = some (k, place)
  · simp [h, Event.isAt]
  · simp [h]

theorem saga_nil (none : ∀ event ∈ events, event.isAt place = false) : saga events place = [] :=
  List.filter_eq_nil_iff.2 fun event hevent => by simp [none event hevent]

theorem saga_madeFrom_lt (k : Nat) {place x : Nat} (h : x < place)
    (made : List (ω × Pair σ)) : saga (madeFrom k place made) x = [] := by
  refine saga_nil fun event hevent => ?_
  obtain ⟨⟨⟨world, pair⟩, i⟩, hi, rfl⟩ := List.mem_map.1 hevent
  have := List.le_snd_of_mem_zipIdx hi
  simp only [Event.isAt, Event.spot?, Option.map_some, Option.some.injEq, decide_eq_false_iff_not]
  omega

/-- New pairs that stand one after the other are made at their own places only. -/
theorem saga_madeFrom (k place : Nat) (made : List (ω × Pair σ)) (n : Nat) :
    saga (madeFrom k place made) (place + n) =
      (made[n]?).toList.map fun (world, pair) => .made k (place + n) world pair := by
  induction made generalizing place n with
  | nil => rfl
  | cons first made ih =>
      obtain ⟨world, pair⟩ := first
      change saga ([.made k place world pair] ++ madeFrom k (place + 1) made) (place + n) = _
      rw [saga_append]
      cases n with
      | zero =>
          rw [Nat.add_zero, saga_madeFrom_lt k (Nat.lt_succ_self place)]
          simp [saga, Event.isAt, Event.spot?]
      | succ n =>
          have none : saga [(.made k place world pair : Event ω σ)] (place + (n + 1)) = [] := by
            simp [saga, Event.isAt, Event.spot?]
          rw [none, List.nil_append, List.getElem?_cons_succ, ← Nat.add_assoc,
            Nat.add_right_comm]
          exact ih (place + 1) n

/-! ### One life -/

theorem Played.spot (h : Played p k place events roles pair) {event : Event ω σ}
    (hevent : event ∈ events) : event.spot? = some (k, place) := by
  induction h with
  | made =>
      rw [List.mem_singleton.1 hevent]
      rfl
  | acted played r world ih =>
      cases List.mem_append.1 hevent with
      | inl hevent => exact ih hevent
      | inr hevent =>
          rw [List.mem_singleton.1 hevent]
          rfl

/-- How often a role has played the pair. -/
theorem Played.count_actedBy (h : Played p k place events roles pair) (r : Nat) :
    (actedBy events r k).count place = roles.count r := by
  induction h with
  | made => rfl
  | acted played i world ih =>
      rw [actedBy_append, actedBy_acted, List.count_append, ih, List.count_append]
      by_cases hi : i = r
      · simp [hi]
      · simp [hi]

theorem Life.spot (h : Life p k place life) {event : Event ω σ} (hevent : event ∈ life) :
    event.spot? = some (k, place) := by
  obtain ⟨before, roles, pair, r, world, played, -, rfl⟩ := h.played
  cases List.mem_append.1 hevent with
  | inl hevent => exact played.spot hevent
  | inr hevent =>
      rw [List.mem_singleton.1 hevent]
      rfl

/-! ### The rounds of a row of lives -/

/-- The rounds in which the pair at a place was consumed, in order. -/
def consumedIn (tr : List (Event ω σ)) (place : Nat) : List Nat :=
  tr.filterMap fun
    | .consumed _ k x _ _ => if x = place then some k else none
    | _ => none

theorem consumedIn_append (tr events : List (Event ω σ)) (place : Nat) :
    consumedIn (tr ++ events) place = consumedIn tr place ++ consumedIn events place :=
  List.filterMap_append

theorem Played.consumedIn_eq (h : Played p k place events roles pair) (x : Nat) :
    consumedIn events x = [] := by
  induction h with
  | made => rfl
  | acted played i world ih =>
      rw [consumedIn_append, ih]
      rfl

theorem Life.consumedIn_eq (h : Life p k place life) : consumedIn life place = [k] := by
  obtain ⟨before, roles, pair, r, world, played, -, rfl⟩ := h.played
  rw [consumedIn_append, played.consumedIn_eq]
  simp [consumedIn]

namespace Lives

theorem le (h : Lives p place first events k) : first ≤ k := by
  induction h with
  | none => exact Nat.le_refl first
  | more before lived ih => exact Nat.le_succ_of_le ih

theorem consumedIn_eq (h : Lives p place first events k) :
    consumedIn events place = List.range' first (k - first) := by
  induction h with
  | none => simp [consumedIn]
  | more before lived ih =>
      have le := before.le
      rw [consumedIn_append, ih, lived.consumedIn_eq, Nat.succ_sub le, List.range'_1_concat,
        Nat.add_sub_cancel' le]

theorem spot (h : Lives p place first events k) {event : Event ω σ} (hevent : event ∈ events) :
    ∃ j < k, event.spot? = some (j, place) := by
  induction h with
  | none => simp at hevent
  | more before lived ih =>
      cases List.mem_append.1 hevent with
      | inl hevent =>
          obtain ⟨j, hj, spot⟩ := ih hevent
          exact ⟨j, Nat.lt_succ_of_lt hj, spot⟩
      | inr hevent => exact ⟨_, Nat.lt_succ_self _, lived.spot hevent⟩

/-- The part of a row that belongs to one of its rounds is the life in that round. -/
theorem story (h : Lives p place first events k) (reached : first ≤ j) (upto : j < k) :
    Life p j place (Litmus.story events j place) := by
  induction h with
  | none => omega
  | @more events life k before lived ih =>
      rw [story_append]
      rcases Nat.lt_or_eq_of_le (Nat.le_of_lt_succ upto) with earlier | rfl
      · have none : Litmus.story life j place = [] := story_eq_nil fun event hevent => by
          rw [lived.spot hevent]
          simpa using Nat.ne_of_gt earlier
        rw [none, List.append_nil]
        exact ih earlier
      · have none : Litmus.story events j place = [] := story_eq_nil fun event hevent => by
          obtain ⟨i, hi, spot⟩ := before.spot hevent
          rw [spot]
          simpa using Nat.ne_of_lt hi
        rw [none, story_eq_self fun event => lived.spot]
        exact lived

end Lives

end Litmus
