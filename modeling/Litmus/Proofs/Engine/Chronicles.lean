import Litmus.Proofs.Engine.Calm
import Litmus.Proofs.Engine.Lives

/-!
In a run in which nothing breaks off, what happened at each place is a row of whole lives, one for
each round from the one in which the place came into being, and the beginning of one more.
-/
namespace Litmus

variable {ω σ : Type} {p : EnginePlan ω σ} {e e' : Engine ω σ} {tr events : List (Event ω σ)}
  {r i j k place birth : Nat} {role role' : Role} {roles : List Nat} {pair : Pair σ} {world : ω}

/-- The pair at a place has been played by some roles in a round, after a whole life in each round
from the one after its birth on. -/
structure Chronicle (p : EnginePlan ω σ) (tr : List (Event ω σ)) (place birth k : Nat)
    (roles : List Nat) (pair : Pair σ) : Prop where
  parts : ∃ before begun, saga tr place = before ++ begun ∧ Lives p place (birth + 1) before k ∧
    Played p k place begun roles pair

/-- A place comes into being at the end of the first round whose pool does not reach it, and is
reached by the next one. -/
structure Born (e : Engine ω σ) (place birth : Nat) : Prop where
  published : birth ≤ e.current
  beyond : e.sizeAt birth ≤ place
  reached : birth < e.current → place < e.sizeAt (birth + 1)

/-! ### What a chronicle tells -/

theorem consumedIn_saga (tr : List (Event ω σ)) (place : Nat) :
    consumedIn (saga tr place) place = consumedIn tr place := by
  rw [consumedIn, saga, List.filterMap_filter, consumedIn]
  congr 1
  funext event
  cases event with
  | consumed r k x world pair =>
      by_cases hx : x = place
      · simp [Event.isAt, Event.spot?, hx]
      · simp [hx]
  | _ => simp

theorem mem_consumedIn : k ∈ consumedIn tr place ↔ ∃ r, place ∈ consumedBy tr r k := by
  simp only [mem_consumedBy, consumedIn, List.mem_filterMap]
  constructor
  · rintro ⟨event, hevent, h⟩
    cases event with
    | consumed r j x world pair =>
        simp only [Option.ite_none_right_eq_some, Option.some.injEq] at h
        obtain ⟨rfl, rfl⟩ := h
        exact ⟨r, world, pair, hevent⟩
    | _ => simp at h
  · rintro ⟨r, world, pair, hevent⟩
    exact ⟨_, hevent, by simp⟩

theorem count_actedBy_saga (tr : List (Event ω σ)) (r k place : Nat) :
    (actedBy (saga tr place) r k).count place = (actedBy tr r k).count place := by
  induction tr with
  | nil => rfl
  | cons event tr ih =>
      rw [← List.singleton_append, saga_append, actedBy_append, actedBy_append, List.count_append,
        List.count_append, ih]
      congr 1
      cases event with
      | acted i j x world pair =>
          by_cases hx : x = place
          · rw [saga, List.filter_singleton]
            simp [Event.isAt, Event.spot?, hx]
          · rw [actedBy_acted, saga, List.filter_singleton]
            have elsewhere : (.acted i j x world pair : Event ω σ).isAt place = false := by
              simp [Event.isAt, Event.spot?, hx]
            rw [elsewhere]
            split <;> simp [actedBy, hx]
      | _ =>
          rw [saga, List.filter_singleton]
          generalize Event.isAt _ place = here
          cases here <;> rfl

theorem actedBy_eq_nil (h : ∀ event ∈ events, ∀ x, event.spot? ≠ some (k, x)) :
    actedBy events r k = [] := by
  refine List.eq_nil_iff_forall_not_mem.2 fun x hx => ?_
  obtain ⟨world, pair, hevent⟩ := mem_actedBy.1 hx
  exact h _ hevent x rfl

namespace Chronicle

/-- The pair was consumed in every round since its birth but the one it is in. -/
theorem consumedIn_eq (h : Chronicle p tr place birth k roles pair) :
    consumedIn tr place = List.range' (birth + 1) (k - (birth + 1)) := by
  obtain ⟨before, begun, parts, lived, played⟩ := h.parts
  rw [← consumedIn_saga, parts, consumedIn_append, lived.consumedIn_eq, played.consumedIn_eq,
    List.append_nil]

theorem lt (h : Chronicle p tr place birth k roles pair) : birth < k := by
  obtain ⟨before, begun, -, lived, -⟩ := h.parts
  exact lived.le

theorem mem_consumedIn (h : Chronicle p tr place birth k roles pair) :
    j ∈ consumedIn tr place ↔ birth < j ∧ j < k := by
  have lt := h.lt
  rw [h.consumedIn_eq, List.mem_range'_1]
  omega

/-- How often each role has played the pair in the round it is in. -/
theorem count_actedBy (h : Chronicle p tr place birth k roles pair) (r : Nat) :
    (actedBy tr r k).count place = roles.count r := by
  obtain ⟨before, begun, parts, lived, played⟩ := h.parts
  have earlier : actedBy before r k = [] := actedBy_eq_nil fun event hevent x => by
    obtain ⟨j, hj, spot⟩ := lived.spot hevent
    rw [spot]
    simp [Nat.ne_of_lt hj]
  rw [← count_actedBy_saga, parts, actedBy_append, earlier, List.nil_append,
    played.count_actedBy]

theorem life (h : Chronicle p tr place birth k roles pair) (since : birth < j) (upto : j < k) :
    Life p j place (story tr j place) := by
  obtain ⟨before, begun, parts, lived, played⟩ := h.parts
  have later : story begun j place = [] := story_eq_nil fun event hevent => by
    rw [played.spot hevent]
    simp [Nat.ne_of_gt upto]
  rw [← story_saga, parts, story_append, later, List.append_nil]
  exact lived.story since upto

/-! ### How a chronicle goes on -/

theorem born (none : saga tr place = [])
    (only : saga events place = [.made (birth + 1) place world pair])
    (fresh : p.Fresh world pair) : Chronicle p (tr ++ events) place birth (birth + 1) [] pair where
  parts := ⟨[], _, by rw [saga_append, none, only], .none, .made fresh⟩

theorem acted (h : Chronicle p tr place birth k roles pair) (r : Nat) (world : ω)
    (only : saga events place = [.acted r k place world pair]) :
    Chronicle p (tr ++ events) place birth k (roles ++ [r]) (p.acted r world pair) where
  parts := by
    obtain ⟨before, begun, parts, lived, played⟩ := h.parts
    refine ⟨before, _, ?_, lived, played.acted r world⟩
    rw [saga_append, parts, only, List.append_assoc]

theorem consumed (h : Chronicle p tr place birth k roles pair) (r : Nat) (world : ω)
    {judged : ω} {fresh : Pair σ} (all : roles.Perm (List.range p.size))
    (isFresh : p.Fresh judged fresh) (only : saga events place =
      [.consumed r k place world pair, .made (k + 1) place judged fresh]) :
    Chronicle p (tr ++ events) place birth (k + 1) [] fresh where
  parts := by
    obtain ⟨before, begun, parts, lived, played⟩ := h.parts
    have life : Life p k place (begun ++ [.consumed r k place world pair]) :=
      ⟨begun, roles, pair, r, world, played, all, rfl⟩
    refine ⟨_, _, ?_, .more lived life, .made isFresh⟩
    rw [saga_append, parts, only, List.append_assoc, List.append_assoc, List.append_assoc]
    rfl

theorem idle (h : Chronicle p tr place birth k roles pair) (none : saga events place = []) :
    Chronicle p (tr ++ events) place birth k roles pair where
  parts := by
    rw [saga_append, none, List.append_nil]
    exact h.parts

end Chronicle

/-! ### All places -/

structure Chronicles (p : EnginePlan ω σ) (e : Engine ω σ) (tr : List (Event ω σ)) : Prop where
  written : ∀ (place : Nat) (pair : Pair σ), e.arena[place]? = some pair →
    ∃ birth k roles, Chronicle p tr place birth k roles pair ∧ Born e place birth
  unwritten : ∀ place, e.arena.size ≤ place → saga tr place = []

theorem Born.keep (h : Born e place birth) (current : e'.current = e.current)
    (sizes : ∀ k ≤ e.current, e'.sizeAt k = e.sizeAt k) : Born e' place birth := by
  refine ⟨current ▸ h.published, ?_, fun early => ?_⟩
  · rw [sizes _ h.published]
    exact h.beyond
  · rw [current] at early
    rw [sizes _ early]
    exact h.reached early

theorem Born.publish (h : Born e place birth) (current : e'.current = e.current + 1)
    (sizes : ∀ k ≤ e.current, e'.sizeAt k = e.sizeAt k)
    (reached : place < e'.sizeAt (e.current + 1)) : Born e' place birth := by
  have published := h.published
  refine ⟨by omega, ?_, fun early => ?_⟩
  · rw [sizes _ published]
    exact h.beyond
  · by_cases last : birth = e.current
    · rw [last]
      exact reached
    · rw [sizes _ (by omega)]
      exact h.reached (by omega)

/-- Once a round is over, every place of its pool has been consumed in it. -/
theorem consumed_of_past (fits : p.Fits) (lock : Lockstep p e tr) (kept : Books p e)
    (seen : Visits p e tr) (past : k < e.lap p) (hplace : place < e.sizeAt k) :
    k ∈ consumedIn tr place := by
  obtain ⟨r, hr, mem⟩ := exists_slice (kept.flat k) fits.staffed
    (fun r hr => Sound.slice_ok fits kept hr k) hplace
  have finished := lock.passed_of_length (lock.past k past) hr
  rw [← seen.finished r k finished] at mem
  exact mem_consumedIn.2 ⟨r, mem⟩

/-- A pair that is not consumed in the round in progress is in that round. -/
theorem Chronicle.round_eq (h : Chronicle p tr place birth k roles pair) (born : Born e place birth)
    (fits : p.Fits) (lock : Lockstep p e tr) (kept : Books p e) (seen : Visits p e tr)
    (hplace : place < e.sizeAt (e.lap p)) (pending : e.lap p ∉ consumedIn tr place) :
    k = e.lap p := by
  have size := lock.lap_lt_rounds
  have published : e.lap p ≤ e.current := by
    rw [Engine.current]
    omega
  have since : birth < e.lap p := by
    refine Nat.lt_of_not_le fun later => ?_
    have := kept.sizeAt_mono later born.published
    have := born.beyond
    omega
  rw [h.mem_consumedIn] at pending
  -- It did not stay behind either: a round that is over has consumed every place of its pool.
  have notEarlier : ¬ k < e.lap p := fun early => by
    have hk := h.lt
    have reached := born.reached (by omega)
    have wider : e.sizeAt (birth + 1) ≤ e.sizeAt k := kept.sizeAt_mono hk (by omega)
    have consumed := consumed_of_past fits lock kept seen early (by omega : place < e.sizeAt k)
    exact Nat.lt_irrefl k (h.mem_consumedIn.1 consumed).2
  omega

namespace Chronicles

/-- A step that at most changes the pair at one place. -/
theorem step (h : Chronicles p e tr) (place : Nat) (size : e'.arena.size = e.arena.size)
    (current : e'.current = e.current) (sizes : ∀ k ≤ e.current, e'.sizeAt k = e.sizeAt k)
    (others : ∀ i, i ≠ place → e'.arena[i]? = e.arena[i]? ∧ saga events i = [])
    (inside : place < e.arena.size)
    (own : ∀ pair, e'.arena[place]? = some pair →
      ∃ birth k roles, Chronicle p (tr ++ events) place birth k roles pair ∧ Born e place birth) :
    Chronicles p e' (tr ++ events) := by
  refine ⟨fun i pair found => ?_, fun i hi => ?_⟩
  · by_cases hplace : i = place
    · subst hplace
      obtain ⟨birth, k, roles, chronicle, born⟩ := own pair found
      exact ⟨birth, k, roles, chronicle, born.keep current sizes⟩
    · obtain ⟨same, none⟩ := others i hplace
      rw [same] at found
      obtain ⟨birth, k, roles, chronicle, born⟩ := h.written i pair found
      exact ⟨birth, k, roles, chronicle.idle none, born.keep current sizes⟩
  · rw [size] at hi
    rw [saga_append, h.unwritten i hi, (others i (by omega)).2]
    rfl

/-- A step that changes no pair. -/
theorem plain (h : Chronicles p e tr) (arena : e'.arena = e.arena)
    (current : e'.current = e.current) (sizes : ∀ k ≤ e.current, e'.sizeAt k = e.sizeAt k)
    (none : ∀ i, saga events i = []) : Chronicles p e' (tr ++ events) := by
  refine ⟨fun i pair found => ?_, fun i hi => ?_⟩
  · rw [arena] at found
    obtain ⟨birth, k, roles, chronicle, born⟩ := h.written i pair found
    exact ⟨birth, k, roles, chronicle.idle (none i), born.keep current sizes⟩
  · rw [arena] at hi
    rw [saga_append, h.unwritten i hi, none i]
    rfl

/-- While a role runs its actors, no pair is consumed in its round. -/
theorem not_consumed_of_acting (place : Nat) (lock : Lockstep p e tr) (seen : Visits p e tr)
    (found : e.roles[r]? = some role) (stage : role.phase.stage = 5) :
    role.round ∉ consumedIn tr place := by
  intro consumed
  obtain ⟨i, mem⟩ := mem_consumedIn.1 consumed
  have cleared := seen.cleared i _ place mem
  have departed := lock.cleared i _ cleared r (lock.lt_size found)
  exact lock.not_passed found (by rw [stage]; decide) departed

/-- A pair that is next in a slice is not consumed yet. -/
theorem not_consumed_of_next (kept : Books p e) (seen : Visits p e tr)
    (found : e.roles[r]? = some role) {rest : List Nat}
    (phase : role.phase = .consuming (place :: rest)) : role.round ∉ consumedIn tr place := by
  intro consumed
  obtain ⟨i, mem⟩ := mem_consumedIn.1 consumed
  have consuming := seen.consuming r role _ found phase
  have mine : place ∈ e.slice p r role.round := by
    rw [← consuming]
    simp
  have flat := kept.flat role.round
  obtain rfl := slice_disjoint flat mine ((seen.begun i _).subset mem)
  have distinct := slice_nodup (p := p) flat r
  rw [← consuming] at distinct
  exact List.disjoint_of_nodup_append distinct mem List.mem_cons_self

/-- When a pair is consumed, every actor has played it once. -/
theorem all_played (lock : Lockstep p e tr) (kept : Books p e) (seen : Visits p e tr)
    (found : e.roles[r]? = some role) (stage : role.phase.stage = 9)
    (hplace : place < e.sizeAt role.round)
    (h : Chronicle p tr place birth role.round roles pair) : roles.Perm (List.range p.size) := by
  refine List.perm_iff_count.2 fun i => ?_
  rw [← h.count_actedBy]
  by_cases hi : i < p.size
  · have cleared : .passed r .cleared role.round ∈ tr :=
      lock.passed found (by rw [stage]; decide) (by omega)
    have departed := lock.cleared r _ cleared i hi
    have once : (List.range p.size).count i = 1 :=
      List.count_eq_one_of_mem List.nodup_range (List.mem_range.2 hi)
    rw [seen.departed i _ departed, kept.flat, once]
    exact List.count_eq_one_of_mem List.nodup_range (List.mem_range.2 hplace)
  · have none : actedBy tr i role.round = [] := by
      refine List.eq_nil_iff_forall_not_mem.2 fun x hx => ?_
      exact hi (lock.inside i _ _ (seen.entered i _ x hx)).1
    rw [none, List.count_eq_zero_of_not_mem fun mem => hi (List.mem_range.1 mem)]
    rfl

theorem eq_of_replaced {arena : Array (Pair σ)} {new after : Pair σ}
    (found : (arena.setIfInBounds place new)[place]? = some after) : after = new := by
  rw [Array.getElem?_setIfInBounds, if_pos rfl] at found
  split at found
  case isTrue => exact (Option.some.inj found).symm
  case isFalse => simp at found

/-- The next pool reaches all pairs that exist. -/
theorem store (h : Chronicles p e tr) (lock : Lockstep p e tr) (kept : Books p e)
    (found : e.roles[r]? = some role) {view : View} {stopped : Bool}
    (phase : role.phase = .storing view stopped)
    (rounds : e'.rounds = e.rounds.push (Round.published stopped view p.size))
    (arena : e'.arena = e.arena) (sizes : ∀ k ≤ e.current, e'.sizeAt k = e.sizeAt k) :
    Chronicles p e' (tr ++ [.stored r k]) := by
  have pairs := (kept.drawn view ⟨r, role, found, by rw [phase]; rfl⟩).2.2.2.2
  have published : e.rounds.size = e.current + 1 := by
    have := lock.lap_lt_rounds
    rw [Engine.current]
    omega
  have current : e'.current = e.current + 1 := by
    rw [Engine.current, rounds, Array.size_push, published]
    rfl
  have new : e'.sizeAt (e.current + 1) = view.size := by
    rw [Engine.sizeAt, Engine.roundAt_push rounds, if_pos published.symm]
    rfl
  have none (i : Nat) : saga [(.stored r k : Event ω σ)] i = [] := rfl
  refine ⟨fun place pair hit => ?_, fun place hplace => ?_⟩
  · rw [arena] at hit
    have inside := (Array.getElem?_eq_some_iff.1 hit).1
    obtain ⟨birth, k, roles, chronicle, born⟩ := h.written place pair hit
    refine ⟨birth, k, roles, chronicle.idle (none place), born.publish current sizes ?_⟩
    rw [new, ← pairs]
    exact inside
  · rw [arena] at hplace
    rw [saga_append, h.unwritten place hplace, none]
    rfl

/-- The role that closes a round makes the pairs that the next pool has and the last has not. -/
theorem grow (h : Chronicles p e tr) (lock : Lockstep p e tr)
    (kept : Books p e) (found : e.roles[r]? = some role) (phase : role.phase = .growing)
    {world : ω} {view : View} {arena : Arena σ}
    (grown : e.growth p role = (world, .ok (view, arena))) (hArena : e'.arena = arena)
    (current : e'.current = e.current) (sizes : ∀ k ≤ e.current, e'.sizeAt k = e.sizeAt k) :
    Chronicles p e' (tr ++ .recorded r (role.base / (p.size + 1)) ::
      madeFrom (role.round + 1) e.arena.size (e.added p arena)) := by
  obtain ⟨-, states, made, rfl⟩ := Engine.growth_eq_ok grown
  have round := (lock.growing_current found phase).1
  have pairs := (kept.settled (lock.growing_undrawn found phase)).2.2.2
  have length := length_of_makeStates made
  have added : e.added p (e.arena ++ (states.map (Pair.mk · p.test.blank)).toArray) =
      (worldsOf p.test.fresh states.length e.world).zip (states.map (Pair.mk · p.test.blank)) := by
    simp [Engine.added]
  rw [added]
  generalize hNew : (worldsOf p.test.fresh states.length e.world).zip
    (states.map (Pair.mk · p.test.blank)) = new
  have only (place : Nat) : saga (.recorded r (role.base / (p.size + 1)) ::
      madeFrom (role.round + 1) e.arena.size new : List (Event ω σ)) place =
      saga (madeFrom (role.round + 1) e.arena.size new) place :=
    rfl
  refine ⟨fun place pair hit => ?_, fun place hplace => ?_⟩
  · rw [hArena, Array.getElem?_append] at hit
    split at hit
    case isTrue old =>
      obtain ⟨birth, k, roles, chronicle, born⟩ := h.written place pair hit
      refine ⟨birth, k, roles, chronicle.idle ?_, born.keep current sizes⟩
      rw [only, saga_madeFrom_lt _ old]
    case isFalse beyond =>
      have place_eq : place = e.arena.size + (place - e.arena.size) := by omega
      have hit : (states.map (Pair.mk · p.test.blank))[place - e.arena.size]? = some pair := by
        simpa using hit
      obtain ⟨state, hstate, rfl⟩ := Option.map_eq_some_iff.1 (List.getElem?_map ▸ hit)
      obtain ⟨world, hworld, fresh⟩ := fresh_of_makeStates made hstate
      rw [← length] at hworld
      have mine : new[place - e.arena.size]? = some (world, ⟨state, p.test.blank⟩) := by
        rw [← hNew, List.getElem?_zip_eq_some]
        exact ⟨hworld, hit⟩
      refine ⟨e.current, e.current + 1, [], .born (h.unwritten place (by omega)) ?_ ⟨fresh, rfl⟩,
        ?_⟩
      · rw [only, place_eq, saga_madeFrom, mine, round]
        rfl
      · refine ⟨by omega, ?_, fun early => by omega⟩
        rw [sizes _ (Nat.le_refl _), ← pairs]
        omega
  · rw [hArena, Array.size_append] at hplace
    have place_eq : place = e.arena.size + (place - e.arena.size) := by omega
    have none : new[place - e.arena.size]? = Option.none := by
      refine List.getElem?_eq_none ?_
      simp only [List.size_toArray, List.length_map] at hplace
      rw [← hNew, List.length_zip, List.length_map]
      omega
    rw [saga_append, h.unwritten place (by omega), only, place_eq, saga_madeFrom, none]
    rfl

/-- A role plays a pair in the round that the chronicle of the pair has reached. -/
theorem act (h : Chronicles p e tr) (fits : p.Fits) (lock : Lockstep p e tr) (kept : Books p e)
    (seen : Visits p e tr) (found : e.roles[r]? = some role) {rest : List Nat}
    (phase : role.phase = .acting (place :: rest)) (hit : e.arena[place]? = some pair)
    (sizes : ∀ k ≤ e.current, e'.sizeAt k = e.sizeAt k) (current : e'.current = e.current)
    (arena : e'.arena = e.arena.setIfInBounds place (p.acted r e.world pair)) :
    Chronicles p e' (tr ++ [.acted r role.round place e.world pair]) := by
  have round := lock.holds_lap found (by simp [phase, Phase.stage])
  have reach := seen.acting_lt kept found phase
  have idle := not_consumed_of_acting place lock seen found (congrArg Phase.stage phase)
  obtain ⟨birth, k, roles, chronicle, born⟩ := h.written place pair hit
  rw [round] at reach idle
  have now := chronicle.round_eq born fits lock kept seen reach idle
  refine h.step place ?_ current sizes (fun i hi => ⟨?_, ?_⟩) (Array.getElem?_eq_some_iff.1 hit).1
    fun after renewed => ?_
  · rw [arena, Array.size_setIfInBounds]
  · rw [arena, Array.getElem?_setIfInBounds_ne (Ne.symm hi)]
  · simp [saga, Event.isAt, Event.spot?, Ne.symm hi]
  · rw [arena] at renewed
    rw [eq_of_replaced renewed]
    refine ⟨birth, k, roles ++ [r], chronicle.acted r e.world ?_, born⟩
    rw [round, ← now]
    simp [saga, Event.isAt, Event.spot?]

/-- A role consumes a pair that all roles have played, and another life begins at its place. -/
theorem consume (h : Chronicles p e tr) (fits : p.Fits) (lock : Lockstep p e tr) (kept : Books p e)
    (seen : Visits p e tr) (found : e.roles[r]? = some role) {rest : List Nat}
    (phase : role.phase = .consuming (place :: rest)) (hit : e.arena[place]? = some pair)
    (sizes : ∀ k ≤ e.current, e'.sizeAt k = e.sizeAt k) (current : e'.current = e.current)
    {state : σ} {judged : ω} (made : (p.test.fresh judged).2 = .ok state)
    (judge : judged = (p.test.runArbiter e.world pair.state pair.result).world)
    (arena : e'.arena = e.arena.setIfInBounds place ⟨state, p.test.blank⟩) :
    Chronicles p e' (tr ++ [.consumed r role.round place e.world pair,
      .made (role.round + 1) place judged ⟨state, p.test.blank⟩]) := by
  subst judge
  have round := lock.holds_lap found (by simp [phase, Phase.stage])
  have reach := seen.consuming_lt kept found phase
  have idle := not_consumed_of_next kept seen found phase
  obtain ⟨birth, k, roles, chronicle, born⟩ := h.written place pair hit
  obtain rfl : k = role.round := by
    rw [round] at reach idle ⊢
    exact chronicle.round_eq born fits lock kept seen reach idle
  have all := all_played lock kept seen found (congrArg Phase.stage phase) reach chronicle
  refine h.step place ?_ current sizes (fun i hi => ⟨?_, ?_⟩) (Array.getElem?_eq_some_iff.1 hit).1
    fun after renewed => ?_
  · rw [arena, Array.size_setIfInBounds]
  · rw [arena, Array.getElem?_setIfInBounds_ne (Ne.symm hi)]
  · simp [saga, Event.isAt, Event.spot?, Ne.symm hi]
  · rw [arena] at renewed
    rw [eq_of_replaced renewed]
    refine ⟨birth, _, [], chronicle.consumed r e.world all ⟨made, rfl⟩ ?_, born⟩
    simp [saga, Event.isAt, Event.spot?]

theorem turn (h : Chronicles p e tr) (calm : p.test.Calm) (fits : p.Fits) (lock : Lockstep p e tr)
    (kept : Books p e) (seen : Visits p e tr) (sound : Sound p e tr)
    (found : e.roles[r]? = some role) (step : Engine.Turn p e r role e' events)
    (sound' : Sound p e' (tr ++ events)) : Chronicles p e' (tr ++ events) := by
  have views := step.views
  have sizes (k : Nat) (hk : k ≤ e.current) : e'.sizeAt k = e.sizeAt k := by
    have inside : k < e.rounds.size := by
      have := lock.lap_lt_rounds
      rw [Engine.current] at hk
      omega
    exact congrArg View.size (views k inside)
  have none {event : Event ω σ} (apart : event.spot? = none) (i : Nat) : saga [event] i = [] := by
    simp [saga, Event.isAt, apart]
  have same {e₁ : Engine ω σ} (rounds : e₁.rounds.size = e.rounds.size) :
      e₁.current = e.current := by rw [Engine.current, rounds, Engine.current]
  have dying {role' : Role} {fault : Fault} (roles : e'.roles = e.roles.setIfInBounds r role')
      (phase : role'.phase = .dying fault) : False := by
    have well := sound'.well r role' (roles ▸ (Engine.role_setRole found).2 (.inl ⟨rfl, rfl⟩))
    simp [Role.Well, phase] at well
  cases step with
  | act place rest pair phase hit => exact h.act fits lock kept seen found phase hit sizes rfl rfl
  | consume place rest pair fresh e₁ tally phase hit result renewed =>
      obtain ⟨alike, -, state, made, arena⟩ := sound.consumed calm hit result
      rw [arena] at renewed
      obtain rfl := eq_of_replaced renewed
      exact h.consume fits lock kept seen found phase hit sizes
        (same (congrArg Array.size alike.rounds)) made rfl arena
  | grow world view arena phase grown =>
      exact h.grow lock kept found phase grown rfl rfl sizes
  | store view stopped phase => exact h.store lock kept found phase rfl rfl sizes
  | actBroke | actLost => exact (dying rfl rfl).elim
  | consumeBroke place rest pair e₁ fault phase hit result =>
      exact (dying ((Engine.alike_of_consume result).roles_setRole r _) rfl).elim
  | arrive | enter | depart => exact h.plain rfl (same (Engine.size_onRound ..)) sizes (none rfl)
  | lag => exact h.plain rfl (same (Engine.size_onRound ..)) sizes fun _ => rfl
  | rest => rwa [List.append_nil]
  | _ => exact h.plain rfl rfl sizes (by simp [saga, Event.isAt, Event.spot?])

theorem still (h : Chronicles p e tr) {m : Engine.Move} (outside : ∀ r, m ≠ .role r) :
    Chronicles p (e.apply p m) tr := by
  rw [← List.append_nil tr]
  cases m with
  | role r => exact absurd rfl (outside r)
  | stop => exact h.plain rfl rfl (fun _ _ => rfl) fun _ => rfl
  | abort => exact h.plain rfl rfl (fun _ _ => rfl) fun _ => rfl
  | tick nanos => exact h.plain rfl rfl (fun _ _ => rfl) fun _ => rfl

theorem launch (p : EnginePlan ω σ) (w : ω) : Chronicles p (p.launch w) [] :=
  ⟨fun place pair found => by simp [EnginePlan.launch] at found, fun _ _ => rfl⟩

end Chronicles

end Litmus
