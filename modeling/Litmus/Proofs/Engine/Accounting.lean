import Litmus.Proofs.Engine.Chronicles
import Litmus.Proofs.Engine.Publish
import Litmus.Proofs.Engine.Reports
import Mathlib

/-!
What a run that has ended leaves to its owner: one observation for each pair of the pool in each
round that was run, each of them of a pair that was made ready, played by every actor once and
judged by the arbiter in that round.
-/
namespace Litmus

variable {ω σ : Type} {p : EnginePlan ω σ} {e e' : Engine ω σ} {tr events : List (Event ω σ)}
  {r i k place n : Nat} {role role' : Role}

/-- What a role observed, by its own count. -/
def Engine.tallyOf (e : Engine ω σ) (r : Nat) : Tally Outcome :=
  (e.roles[r]?.map Role.tally).getD .empty

/-! ### Observations by role and by pair -/

theorem sum_countP_filter (q : Observation → Bool) {obs : List Observation}
    (h : ∀ o ∈ obs, o.role < n) :
    ((List.range n).map fun r => (obs.filter (·.role = r)).countP q).sum = obs.countP q := by
  induction n generalizing obs with
  | zero =>
      cases obs with
      | nil => rfl
      | cons o obs => exact absurd (h o List.mem_cons_self) (Nat.not_lt_zero _)
  | succ n ih =>
      have others : ∀ o ∈ obs.filter (·.role ≠ n), o.role < n := by
        intro o ho
        obtain ⟨hmem, hne⟩ := List.mem_filter.1 ho
        have := h o hmem
        have : o.role ≠ n := by simpa using hne
        omega
      have same : (List.range n).map (fun r => (obs.filter (·.role = r)).countP q) =
          (List.range n).map fun r =>
            ((obs.filter (·.role ≠ n)).filter (·.role = r)).countP q := by
        refine List.map_congr_left fun r hr => ?_
        rw [List.filter_filter]
        congr 2
        funext o
        have := List.mem_range.1 hr
        by_cases ho : o.role = r
        · simp [ho, Nat.ne_of_lt this]
        · simp [ho]
      rw [List.range_succ, List.map_append, List.sum_append, same, ih others,
        List.countP_eq_countP_filter_add obs q fun o => decide (o.role ≠ n)]
      simp

theorem count_observed (tr : List (Event ω σ)) (k place : Nat) :
    ((observed p tr).map fun o => (o.round, o.place)).count (k, place) =
      (consumedIn tr place).count k := by
  induction tr with
  | nil => rfl
  | cons event tr ih =>
      rw [← List.singleton_append, observed_append, consumedIn_append, List.map_append,
        List.count_append, List.count_append, ih]
      congr 1
      cases event with
      | consumed r j x world pair =>
          by_cases hx : x = place
          · simp [observed, consumedIn, List.count_singleton, hx]
          · simp [observed, consumedIn, hx]
      | _ => rfl

/-! ### Runs that end -/

/-- What holds throughout a run in which nothing breaks off. -/
structure Clean (p : EnginePlan ω σ) (e : Engine ω σ) (tr : List (Event ω σ)) : Prop where
  lock : Lockstep p e tr
  kept : Books p e
  seen : Visits p e tr
  gone : Departures e tr
  sound : Sound p e tr
  chronicles : Chronicles p e tr
  reports : Reports e

/-- Calm bodies on a pool that fits give a clean run, as long as it is not aborted and what it
observes can be counted. -/
theorem clean (calm : p.test.Calm) (fits : p.Fits) (w : ω) {ms : List Engine.Move}
    (kept : .abort ∉ ms)
    (room : (observed p ((p.launch w).trace p ms)).length < Word.bound) :
    Clean p ((p.launch w).run p ms) ((p.launch w).trace p ms) := by
  have held := Engine.turn_invariant (p := p)
    (P := fun e tr => Lockstep p e tr ∧ Books p e ∧ Visits p e tr ∧
      ((observed p tr).length < Word.bound → Sound p e tr ∧ Chronicles p e tr ∧ Reports e))
    ⟨.launch p w, .launch p w, .launch p w, fun _ => ⟨.launch p w, .launch p w, .launch p w⟩⟩ ms
    ?_ ?_
  · obtain ⟨lock, books, seen, rest⟩ := held
    obtain ⟨sound, chronicles, reports⟩ := rest room
    exact ⟨lock, books, seen, departures p w ms, sound, chronicles, reports⟩
  · intro e tr r role e' events ⟨lock, books, seen, rest⟩ found step
    refine ⟨lock.turn found step, books.turn lock found step, seen.turn lock found step, ?_⟩
    intro room
    have earlier : (observed p tr).length < Word.bound := by
      rw [observed_append, List.length_append] at room
      omega
    obtain ⟨sound, chronicles, reports⟩ := rest earlier
    have sound' := sound.turn calm fits lock books seen found step room
    exact ⟨sound', chronicles.turn calm fits lock books seen sound found step sound',
      reports.turn sound found step⟩
  · intro m hm outside e tr ⟨lock, books, seen, rest⟩
    refine ⟨lock.still outside, books.still outside, seen.still outside, fun room => ?_⟩
    obtain ⟨sound, chronicles, reports⟩ := rest room
    exact ⟨sound.still outside fun abort => kept (abort ▸ hm), chronicles.still outside,
      reports.still outside⟩

/-- The rounds that were run are those that are over, and each of their pairs was observed once,
at the end of its life in that round. An observation is what the arbiter left in the slots of a
pair, and the life ends with the call of the arbiter. -/
structure Accounted (p : EnginePlan ω σ) (e : Engine ω σ) (tr : List (Event ω σ))
    (merged : Tally Outcome) : Prop where
  rounds : ∀ k, (∃ r mark, .passed r mark k ∈ tr) ↔ k < e.current
  ended : (e.roundAt e.current).stopped = true
  first : e.sizeAt 0 = 0
  once : ((observed p tr).map fun o => (o.round, o.place)).Perm
    ((List.range e.current).flatMap fun k => (List.range (e.sizeAt k)).map fun place => (k, place))
  counts : ∀ outcome, merged.count outcome = ((observed p tr).map (·.outcome)).count outcome
  total : merged.total = .ok ((List.range e.current).map e.sizeAt).sum
  lives : ∀ k < e.current, ∀ place < e.sizeAt k, Life p k place (story tr k place)

namespace Clean

/-- When all have reported, the reports are those of all roles. -/
theorem reports_perm (h : Clean p e tr) (all : p.allReported e = true) :
    (e.exits.toList.map Exit.role).Perm (List.range p.size) := by
  have subset : e.exits.toList.map Exit.role ⊆ List.range p.size := by
    intro r hr
    obtain ⟨exit, hexit, rfl⟩ := List.mem_map.1 hr
    obtain ⟨role, found, -⟩ := h.reports.gone exit hexit
    exact List.mem_range.2 (h.lock.lt_size found)
  have size : e.exits.size = p.size := of_decide_eq_true all
  refine (h.reports.distinct.subperm subset).perm_of_length_le ?_
  simp [size]

/-- When all have reported, every role is gone, after it left the last round. -/
theorem role_gone (h : Clean p e tr) (all : p.allReported e = true)
    (found : e.roles[r]? = some role) : role.phase = .gone ∧ ∃ k, .left r k ∈ tr := by
  have mem := (h.reports_perm all).mem_iff.2 (List.mem_range.2 (h.lock.lt_size found))
  obtain ⟨exit, hexit, rfl⟩ := List.mem_map.1 mem
  obtain ⟨x, hx, gone, -⟩ := h.reports.gone exit hexit
  obtain rfl : role = x := Option.some.inj (found.symm.trans hx)
  refine ⟨gone, ?_⟩
  rcases h.gone.out exit.role role found (by rw [gone]; rfl) with left | gave | broke | dies
  · exact left
  · exact absurd gave (h.sound.quiet _).1
  · exact absurd broke (h.sound.quiet _).2
  · obtain ⟨fault, phase⟩ := dies
    simp [gone] at phase

/-- When all have reported, all rounds but the current one are over, and that one is stopped. -/
theorem last_stopped (h : Clean p e tr) (fits : p.Fits) (all : p.allReported e = true) :
    (e.roundAt e.current).stopped = true ∧ e.lap p = e.current := by
  obtain ⟨role, found⟩ := h.lock.exists_role fits.staffed
  obtain ⟨-, k, left⟩ := h.role_gone all found
  have stopped := h.gone.left 0 k left
  have last := h.lock.stoppedLast k stopped
  -- A role that has published the next round still has to open the barrier.
  have unready : ¬ e.Ready := by
    rintro ⟨r, x, hx, stage⟩
    rw [(h.role_gone all hx).1] at stage
    simp [Phase.stage] at stage
  refine ⟨?_, (h.lock.current_eq_lap unready).symm⟩
  rwa [Engine.current, ← last]

theorem rounds_iff (h : Clean p e tr) (fits : p.Fits) (all : p.allReported e = true) (k : Nat) :
    (∃ r mark, .passed r mark k ∈ tr) ↔ k < e.current := by
  obtain ⟨stopped, lap⟩ := h.last_stopped fits all
  constructor
  · rintro ⟨r, mark, passed⟩
    have upto := (h.lock.inside r mark k passed).2
    have running := h.lock.running r mark k passed
    refine Nat.lt_of_le_of_ne (lap ▸ upto) fun heq => ?_
    rw [heq, stopped] at running
    simp at running
  · intro hk
    exact ⟨0, .finished, h.lock.passed_of_length (h.lock.past k (lap ▸ hk)) fits.staffed⟩

theorem consumedIn_nodup (h : Clean p e tr) (place : Nat) : (consumedIn tr place).Nodup := by
  cases Nat.lt_or_ge place e.arena.size with
  | inl inside =>
      obtain ⟨birth, k, roles, chronicle, -⟩ :=
        h.chronicles.written place _ (Array.getElem?_eq_getElem inside)
      rw [chronicle.consumedIn_eq]
      exact List.nodup_range' ..
  | inr beyond =>
      rw [← consumedIn_saga, h.chronicles.unwritten place beyond]
      exact List.nodup_nil

theorem mem_consumedIn_iff (h : Clean p e tr) (fits : p.Fits) (all : p.allReported e = true)
    (k place : Nat) : k ∈ consumedIn tr place ↔ k < e.current ∧ place < e.sizeAt k := by
  obtain ⟨-, lap⟩ := h.last_stopped fits all
  constructor
  · intro consumed
    obtain ⟨r, mem⟩ := mem_consumedIn.1 consumed
    have cleared := h.seen.cleared r k place mem
    have mine := (h.seen.begun r k).subset mem
    exact ⟨(h.rounds_iff fits all k).1 ⟨r, .cleared, cleared⟩,
      (slice_bounds (h.kept.flat k) mine).2.2⟩
  · rintro ⟨past, reached⟩
    exact consumed_of_past fits h.lock h.kept h.seen (lap ▸ past) reached

/-- Each pair of each round that was run is observed once. -/
theorem observed_perm (h : Clean p e tr) (fits : p.Fits) (all : p.allReported e = true) :
    ((observed p tr).map fun o => (o.round, o.place)).Perm
      ((List.range e.current).flatMap fun k =>
        (List.range (e.sizeAt k)).map fun place => (k, place)) := by
  refine (List.perm_ext_iff_of_nodup ?_ ?_).2 ?_
  · refine List.nodup_iff_count_le_one.2 fun spot => ?_
    obtain ⟨k, place⟩ := spot
    rw [count_observed]
    exact List.nodup_iff_count_le_one.1 (h.consumedIn_nodup place) k
  · refine List.nodup_flatMap.2 ⟨fun k _ => ?_, ?_⟩
    · exact List.nodup_range.map fun a b heq => congrArg Prod.snd heq
    · refine List.nodup_range.imp fun hne x hx hx' => ?_
      obtain ⟨a, -, rfl⟩ := List.mem_map.1 hx
      obtain ⟨b, -, heq⟩ := List.mem_map.1 hx'
      exact hne (congrArg Prod.fst heq).symm
  · rintro ⟨k, place⟩
    rw [← List.count_pos_iff, count_observed, List.count_pos_iff, h.mem_consumedIn_iff fits all]
    simp

theorem life (h : Clean p e tr) (fits : p.Fits) (all : p.allReported e = true)
    (past : k < e.current) (reached : place < e.sizeAt k) : Life p k place (story tr k place) := by
  have inside := Nat.lt_of_lt_of_le reached (h.kept.sizeAt_le_arena (Nat.le_of_lt past))
  obtain ⟨birth, last, roles, chronicle, -⟩ :=
    h.chronicles.written place _ (Array.getElem?_eq_getElem inside)
  have consumed := (h.mem_consumedIn_iff fits all k place).2 ⟨past, reached⟩
  obtain ⟨since, upto⟩ := chronicle.mem_consumedIn.1 consumed
  exact chronicle.life since upto

theorem role_lt_of_observed (h : Clean p e tr) {o : Observation} (ho : o ∈ observed p tr) :
    o.role < p.size := by
  obtain ⟨event, hevent, heq⟩ := List.mem_filterMap.1 ho
  cases event with
  | consumed r k place world pair =>
      obtain rfl := Option.some.inj heq
      have mem : place ∈ consumedBy tr r k := mem_consumedBy.2 ⟨world, pair, hevent⟩
      exact (h.lock.inside r _ k (h.seen.cleared r k place mem)).1
  | _ => simp at heq

theorem tally_counts (h : Clean p e tr) (hr : r < p.size) :
    (e.tallyOf r).Counts (observedBy p tr r) := by
  obtain ⟨role, found⟩ := h.lock.exists_role hr
  rw [Engine.tallyOf, found]
  exact h.sound.counts r role found

/-- The tallies of all roles hold all observations. -/
theorem sum_weights (h : Clean p e tr) :
    (((List.range p.size).map e.tallyOf).map Tally.weight).sum = (observed p tr).length := by
  have weights : ((List.range p.size).map e.tallyOf).map Tally.weight =
      (List.range p.size).map fun r =>
        ((observed p tr).filter (·.role = r)).countP fun _ => true := by
    rw [List.map_map]
    refine List.map_congr_left fun r hr => ?_
    rw [Function.comp_apply, (h.tally_counts (List.mem_range.1 hr)).weight, observedBy,
      List.length_map, List.countP_true]
  rw [weights, sum_countP_filter _ fun o => h.role_lt_of_observed, List.countP_true]

theorem sum_counts (h : Clean p e tr) (outcome : Outcome) :
    (((List.range p.size).map e.tallyOf).map fun t => t.count outcome).sum =
      ((observed p tr).map (·.outcome)).count outcome := by
  have counts : ((List.range p.size).map e.tallyOf).map (fun t => t.count outcome) =
      (List.range p.size).map fun r =>
        ((observed p tr).filter (·.role = r)).countP ((· == outcome) ∘ (·.outcome)) := by
    rw [List.map_map]
    refine List.map_congr_left fun r hr => ?_
    rw [Function.comp_apply, (h.tally_counts (List.mem_range.1 hr)).count, observedBy,
      List.count, List.countP_map]
  rw [counts, sum_countP_filter _ fun o => h.role_lt_of_observed, List.count, List.countP_map]

/-- When all have reported, joining gives the tally of all observations. -/
theorem join_eq (h : Clean p e tr) (all : p.allReported e = true)
    (room : (observed p tr).length < Word.bound) :
    ∃ merged, p.join e = .merged merged ∧ merged.weight = (observed p tr).length ∧
      ∀ outcome, merged.count outcome = ((observed p tr).map (·.outcome)).count outcome := by
  have fits : (Tally.empty : Tally Outcome).weight +
      (((List.range p.size).map e.tallyOf).map Tally.weight).sum < Word.bound := by
    rw [h.sum_weights]
    exact Nat.lt_of_le_of_lt (Nat.le_of_eq (Nat.zero_add _)) room
  have distinct : ∀ t ∈ (List.range p.size).map e.tallyOf, t.Distinct := by
    intro t ht
    obtain ⟨r, hr, rfl⟩ := List.mem_map.1 ht
    exact (h.tally_counts (List.mem_range.1 hr)).distinct
  obtain ⟨merged, merges, weight, counts⟩ := Tally.foldlM_merge distinct fits
  have size : (p.test.actors.map Actor.name).length = p.size := List.length_map ..
  have reported : ∀ exit ∈ e.exits.toList, exit.result = .ok (e.tallyOf exit.role) := by
    intro exit hexit
    obtain ⟨role, found, -, result⟩ := h.reports.gone exit hexit
    rw [result, Engine.tallyOf, found]
    rfl
  refine ⟨merged, ?_, ?_, fun outcome => ?_⟩
  · refine Joining.collect_eq_merged reported ?_ ?_
    · rw [size]
      exact h.reports_perm all
    · rw [size]
      exact merges
  · rw [weight, h.sum_weights]
    exact Nat.zero_add _
  · rw [counts, h.sum_counts]
    exact Nat.zero_add _

end Clean

/-- A run of calm bodies that has ended is accounted for: joining it gives the tally of one
observation for each pair of each round that was run. -/
theorem run_accounted (p : EnginePlan ω σ) (calm : p.test.Calm) (fits : p.Fits) (w : ω)
    (ms : List Engine.Move) (kept : .abort ∉ ms)
    (room : (observed p ((p.launch w).trace p ms)).length < Word.bound)
    (ended : p.allReported ((p.launch w).run p ms) = true) :
    ∃ merged, p.join ((p.launch w).run p ms) = .merged merged ∧
      Accounted p ((p.launch w).run p ms) ((p.launch w).trace p ms) merged := by
  have h := clean calm fits w kept room
  obtain ⟨merged, joined, weight, counts⟩ := h.join_eq ended room
  have once := h.observed_perm fits ended
  have total : merged.weight =
      ((List.range ((p.launch w).run p ms).current).map ((p.launch w).run p ms).sizeAt).sum := by
    have length := once.length_eq
    rw [List.length_map] at length
    rw [weight, length, List.length_flatMap]
    simp only [List.length_map, List.length_range]
  refine ⟨merged, joined, h.rounds_iff fits ended, (h.last_stopped fits ended).1, h.kept.first,
    once, counts, ?_, fun k hk place hplace => h.life fits ended hk hplace⟩
  rw [← total]
  exact Tally.total_ok (weight ▸ room)

theorem counter_calm {slots slot : Nat} : Body.Calm slots (counter slot) := by
  intro world state result length
  refine ⟨rfl, ?_⟩
  change (result.values.set slot (.ofNat (state + 1))).length = slots
  rw [List.length_set, length]

theorem counting_calm : counting.test.Calm := by
  refine ⟨?_, ?_, fun world => ⟨world, 0, rfl⟩⟩
  · intro actor hactor
    rcases List.mem_pair.1 hactor with rfl | rfl
    · exact counter_calm
    · exact counter_calm
  · intro body none
    cases none

theorem counting_fits : counting.Fits := by
  refine ⟨by decide, by decide, by decide, fun pairs _ few => Memory.ofSize_eq_given.2 ?_⟩
  have : pairs * 24 ≤ 2 * 24 := Nat.mul_le_mul_right 24 few
  exact ⟨Nat.lt_of_le_of_lt this (by decide), this⟩

theorem run_accounted_counting :
    counting.test.Calm ∧ counting.Fits ∧ .abort ∉ countingMoves ∧
      (observed counting ((counting.launch ()).trace counting countingMoves)).length <
        Word.bound ∧
      counting.allReported ((counting.launch ()).run counting countingMoves) = true ∧
      ∃ merged, counting.join ((counting.launch ()).run counting countingMoves) =
          .merged merged ∧
        Accounted counting ((counting.launch ()).run counting countingMoves)
          ((counting.launch ()).trace counting countingMoves) merged := by
  have kept : .abort ∉ countingMoves := by decide
  have room : (observed counting ((counting.launch ()).trace counting countingMoves)).length <
      Word.bound := by
    have two : (observed counting ((counting.launch ()).trace counting countingMoves)).length =
        2 := by cbv
    rw [two]
    decide
  have ended : counting.allReported ((counting.launch ()).run counting countingMoves) = true := by
    cbv
  exact ⟨counting_calm, counting_fits, kept, room, ended,
    run_accounted counting counting_calm counting_fits () countingMoves kept room ended⟩

end Litmus
