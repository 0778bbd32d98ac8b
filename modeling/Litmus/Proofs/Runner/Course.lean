import Litmus.Proofs.Runner.Containment
import Litmus.Proofs.Runner.Rendering

/-!
The course of a run. Its iterations go on until one fails, the work is cancelled or all are done;
its result counts those that ended well, and adds up what the trial and they observed. Nothing else
is in it, and it is normal exactly if none failed.
-/
namespace Litmus

open Scheduler

variable {ω σ : Type} {others : Others ω} {engine : Iterate ω} {c : Class} {g : Grant}
  {b late : Bench ω} {fault : Fault}

/-- What an iteration that ended well observed. -/
def IterationEnd.tally? : IterationEnd → Option (Tally Outcome)
  | .joined tally => some tally
  | _ => none

def tallies (ends : List IterationEnd) : List (Tally Outcome) :=
  ends.filterMap IterationEnd.tally?

@[simp] theorem tallies_joined (tally : Tally Outcome) (ends : List IterationEnd) :
    tallies (.joined tally :: ends) = tally :: tallies ends :=
  rfl

theorem tallies_cons (e : IterationEnd) (ends : List IterationEnd) :
    tallies (e :: ends) = tallies [e] ++ tallies ends :=
  List.filterMap_append (l := [e])

/-- How the iterations end, if up to `left` more of them follow `done` that ended well. The first
that fails is the last, and none follows a cancellation. -/
inductive Course (others : Others ω) (engine : Iterate ω) :
    (left done : Nat) → Bench ω → List IterationEnd → Prop where
  | finished {done : Nat} {b : Bench ω} : Course others engine 0 done b []
  | cancelled {left done : Nat} {b : Bench ω}
      (stopped : (others.beforeIteration done b).cancelled = true) :
      Course others engine (left + 1) done b []
  | failed {left done : Nat} {b late : Bench ω} {e : IterationEnd}
      (going : (others.beforeIteration done b).cancelled = false)
      (ended : engine (others.beforeIteration done b) = (late, e)) (fails : e.tally? = none) :
      Course others engine (left + 1) done b [e]
  | joined {left done : Nat} {b late : Bench ω} {tally : Tally Outcome} {es : List IterationEnd}
      (going : (others.beforeIteration done b).cancelled = false)
      (ended : engine (others.beforeIteration done b) = (late, .joined tally))
      (rest : Course others engine left (done + 1) late es) :
      Course others engine (left + 1) done b (.joined tally :: es)

theorem exists_course (others : Others ω) (engine : Iterate ω) (left done : Nat) (b : Bench ω) :
    ∃ ends, Course others engine left done b ends := by
  induction left generalizing done b with
  | zero => exact ⟨[], .finished⟩
  | succ left ih =>
      cases stopped : (others.beforeIteration done b).cancelled with
      | true => exact ⟨[], .cancelled stopped⟩
      | false =>
          cases ended : engine (others.beforeIteration done b) with
          | mk late e =>
              cases e with
              | joined tally =>
                  obtain ⟨es, rest⟩ := ih (done + 1) late
                  exact ⟨_, .joined stopped ended rest⟩
              | notStarted cause | failed cause allExited | broken fault =>
                  exact ⟨_, .failed stopped ended rfl⟩

/-- From one bench the iterations end in one way. -/
theorem Course.unique {left done : Nat} {ends ends' : List IterationEnd}
    (h : Course others engine left done b ends) (h' : Course others engine left done b ends') :
    ends = ends' := by
  induction h generalizing ends' with
  | finished =>
      cases h'
      rfl
  | cancelled stopped =>
      cases h' with
      | cancelled => rfl
      | failed going | joined going => simp [stopped] at going
  | failed going ended fails =>
      cases h' with
      | cancelled stopped => simp [going] at stopped
      | failed _ ended' =>
          obtain ⟨-, rfl⟩ := Prod.mk.inj (ended.symm.trans ended')
          rfl
      | joined _ ended' =>
          obtain ⟨-, rfl⟩ := Prod.mk.inj (ended.symm.trans ended')
          cases fails
  | joined going ended rest ih =>
      cases h' with
      | cancelled stopped => simp [going] at stopped
      | failed _ ended' fails =>
          obtain ⟨-, rfl⟩ := Prod.mk.inj (ended.symm.trans ended')
          cases fails
      | joined _ ended' rest' =>
          obtain ⟨rfl, same⟩ := Prod.mk.inj (ended.symm.trans ended')
          obtain rfl := IterationEnd.joined.inj same
          rw [ih rest']

/-! ### What iterations add up to -/

namespace Progress

variable {p p' q : Progress} {e : IterationEnd} {tally : Tally Outcome} {ends : List IterationEnd}

/-- What the end of an iteration makes of the progress. -/
def take (p : Progress) : IterationEnd → Except Fault Progress
  | .notStarted cause => .ok (p.unstarted cause)
  | .joined tally => p.counted tally
  | .failed cause allExited => .ok (p.failed cause allExited)
  | .broken fault => .error fault

theorem note_nil (p : Progress) : p.note [] = p := by
  simp [note]

theorem note_note (p : Progress) (first second : List String) :
    (p.note first).note second = p.note (first ++ second) := by
  simp [note]

theorem counted_eq_ok (h : p.counted tally = .ok p') : ∃ results,
    p.results.merge tally = .ok results ∧
      p' = { p with results, iterations := p.iterations + 1 } := by
  unfold counted at h
  cases merged : p.results.merge tally with
  | error fault => simp [merged, Except.map] at h
  | ok results => exact ⟨results, rfl, by simpa [merged, Except.map] using h.symm⟩

/-- What iterations that ended in some ways add to the progress of a run. -/
structure Adds (ends : List IterationEnd) (p p' : Progress) : Prop where
  iterations : p'.iterations = p.iterations + (tallies ends).length
  well : p'.results.WellFormed
  counts : ∀ o, p'.results.count o = p.results.count o + ((tallies ends).map (·.count o)).sum
  weight : p'.results.weight = p.results.weight + ((tallies ends).map Tally.weight).sum
  normal : p'.status = .normal ↔ p.status = .normal ∧ ∀ e ∈ ends, ∃ tally, e = .joined tally

theorem Adds.nil (well : p.results.WellFormed) : Adds [] p p :=
  ⟨rfl, well, fun _ => rfl, rfl, by simp⟩

theorem Adds.cons (first : Adds [e] p p') (rest : Adds ends p' q) : Adds (e :: ends) p q := by
  refine ⟨?_, rest.well, fun o => ?_, ?_, ?_⟩
  · rw [rest.iterations, first.iterations, tallies_cons e ends, List.length_append, Nat.add_assoc]
  · rw [rest.counts, first.counts, tallies_cons e ends, List.map_append, List.sum_append,
      Nat.add_assoc]
  · rw [rest.weight, first.weight, tallies_cons e ends, List.map_append, List.sum_append,
      Nat.add_assoc]
  · rw [rest.normal, first.normal, List.forall_mem_singleton, List.forall_mem_cons, and_assoc]

/-- A failed iteration leaves what was counted before it, and a status of its own. -/
theorem Adds.failed (fails : e.tally? = none) (well : p.results.WellFormed)
    (results : p'.results = p.results) (iterations : p'.iterations = p.iterations)
    (status : p'.status ≠ .normal) : Adds [e] p p' := by
  have none : tallies [e] = [] := by simp [tallies, fails]
  refine ⟨?_, results ▸ well, fun o => ?_, ?_, ?_⟩
  · rw [iterations, none]
    rfl
  · rw [results, none]
    rfl
  · rw [results, none]
    rfl
  · refine iff_of_false status fun ⟨_, all⟩ => ?_
    obtain ⟨tally, rfl⟩ := all e (List.mem_singleton_self e)
    exact nomatch fails

theorem adds_take (well : p.results.WellFormed) (made : ∀ tally ∈ tallies [e], tally.WellFormed)
    (taken : p.take e = .ok p') : Adds [e] p p' := by
  cases e with
  | broken fault => exact nomatch taken
  | notStarted cause =>
      obtain rfl := Except.ok.inj taken
      exact .failed rfl well rfl rfl (by simp [unstarted, note])
  | failed cause allExited =>
      obtain rfl := Except.ok.inj taken
      refine .failed rfl well ?_ ?_ (Runner.status_failed p cause allExited)
      all_goals
        unfold Progress.failed
        split <;> rfl
  | joined tally =>
      obtain ⟨results, merged, rfl⟩ := counted_eq_ok taken
      obtain ⟨well', counts⟩ :=
        (merged ▸ Tally.yields_merge well (made tally List.mem_cons_self)).of_ok
      refine ⟨rfl, well', fun o => ?_, ?_, ?_⟩
      · rw [counts, tallies_joined, List.map_cons, List.sum_cons]
        rfl
      · rw [Tally.weight_merge merged, tallies_joined, List.map_cons, List.sum_cons]
        rfl
      · rw [List.forall_mem_singleton]
        exact (and_iff_left ⟨tally, rfl⟩).symm

theorem adds_foldlM (well : p.results.WellFormed) (made : ∀ tally ∈ tallies ends, tally.WellFormed)
    (taken : ends.foldlM take p = .ok q) : Adds ends p q := by
  induction ends generalizing p with
  | nil =>
      obtain rfl := Except.ok.inj taken
      exact .nil well
  | cons e ends ih =>
      obtain ⟨first, others⟩ := List.forall_mem_append.1 (tallies_cons e ends ▸ made)
      rw [List.foldlM_cons] at taken
      cases step : p.take e with
      | error fault => simp [step, bind, Except.bind] at taken
      | ok p' =>
          rw [step] at taken
          have adds := adds_take well first step
          exact adds.cons (ih adds.well others taken)

/-- Only an engine that breaks off ends the counting early, if all that is observed is a count. -/
theorem foldlM_take_ok (whole : ∀ fault, .broken fault ∉ ends) (well : p.results.WellFormed)
    (made : ∀ tally ∈ tallies ends, tally.WellFormed)
    (fits : p.results.weight + ((tallies ends).map Tally.weight).sum < Word.bound) :
    ∃ q, ends.foldlM take p = .ok q := by
  induction ends generalizing p with
  | nil => exact ⟨p, rfl⟩
  | cons e ends ih =>
      obtain ⟨first, others⟩ := List.forall_mem_append.1 (tallies_cons e ends ▸ made)
      rw [tallies_cons e ends, List.map_append, List.sum_append, ← Nat.add_assoc] at fits
      obtain ⟨p', step⟩ : ∃ p', p.take e = .ok p' := by
        cases e with
        | broken fault => exact absurd List.mem_cons_self (whole fault)
        | notStarted cause => exact ⟨_, rfl⟩
        | failed cause allExited => exact ⟨_, rfl⟩
        | joined tally =>
            have small := Nat.lt_of_le_of_lt (Nat.le_add_right _ _) fits
            obtain ⟨results, merged, -⟩ := Tally.merge_ok (a := p.results)
              (first tally List.mem_cons_self).distinct small
            rw [take, counted, merged]
            exact ⟨_, rfl⟩
      have adds := adds_take well first step
      rw [List.foldlM_cons, step]
      exact ih (fun fault mem => whole fault (List.mem_cons_of_mem _ mem)) adds.well others
        (adds.weight ▸ fits)

end Progress

namespace Runner

variable {p : Progress} {left : Nat} {ends : List IterationEnd}

/-- The iterations take the ends of their course one after the other; a cancellation adds a message
and nothing else. -/
theorem iterate_course (course : Course others engine left p.iterations b ends) : ∃ messages,
    (iterate others engine left p b).2 =
      (ends.foldlM Progress.take p).map (·.note messages) := by
  generalize start : p.iterations = done at course
  induction course generalizing p with
  | finished => exact ⟨[], congrArg Except.ok p.note_nil.symm⟩
  | cancelled stopped =>
      rw [← start] at stopped
      rw [iterate, if_pos stopped]
      exact ⟨_, rfl⟩
  | @failed _ _ _ late e going ended fails =>
      rw [← start] at going ended
      rw [iterate, if_neg (by simp [going])]
      simp only [ended]
      refine ⟨[], ?_⟩
      cases e with
      | joined tally => cases fails
      | broken fault => rfl
      | notStarted cause => exact congrArg Except.ok (Progress.note_nil _).symm
      | failed cause allExited => exact congrArg Except.ok (Progress.note_nil _).symm
  | @joined _ _ _ late tally es going ended rest ih =>
      rw [← start] at going ended
      rw [iterate, if_neg (by simp [going])]
      simp only [ended, List.foldlM_cons, Progress.take]
      cases counted : p.counted tally with
      | error fault => exact ⟨[], rfl⟩
      | ok p' =>
          obtain ⟨results, -, rfl⟩ := Progress.counted_eq_ok counted
          exact ih (by rw [start])

/-! ### The result -/

variable {r : Runner} {t : StressTest ω σ} {range : StrideRange} {result : TestResult}

theorem conclude_eq_done {result' : TestResult} (h : (conclude result' b).2 = .done result) :
    result = result' := by
  unfold conclude at h
  cases logged : result'.log with
  | error fault => simp [logged] at h
  | ok log => simpa [logged] using h.symm

theorem conclude_of_samples {n : Nat} (h : result.samples = .ok n) :
    (conclude result b).2 = .done result := by
  have logged : ∃ log, result.log = .ok log := by
    unfold TestResult.log
    rw [h]
    split <;> exact ⟨_, rfl⟩
  obtain ⟨log, logged⟩ := logged
  rw [conclude, logged]

theorem settle_note (g : Grant) (p : Progress) (b : Bench ω) :
    ∃ messages, (settle g p b).2.1 = p.note messages := by
  unfold settle
  split
  · exact ⟨_, rfl⟩
  · exact ⟨[], p.note_nil.symm⟩

/-- A result is reported from the progress of its iterations, to which handing the placement back
may add a message. -/
theorem close_eq_done {iterated : Except Fault Progress}
    (h : (close t c range g iterated b).2 = .done result) : ∃ p messages,
      iterated = .ok p ∧ result = report t c g range (p.note messages) := by
  cases iterated with
  | error fault => simp [close] at h
  | ok p =>
      obtain ⟨messages, noted⟩ := settle_note g p b
      rw [close] at h
      generalize settle g p b = settled at h noted
      obtain ⟨b', p', fault⟩ := settled
      obtain rfl : p' = p.note messages := noted
      cases fault with
      | some fault => simp at h
      | none => exact ⟨p, messages, rfl, conclude_eq_done h⟩

/-- A result that sums up what the trial observed and how the iterations ended. -/
structure SumsUp (o : Outcome) (ends : List IterationEnd) (result : TestResult) : Prop where
  iterations : result.iterations = (tallies ends).length
  states : Renders (fun o' => (if o' = o then 1 else 0) + ((tallies ends).map (·.count o')).sum)
    result.states
  normal : result.status = .normal ↔ ∀ e ∈ ends, ∃ tally, e = .joined tally
  failed : result.status ≠ .normal → result.grading.verdict = .failed

/-- The progress of a run after its trial. -/
def begun (o : Outcome) : Progress := { results := ⟨[(o, 1)]⟩ }

theorem wellFormed_begun (o : Outcome) : (begun o).results.WellFormed :=
  ⟨List.nodup_singleton o, by simp [begun], by simp [begun, Word.bound]⟩

theorem sumsUp_report {o : Outcome} {p : Progress} (adds : (begun o).Adds ends p)
    (messages : List String) : SumsUp o ends (report t c g range (p.note messages)) where
  iterations := adds.iterations.trans (Nat.zero_add _)
  states := by
    have seen : p.results.count =
        fun o' => (if o' = o then 1 else 0) + ((tallies ends).map (·.count o')).sum := by
      funext o'
      rw [adds.counts]
      exact congrArg (· + _) (if_congr eq_comm rfl rfl)
    exact seen ▸ adds.well.renders
  normal := adds.normal.trans (and_iff_right rfl)
  failed failing := by
    change Grading.verdictOf p.status _ = .failed
    rw [Grading.verdictOf, if_pos]
    simpa using .inl failing

theorem samples_report (t : StressTest ω σ) (c : Class) (g : Grant) (range : StrideRange)
    {o : Outcome} {p : Progress} (adds : (begun o).Adds ends p) (messages : List String)
    (fits : 1 + ((tallies ends).map Tally.weight).sum < Word.bound) :
    (report t c g range (p.note messages)).samples =
      .ok (1 + ((tallies ends).map Tally.weight).sum) := by
  have weight : p.results.weight = 1 + ((tallies ends).map Tally.weight).sum := adds.weight
  change Word.sum ((render p.results).map (·.2)) = _
  rw [Tally.sum_render, Tally.total_ok (weight ▸ fits), weight]

section Closing

variable {o : Outcome} {messages : List String}

theorem sumsUp_of_close (well : ∀ tally ∈ tallies ends, tally.WellFormed)
    (h : (close t c range g ((ends.foldlM Progress.take (begun o)).map (·.note messages)) b).2 =
      .done result) : SumsUp o ends result := by
  obtain ⟨p, more, iterated, rfl⟩ := close_eq_done h
  cases taken : ends.foldlM Progress.take (begun o) with
  | error fault => simp [taken, Except.map] at iterated
  | ok q =>
      obtain rfl : q.note messages = p := by simpa [taken, Except.map] using iterated
      rw [Progress.note_note]
      exact sumsUp_report (Progress.adds_foldlM (wellFormed_begun o) well taken) _

theorem exists_done_of_close (well : ∀ tally ∈ tallies ends, tally.WellFormed)
    (balanced : b.scheduler.Balanced) (holds : b.scheduler.Holds g)
    (whole : ∀ fault, .broken fault ∉ ends)
    (fits : 1 + ((tallies ends).map Tally.weight).sum < Word.bound) : ∃ result,
      (close t c range g ((ends.foldlM Progress.take (begun o)).map (·.note messages)) b).2 =
          .done result ∧
        result.samples = .ok (1 + ((tallies ends).map Tally.weight).sum) := by
  obtain ⟨q, taken⟩ := Progress.foldlM_take_ok whole (wellFormed_begun o) well fits
  have adds := Progress.adds_foldlM (wellFormed_begun o) well taken
  rw [taken]
  change ∃ result, (close t c range g (.ok (q.note messages)) b).2 = .done result ∧ _
  rw [close]
  cases stranded : (q.note messages).stranded with
  | true =>
      have samples := samples_report t c g range adds (messages ++ [strandedMessage]) fits
      rw [settle_stranded stranded holds, Progress.note_note]
      exact ⟨_, conclude_of_samples samples, samples⟩
  | false =>
      have samples := samples_report t c g range adds messages fits
      rw [settle_clear stranded balanced holds]
      exact ⟨_, conclude_of_samples samples, samples⟩

end Closing

/-- A test passes its trial with an outcome, and the run gets a placement, in which its iterations
start. -/
structure Admitted (r : Runner) (others : Others ω) (t : StressTest ω σ) (c : Class) (b : Bench ω)
    (o : Outcome) (range : StrideRange) (g : Grant) (start : Bench ω) : Prop where
  trial : (t.sanityTrial b.world).result = .ok o
  placed : ∃ ready first late, r.prepare t c b = .ready ready range first ∧
    ready.acquire others c = (late, .granted g) ∧
      start = late.say (placementLog t.name g ++ (r.pinPlan g).2)

theorem firstTally_of_ready {ready : Bench ω} {first : Tally Outcome}
    (prepared : r.prepare t c b = .ready ready range first) : firstTally t b = .ok first := by
  unfold prepare at prepared
  split at prepared
  case isTrue => simp at prepared
  case isFalse =>
    cases counted : firstTally t b with
    | error fault => simp [counted] at prepared
    | ok first' =>
        rw [counted] at prepared
        dsimp only at prepared
        split at prepared
        · simp at prepared
        · rw [(Prepared.ready.inj prepared).2.2]

/-- The result of a run that got a placement sums up its trial and its iterations: it counts those
that ended well, lists what they and the trial observed and nothing else, and fails if one of them
did. There is a result unless an engine breaks off or the observations are too many to count. -/
theorem result_sums_up (r : Runner) (calling : others.Calling)
    (engine : EnginePlan ω σ → Iterate ω) (quiet : ∀ p b, (engine p b).1.scheduler = b.scheduler)
    (t : StressTest ω σ) (c : Class) (formed : c.Formed) (b : Bench ω)
    (reachable : b.scheduler.Reachable) {o : Outcome} {range : StrideRange} {g : Grant}
    {start : Bench ω} (admitted : Admitted r others t c b o range g start)
    (spares : ∀ e ∈ r.events calling engine t c b, e.Spares g) {ends : List IterationEnd}
    (course : Course others (engine ⟨t, range, start.host.memory⟩) r.settings.iterations 0 start
      ends)
    (made : ∀ tally ∈ tallies ends, tally.Reachable) :
    (∀ result, (r.run others engine t c b).2 = .done result → SumsUp o ends result) ∧
      ((∀ fault, .broken fault ∉ ends) →
        1 + ((tallies ends).map Tally.weight).sum < Word.bound →
          ∃ result, (r.run others engine t c b).2 = .done result ∧
            result.samples = .ok (1 + ((tallies ends).map Tally.weight).sum)) := by
  obtain ⟨trial, ready, first, late, prepared, granted, rfl⟩ := admitted
  have housed := housed_of_granted calling engine formed reachable.balanced prepared granted
  obtain rfl : first = (begun o).results := by
    have counted := firstTally_of_ready prepared
    rw [firstTally, trial] at counted
    exact (Except.ok.inj counted).symm
  have well (tally) (mem : tally ∈ tallies ends) : tally.WellFormed := by
    obtain ⟨obs, gathers⟩ := made tally mem
    exact gathers.counts.1
  have course : Course others (engine ⟨t, range, late.host.memory⟩) r.settings.iterations 0
      (late.say (placementLog t.name g ++ (r.pinPlan g).2)) ends := course
  obtain ⟨messages, iterated⟩ := iterate_course (p := { results := (begun o).results }) course
  rw [housed.events] at spares
  obtain ⟨balanced, holds⟩ := holds_iterated calling (quiet _) housed.stays housed.table
    fun e mem => spares e (List.mem_append_right _ mem)
  rw [housed.run, occupy_eq]
  dsimp only
  rw [iterated]
  exact ⟨fun result => sumsUp_of_close well,
    fun whole fits => exists_done_of_close well balanced holds whole fits⟩

/-- An engine of which two runs end well, and no other. -/
def failingThird : EnginePlan Nat Unit → Iterate Nat := fun _ b =>
  ({ b with world := b.world + 1 },
    match b.world with
    | 2 => .joined ⟨[(⟨[0]⟩, 3), (⟨[1]⟩, 1)]⟩
    | 3 => .joined ⟨[(⟨[1]⟩, 2)]⟩
    | _ => .failed (.timeout "1 role is running") true)

def failingEnds : List IterationEnd :=
  [.joined ⟨[(⟨[0]⟩, 3), (⟨[1]⟩, 1)]⟩, .joined ⟨[(⟨[1]⟩, 2)]⟩,
    .failed (.timeout "1 role is running") true]

theorem course_failingThird {p : EnginePlan Nat Unit} {b : Bench Nat} (world : b.world = 2)
    (going : b.cancelled = false) : Course Others.idle (failingThird p) 5 0 b failingEnds := by
  obtain ⟨scheduler, _, _, _, _⟩ := b
  obtain rfl : _ = 2 := world
  exact .joined going rfl (.joined going rfl (.failed going rfl rfl))

theorem result_sums_up_third : raisingBench.scheduler.Reachable ∧ ∃ result,
    (hurriedRunner.run Others.idle failingThird (raisingTest 3) lostGrant.shape raisingBench).2 =
        .done result ∧
      result.iterations = 2 ∧ ("0", 4) ∈ result.states ∧ result.samples = .ok 7 ∧
      result.grading.verdict = .failed := by
  have described : lopsided.Described := .records lopsided.threads (by cbv)
  have one : lostGrant.shape.Formed := .made [0] [0] (by cbv)
  have reachable : lopsidedIdle.Reachable := .start described (by cbv : start? 0 lopsided 3 = _)
  obtain ⟨going, world⟩ := raisingReady_going
  have admitted : Admitted hurriedRunner Others.idle (raisingTest 3) lostGrant.shape raisingBench
      ⟨[0]⟩ hurriedRange lostGrant ((raisingReady.attempted lostGrant.shape).say
        (placementLog (raisingTest 3).name lostGrant ++ (hurriedRunner.pinPlan lostGrant).2)) :=
    ⟨by cbv, _, _, _, prepare_raising, acquire_raising, rfl⟩
  have made : ∀ tally ∈ tallies failingEnds, tally.Reachable := by
    refine List.forall_mem_cons.2 ⟨?_, List.forall_mem_singleton.2 ?_⟩
    · exact ⟨[⟨[0]⟩, ⟨[0]⟩, ⟨[0]⟩, ⟨[1]⟩], .ofList rfl⟩
    · exact ⟨[⟨[1]⟩, ⟨[1]⟩], .ofList rfl⟩
  obtain ⟨sums, ends⟩ := result_sums_up hurriedRunner idleCalling failingThird (fun _ _ => rfl)
    (raisingTest 3) lostGrant.shape one raisingBench reachable admitted (spares_idle _)
    (course_failingThird world going) made
  obtain ⟨result, done, samples⟩ := ends (by simp [failingEnds]) (by decide)
  have sums := sums result done
  refine ⟨reachable, result, done, sums.iterations, ?_, samples, sums.failed fun normal => ?_⟩
  · exact (sums.states.listed "0" 4).2 ⟨⟨[0]⟩, rfl, by decide, rfl⟩
  · obtain ⟨tally, joined⟩ := sums.normal.1 normal _ (List.getLast_mem (by simp [failingEnds]))
    cases joined

end Runner
end Litmus
