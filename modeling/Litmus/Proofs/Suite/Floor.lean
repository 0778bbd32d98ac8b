import Litmus.Suite.Floor
import Mathlib.Data.List.Perm.Basic

/-!
Workers on a queue in any interleaving. Each job is at one place: queued, taken or run; each answer
is with the worker that ran its job, or sent. A worker comes closer to going home with each of its
turns, whatever the others do meanwhile.
-/
namespace Litmus

variable {ω α β : Type}

/-- A job that a worker ran under its number, with what became of it. -/
structure JobRun (α β : Type) where
  idx : Nat
  job : α
  ended : JobEnd β

def JobEnd.value? : JobEnd β → Option β
  | .returned value => some value
  | .escaped | .waiting => none

def JobRun.ticket (r : JobRun α β) : Nat × α := (r.idx, r.job)

def JobRun.answer? (r : JobRun α β) : Option (Nat × β) := r.ended.value?.map (r.idx, ·)

namespace Worker

/-- The job that a worker has taken and not run. -/
def ticket? : Worker α β → Option (Nat × α)
  | .busy idx job => some (idx, job)
  | _ => none

/-- The answer that a worker has not sent. -/
def answer? : Worker α β → Option (Nat × β)
  | .answering idx value => some (idx, value)
  | _ => none

/-- A worker after it ran a job. -/
def after (idx : Nat) : JobEnd β → Worker α β
  | .returned value => .answering idx value
  | .escaped => .brokenOff
  | .waiting => .stuck

/-- How many steps a worker makes before it rests, if it finds the queue empty. -/
def toGo : Worker α β → Nat
  | .busy .. => 3
  | .answering .. => 2
  | .idle => 1
  | .home | .brokenOff | .stuck => 0

end Worker

namespace Floor

variable {run : ω → α → ω × JobEnd β} {f f' : Floor ω α β} {w i : Nat} {jobs : List α}
  {past : List (JobRun α β)} {event : Option (JobRun α β)} {moves : List Nat}

/-- The job that a step of a worker runs, if it runs one. -/
def ran? (run : ω → α → ω × JobEnd β) (f : Floor ω α β) (w : Nat) : Option (JobRun α β) :=
  match f.workers[w]? with
  | some (.busy idx job) => some ⟨idx, job, (run f.shared job).2⟩
  | _ => none

/-- The jobs that are run along some moves, in that order. -/
def history (run : ω → α → ω × JobEnd β) (f : Floor ω α β) : List Nat → List (JobRun α β)
  | [] => []
  | w :: moves => (f.ran? run w).toList ++ (f.step run w).history run moves

/-! ### Steps -/

/-- All that a step can do. -/
inductive Moved (run : ω → α → ω × JobEnd β) (f : Floor ω α β) (w : Nat) :
    Floor ω α β → Option (JobRun α β) → Prop where
  | rests (still : ∀ worker, f.workers[w]? = some worker → worker.toGo = 0) : Moved run f w f none
  | leaves (found : f.workers[w]? = some .idle) (drained : f.queue = []) :
      Moved run f w (f.put w .home) none
  | takes {idx : Nat} {job : α} {rest : List (Nat × α)} (found : f.workers[w]? = some .idle)
      (queue : f.queue = (idx, job) :: rest) :
      Moved run f w ({ f with queue := rest }.put w (.busy idx job)) none
  | runs {idx : Nat} {job : α} (found : f.workers[w]? = some (.busy idx job)) :
      Moved run f w ({ f with shared := (run f.shared job).1 }.put w
        (.after idx (run f.shared job).2)) (some ⟨idx, job, (run f.shared job).2⟩)
  | sends {idx : Nat} {value : β} (found : f.workers[w]? = some (.answering idx value)) :
      Moved run f w ({ f with sent := f.sent ++ [(idx, value)] }.put w .idle) none

theorem step_moved (run : ω → α → ω × JobEnd β) (f : Floor ω α β) (w : Nat) :
    Moved run f w (f.step run w) (f.ran? run w) := by
  unfold step ran?
  cases found : f.workers[w]? with
  | none => exact .rests (by simp [found])
  | some worker =>
      cases worker with
      | idle =>
          cases queue : f.queue with
          | nil => exact .leaves found queue
          | cons t rest => exact .takes found queue
      | busy idx job =>
          have ran : Moved run f w _ _ := .runs found
          dsimp only
          cases answer : run f.shared job with
          | mk shared ended =>
              rw [answer] at ran
              cases ended <;> exact ran
      | answering idx value => exact .sends found
      | home | brokenOff | stuck => exact .rests (by simp [found, Worker.toGo])

/-- What a partial function reads off the items when one of them is replaced. -/
theorem perm_filterMap_set {γ δ : Type} (p : γ → Option δ) {xs : List γ} {x : γ}
    (found : xs[i]? = some x) (y : γ) :
    ((p x).toList ++ (xs.set i y).filterMap p).Perm ((p y).toList ++ xs.filterMap p) := by
  obtain ⟨inside, rfl⟩ := List.getElem?_eq_some_iff.1 found
  have split (z : γ) : (xs.set i z).filterMap p =
      (xs.take i).filterMap p ++ ((p z).toList ++ (xs.drop (i + 1)).filterMap p) := by
    rw [List.set_eq_take_append_cons_drop, if_pos inside, List.filterMap_append]
    cases h : p z <;> simp [h]
  have own := split xs[i]
  rw [List.set_getElem_self] at own
  rw [split y, own]
  exact (List.perm_append_comm_assoc ..).trans
    (((List.perm_append_comm_assoc ..).append_left _).trans (List.perm_append_comm_assoc ..))

/-! ### Every job at one place -/

/-- The jobs with their numbers. -/
def tickets (jobs : List α) : List (Nat × α) := jobs.mapIdx fun idx job => (idx, job)

theorem nodup_tickets (jobs : List α) : ((tickets jobs).map (·.1)).Nodup := by
  have numbers : (tickets jobs).map (·.1) = List.range jobs.length :=
    List.ext_getElem (by simp [tickets]) (by simp [tickets])
  exact numbers ▸ List.nodup_range

theorem mem_tickets {idx : Nat} {job : α} : (idx, job) ∈ tickets jobs ↔ jobs[idx]? = some job := by
  simp only [tickets, List.mem_mapIdx, Prod.mk.injEq, List.getElem?_eq_some_iff]
  constructor
  · rintro ⟨_, inside, rfl, rfl⟩
    exact ⟨inside, rfl⟩
  · rintro ⟨inside, rfl⟩
    exact ⟨_, inside, rfl, rfl⟩

structure Placed (jobs : List α) (f : Floor ω α β) (past : List (JobRun α β)) : Prop where
  tickets : (f.queue ++ (f.workers.filterMap Worker.ticket? ++ past.map JobRun.ticket)).Perm
    (tickets jobs)
  answers : (f.workers.filterMap Worker.answer? ++ f.sent).Perm (past.filterMap JobRun.answer?)
  drained : .home ∈ f.workers → f.queue = []

theorem placed_start (jobs : List α) (workers : Nat) (shared : ω) :
    Placed jobs (start jobs workers shared : Floor ω α β) [] where
  tickets := by
    rw [start, List.filterMap_replicate_of_none rfl, List.map_nil, List.append_nil, List.append_nil]
    exact .refl _
  answers := by
    rw [start, List.filterMap_replicate_of_none rfl]
    exact .refl _
  drained home := by simp [start] at home

theorem home_mem_set {workers : List (Worker α β)} (worker : Worker α β) (away : worker ≠ .home)
    (home : .home ∈ workers.set w worker) : .home ∈ workers :=
  (List.mem_or_eq_of_mem_set home).resolve_right (Ne.symm away)

theorem Placed.moved (h : Placed jobs f past) (m : Moved run f w f' event) :
    Placed jobs f' (past ++ event.toList) := by
  cases m with
  | rests => exact (List.append_nil past).symm ▸ h
  | leaves found drained =>
      have held := perm_filterMap_set Worker.ticket? found .home
      have answers := perm_filterMap_set Worker.answer? found .home
      rw [Option.toList_none, List.append_nil]
      exact ⟨((held.append_right _).append_left _).trans h.tickets,
        (answers.append_right _).trans h.answers, fun _ => drained⟩
  | @takes idx job rest found queue =>
      have held := perm_filterMap_set Worker.ticket? found (.busy idx job)
      have answers := perm_filterMap_set Worker.answer? found (.busy idx job)
      rw [Option.toList_none, List.append_nil]
      refine ⟨?_, (answers.append_right _).trans h.answers, fun home => ?_⟩
      · have moved := ((held.append_right (past.map JobRun.ticket)).append_left rest).trans
          List.perm_middle
        have before := h.tickets
        rw [queue] at before
        exact moved.trans before
      · have none := h.drained (home_mem_set (.busy idx job) nofun home)
        simp [queue] at none
  | @runs idx job found =>
      generalize (run f.shared job).2 = ended
      have held := perm_filterMap_set Worker.ticket? found (.after idx ended)
      have answers := perm_filterMap_set Worker.answer? found (.after idx ended)
      have free : (Worker.after idx ended : Worker α β).ticket? = none := by cases ended <;> rfl
      have answer : (Worker.after idx ended : Worker α β).answer? =
          (JobRun.mk idx job ended).answer? := by cases ended <;> rfl
      have away : (Worker.after idx ended : Worker α β) ≠ .home := by cases ended <;> nofun
      rw [free] at held
      rw [answer] at answers
      refine ⟨?_, ?_, fun home => h.drained (home_mem_set _ away home)⟩
      · rw [Option.toList_some, List.map_append, ← List.append_assoc (List.filterMap ..)]
        refine .trans (.append_left _ ?_) h.tickets
        exact List.perm_append_singleton .. |>.trans (held.append_right _)
      · have last : [JobRun.mk idx job ended].filterMap JobRun.answer? =
            (JobRun.mk idx job ended).answer?.toList := by
          cases h : (JobRun.mk idx job ended).answer? <;> simp [h]
        rw [Option.toList_some, List.filterMap_append, last]
        refine (answers.append_right _).trans ?_
        rw [List.append_assoc]
        exact List.perm_append_comm.trans (h.answers.append_right _)
  | @sends idx value found =>
      have held := perm_filterMap_set Worker.ticket? found .idle
      have answers := perm_filterMap_set Worker.answer? found .idle
      rw [Option.toList_none, List.append_nil]
      refine ⟨((held.append_right _).append_left _).trans h.tickets, ?_,
        fun home => h.drained (home_mem_set .idle nofun home)⟩
      refine .trans ?_ ((answers.append_right f.sent).trans h.answers)
      change (List.filterMap _ (f.workers.set w .idle) ++ (f.sent ++ [(idx, value)])).Perm _
      rw [← List.append_assoc]
      exact List.perm_append_comm

theorem Placed.steps (h : Placed jobs f past) (moves : List Nat) :
    Placed jobs (f.runSteps run moves) (past ++ f.history run moves) := by
  induction moves generalizing f past with
  | nil => exact (List.append_nil past).symm ▸ h
  | cons w moves ih =>
      have next := ih (h.moved (step_moved run f w))
      rwa [List.append_assoc] at next

theorem Placed.mem_of_busy (h : Placed jobs f past) {idx : Nat} {job : α}
    (found : f.workers[w]? = some (.busy idx job)) : job ∈ jobs := by
  have taken : (idx, job) ∈ f.workers.filterMap Worker.ticket? :=
    List.mem_filterMap.2 ⟨_, List.mem_of_getElem? found, rfl⟩
  have listed := h.tickets.mem_iff.1 (List.mem_append_right _ (List.mem_append_left _ taken))
  exact List.mem_of_getElem? (mem_tickets.1 listed)

/-- What every job keeps of the shared state holds whenever one of them is run. -/
theorem Placed.history_keeps {kept : ω → Prop}
    (keeps : ∀ shared, kept shared → ∀ job ∈ jobs, kept (run shared job).1)
    (h : Placed jobs f past) (start : kept f.shared) :
    ∀ r ∈ f.history run moves,
      r.job ∈ jobs ∧ ∃ shared, kept shared ∧ r.ended = (run shared r.job).2 := by
  induction moves generalizing f past with
  | nil => exact List.forall_mem_nil _
  | cons w moves ih =>
      have step := step_moved run f w
      have next := h.moved step
      rw [history]
      generalize f.step run w = f', f.ran? run w = event at step next
      refine List.forall_mem_append.2 ⟨?_, ih next ?_⟩
      · cases step with
        | runs found =>
            exact List.forall_mem_singleton.2 ⟨h.mem_of_busy found, f.shared, start, rfl⟩
        | rests | leaves | takes | sends => exact List.forall_mem_nil _
      · cases step with
        | runs found => exact keeps _ start _ (h.mem_of_busy found)
        | rests | leaves | takes | sends => exact start

theorem Placed.history_ran (h : Placed jobs f past) :
    ∀ r ∈ f.history run moves, r.job ∈ jobs ∧ ∃ shared, r.ended = (run shared r.job).2 := by
  have keeps : ∀ shared : ω, True → ∀ job ∈ jobs, True := fun _ _ _ _ => trivial
  intro r mem
  obtain ⟨listed, shared, -, ended⟩ := h.history_keeps keeps trivial r mem
  exact ⟨listed, shared, ended⟩

/-! ### Going home -/

/-- Every job that was run returned. -/
def Returns (past : List (JobRun α β)) : Prop :=
  ∀ r ∈ past, ∃ value, r.ended = .returned value

/-- No worker has broken off or hangs. -/
def Working (f : Floor ω α β) : Prop :=
  ∀ worker ∈ f.workers, worker ≠ .brokenOff ∧ worker ≠ .stuck

/-- All workers have gone home. -/
def Closed (f : Floor ω α β) : Prop :=
  ∀ worker ∈ f.workers, worker = .home

/-- How many steps a worker makes at most until it goes home. -/
def toGo (f : Floor ω α β) (w : Nat) : Nat :=
  3 * f.queue.length + (f.workers[w]?).elim 0 Worker.toGo

theorem toGo_of_found {worker : Worker α β} (found : f.workers[w]? = some worker) :
    f.toGo w = 3 * f.queue.length + worker.toGo := by
  rw [toGo, found]
  rfl

/-- The steps that are left to a worker and to the others when one of them makes a step. -/
theorem toGo_le_of_set {old new : Worker α β} (found : f.workers[w]? = some old)
    (workers : f'.workers = f.workers.set w new) (queue : f'.queue.length ≤ f.queue.length)
    (closer : 3 * f'.queue.length + new.toGo < 3 * f.queue.length + old.toGo) :
    f'.toGo i ≤ f.toGo i - if w = i then 1 else 0 := by
  obtain ⟨inside, -⟩ := List.getElem?_eq_some_iff.1 found
  by_cases same : w = i
  · subst same
    have found' : f'.workers[w]? = some new := by rw [workers, List.getElem?_set_self inside]
    rw [if_pos rfl, toGo_of_found found, toGo_of_found found']
    omega
  · rw [if_neg same, toGo, toGo, workers, List.getElem?_set_ne same]
    omega

theorem working_set {worker : Worker α β} (h : f.Working)
    (well : worker ≠ .brokenOff ∧ worker ≠ .stuck) :
    ∀ other ∈ f.workers.set w worker, other ≠ .brokenOff ∧ other ≠ .stuck := by
  intro other hmem
  rcases List.mem_or_eq_of_mem_set hmem with old | rfl
  · exact h other old
  · exact well

theorem Moved.working (m : Moved run f w f' event) (h : f.Working)
    (returns : Returns event.toList) : f'.Working := by
  cases m with
  | rests => exact h
  | leaves | takes | sends => exact working_set h ⟨nofun, nofun⟩
  | @runs idx job found =>
      obtain ⟨value, returned⟩ := returns _ (List.mem_singleton_self _)
      have well : Worker.after (α := α) idx (run f.shared job).2 ≠ .brokenOff ∧
          Worker.after (α := α) idx (run f.shared job).2 ≠ .stuck := by
        rw [show (run f.shared job).2 = _ from returned]
        exact ⟨nofun, nofun⟩
      exact working_set h well

/-- A step brings its worker closer to going home, and keeps nobody else from it. -/
theorem Moved.toGo_le (m : Moved run f w f' event) (h : f.Working)
    (drained : .home ∈ f.workers → f.queue = []) (returns : Returns event.toList)
    (inside : i < f.workers.length) : f'.toGo i ≤ f.toGo i - if w = i then 1 else 0 := by
  cases m with
  | rests still =>
      split
      case isFalse => exact Nat.le_refl _
      case isTrue same =>
        subst same
        have found := List.getElem?_eq_getElem inside
        have mem := List.getElem_mem inside
        have resting := still _ found
        rw [toGo_of_found found, resting]
        cases worker : f.workers[w] with
        | home => simp [drained (worker ▸ mem)]
        | brokenOff => exact absurd worker (h _ mem).1
        | stuck => exact absurd worker (h _ mem).2
        | idle | busy | answering => simp [worker, Worker.toGo] at resting
  | leaves found drained =>
      exact toGo_le_of_set found rfl (Nat.le_refl _) (Nat.lt_succ_self _)
  | takes found queue =>
      refine toGo_le_of_set found rfl ?_ ?_
      · simp [put, queue]
      · simp [put, queue, Worker.toGo]
        omega
  | runs found =>
      obtain ⟨value, returned⟩ := returns _ (List.mem_singleton_self _)
      refine toGo_le_of_set found rfl (Nat.le_refl _) (Nat.add_lt_add_left ?_ _)
      rw [show (run f.shared _).2 = _ from returned]
      exact Nat.lt_succ_self _
  | sends found => exact toGo_le_of_set found rfl (Nat.le_refl _) (Nat.lt_succ_self _)

theorem Moved.length_workers (m : Moved run f w f' event) :
    f'.workers.length = f.workers.length := by
  cases m with
  | rests => rfl
  | leaves | takes | runs | sends => exact List.length_set

theorem length_runSteps (run : ω → α → ω × JobEnd β) (f : Floor ω α β) (moves : List Nat) :
    (f.runSteps run moves).workers.length = f.workers.length := by
  induction moves generalizing f with
  | nil => rfl
  | cons w moves ih => exact (ih _).trans (step_moved run f w).length_workers

/-- Along moves in which every job returns, each worker comes closer to going home with each of its
turns. -/
theorem Placed.toGo_steps (h : Placed jobs f past) (working : f.Working)
    (returns : Returns (f.history run moves)) :
    (f.runSteps run moves).Working ∧ ∀ i < f.workers.length,
      (f.runSteps run moves).toGo i ≤ f.toGo i - moves.count i := by
  induction moves generalizing f past with
  | nil => exact ⟨working, fun i _ => Nat.le_refl _⟩
  | cons w moves ih =>
      have step := step_moved run f w
      obtain ⟨first, rest⟩ := List.forall_mem_append.1 returns
      obtain ⟨working', closer'⟩ := ih (h.moved step) (step.working working first) rest
      refine ⟨working', fun i inside => ?_⟩
      have closer := step.toGo_le working h.drained first inside
      refine Nat.le_trans (closer' i (step.length_workers.symm ▸ inside)) ?_
      rw [List.count_cons]
      simp only [beq_iff_eq] at closer ⊢
      omega

theorem home_of_toGo (working : f.Working) (inside : i < f.workers.length)
    (done : f.toGo i = 0) : f.workers[i] = .home := by
  have found := List.getElem?_eq_getElem inside
  obtain ⟨sound, going⟩ := working _ (List.getElem_mem inside)
  rw [toGo_of_found found] at done
  cases worker : f.workers[i] with
  | home => rfl
  | brokenOff => exact absurd worker sound
  | stuck => exact absurd worker going
  | idle | busy | answering => simp [worker, Worker.toGo] at done

end Floor
end Litmus
