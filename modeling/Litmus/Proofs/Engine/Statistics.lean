import Litmus.Engine.Stats
import Mathlib.Algebra.Order.BigOperators.Group.List
import Mathlib.Algebra.Order.Ring.Nat
import Mathlib.Data.List.Dedup

/-!
Statistics of rounds. A publish is recorded again if its round is that of the publish before, so the
recorded rounds are as many as there are changes of the round; rounds that never go back change as
often as there are different ones.
-/
namespace Litmus.RoundStats

/-- One publish: when, which round it closes, whether it enlarged the pool, and to what size. -/
structure Publish where
  now : Nat
  round : Nat
  grew : Bool
  pool : Nat

/-- Publishes that are recorded one after the other. -/
def recordAll (s : RoundStats) (ps : List Publish) : RoundStats :=
  ps.foldl (fun s p => s.recordPublish p.now p.round p.grew p.pool) s

/-- How many rounds are the same as the one before; `last` comes before all of them. -/
def repeats (last : Nat) : List Nat → Nat
  | [] => 0
  | round :: rounds => (if last = round then 1 else 0) + repeats round rounds

variable {s : RoundStats} {ps : List Publish}

theorem recordAll_cons (p : Publish) (ps : List Publish) : s.recordAll (p :: ps) =
    (s.recordPublish p.now p.round p.grew p.pool).recordAll ps :=
  rfl

theorem repeats_le (last : Nat) (rounds : List Nat) : repeats last rounds ≤ rounds.length := by
  induction rounds generalizing last with
  | nil => exact Nat.le_refl 0
  | cons round rounds ih =>
      have rest := ih round
      rw [repeats, List.length_cons]
      split <;> omega

/-- Among rounds that never go back, those that are no repetition are the different ones. -/
theorem repeats_add_dedup {last : Nat} {rounds : List Nat}
    (ordered : (last :: rounds).Pairwise (· ≤ ·)) :
    repeats last rounds + (last :: rounds).dedup.length = rounds.length + 1 := by
  induction rounds generalizing last with
  | nil => rfl
  | cons round rounds ih =>
      obtain ⟨least, rest⟩ := List.pairwise_cons.1 ordered
      have later := ih rest
      rw [repeats, List.length_cons]
      by_cases same : last = round
      · subst same
        rw [if_pos rfl, List.dedup_cons_of_mem List.mem_cons_self]
        omega
      · have before : last < round := Nat.lt_of_le_of_ne (least round List.mem_cons_self) same
        have fresh : last ∉ round :: rounds := by
          intro mem
          rcases List.mem_cons.1 mem with rfl | mem
          · exact same rfl
          · exact absurd ((List.pairwise_cons.1 rest).1 last mem) (Nat.not_le.2 before)
        rw [if_neg same, List.dedup_cons_of_notMem fresh, List.length_cons]
        omega

/-- The first round is no repetition, unless it has the number that stands for no round yet. -/
theorem repeats_max {rounds : List Nat} (ordered : rounds.Pairwise (· ≤ ·))
    (below : ∀ round ∈ rounds, round < Word.max) :
    repeats Word.max rounds + rounds.dedup.length = rounds.length := by
  cases rounds with
  | nil => rfl
  | cons round rounds =>
      have first : Word.max ≠ round := Nat.ne_of_gt (below round List.mem_cons_self)
      have different := repeats_add_dedup ordered
      rw [repeats, if_neg first, List.length_cons]
      omega

/-! ### Classes of round times -/

theorem bucketOf_lt (nanos : Nat) : bucketOf nanos < 5 :=
  Nat.lt_succ_of_le (List.takeWhile_sublist _).length_le

theorem sum_modify {ns : List Nat} {i : Nat} (inside : i < ns.length) :
    (ns.modify i (· + 1)).sum = ns.sum + 1 := by
  induction ns generalizing i with
  | nil => exact absurd inside (Nat.not_lt_zero i)
  | cons n ns ih =>
      cases i with
      | zero =>
          rw [List.modify_zero_cons, List.sum_cons, List.sum_cons]
          omega
      | succ i =>
          rw [List.modify_succ_cons, List.sum_cons, List.sum_cons,
            ih (Nat.lt_of_succ_lt_succ inside)]
          omega

/-! ### What publishes add -/

/-- What some publishes add to statistics with five classes. -/
structure Adds (s : RoundStats) (ps : List Publish) (s' : RoundStats) : Prop where
  publishes : s'.publishes = s.publishes + ps.length
  grows : s'.grows = s.grows + ps.countP (·.grew)
  duplicates : s'.duplicates = s.duplicates + repeats s.lastRound (ps.map (·.round))
  classified : s'.buckets.sum = s.buckets.sum + ps.length

theorem adds_recordAll (classes : s.buckets.length = 5) (ps : List Publish) :
    Adds s ps (s.recordAll ps) := by
  induction ps generalizing s with
  | nil => exact ⟨rfl, rfl, rfl, rfl⟩
  | cons p ps ih =>
      have inside : bucketOf (s.sinceLast p.now) < s.buckets.length :=
        classes ▸ bucketOf_lt _
      have rest := ih (s := s.recordPublish p.now p.round p.grew p.pool)
        ((List.length_modify ..).trans classes)
      rw [recordAll_cons]
      refine ⟨?_, ?_, ?_, ?_⟩
      · rw [rest.publishes, List.length_cons]
        simp only [recordPublish]
        omega
      · rw [rest.grows, List.countP_cons]
        simp only [recordPublish]
        split <;> omega
      · rw [rest.duplicates, List.map_cons, repeats]
        simp only [recordPublish]
        split <;> omega
      · rw [rest.classified, List.length_cons]
        simp only [recordPublish, sum_modify inside]
        omega

/-- What the statistics of a run of publishes say. -/
structure Accounts (ps : List Publish) (s : RoundStats) : Prop where
  publishes : s.publishes = ps.length
  grows : s.grows = ps.countP (·.grew)
  classified : s.buckets.sum = s.publishes
  duplicates : s.duplicates ≤ s.publishes
  rounds : s.rounds = .ok (s.publishes - s.duplicates)
  average : s.average = .ok (if ps = [] then 0 else s.elapsed / ps.length)
  /-- Nothing that is counted wraps around before the publishes themselves do. -/
  counts : ps.length < Word.bound →
    ∀ n ∈ s.publishes :: s.grows :: s.duplicates :: s.buckets, n < Word.bound

theorem Adds.accounts (h : Adds {} ps s) : Accounts ps s := by
  have publishes : s.publishes = ps.length := h.publishes.trans (Nat.zero_add _)
  have grows : s.grows = ps.countP (·.grew) := h.grows.trans (Nat.zero_add _)
  have classified : s.buckets.sum = ps.length := h.classified.trans (Nat.zero_add _)
  have duplicates : s.duplicates ≤ ps.length := by
    rw [h.duplicates, Nat.zero_add]
    exact (repeats_le _ _).trans_eq (List.length_map _)
  refine ⟨publishes, grows, classified.trans publishes.symm, publishes ▸ duplicates,
    Word.sub_eq_ok.2 ⟨publishes ▸ duplicates, rfl⟩, ?_, fun small n mem => ?_⟩
  · rw [average, publishes]
    by_cases none : ps = []
    · rw [if_pos (by simp [none]), if_pos none]
    · rw [if_neg (by simpa using none), if_neg none]
      exact Word.div_eq_ok.2 ⟨by simpa using none, rfl⟩
  · refine Nat.lt_of_le_of_lt ?_ small
    simp only [List.mem_cons] at mem
    rcases mem with rfl | rfl | rfl | mem
    · exact Nat.le_of_eq publishes
    · exact grows ▸ List.countP_le_length
    · exact duplicates
    · exact classified ▸ List.single_le_sum (fun _ _ => Nat.zero_le _) n mem

/-- Whatever publishes are recorded, each is counted once, in one class of time, and no more of them
are repetitions than there are, so that rounds and their mean time are always defined. If the rounds
never go back and none has the number that stands for no round yet, the rounds that are counted are
the different ones. -/
theorem recordAll_accounts (ps : List Publish) :
    Accounts ps (recordAll {} ps) ∧
      ((ps.map (·.round)).Pairwise (· ≤ ·) → (∀ p ∈ ps, p.round < Word.max) →
        (recordAll {} ps).rounds = .ok (ps.map (·.round)).dedup.length) := by
  have adds : Adds {} ps (recordAll {} ps) := adds_recordAll rfl ps
  refine ⟨adds.accounts, fun ordered below => ?_⟩
  have repeated : (recordAll {} ps).duplicates = repeats Word.max (ps.map (·.round)) :=
    adds.duplicates.trans (Nat.zero_add _)
  have different := repeats_max ordered (List.forall_mem_map.2 below)
  rw [List.length_map] at different
  rw [adds.accounts.rounds, adds.accounts.publishes, repeated, ← different, Nat.add_sub_cancel_left]

/-- Three rounds, the last of which is published twice; the clock goes back once. -/
def fourPublishes : List Publish :=
  [⟨900, 0, true, 10⟩, ⟨5000, 1, true, 20⟩, ⟨4000, 2, false, 20⟩, ⟨60000000, 2, false, 20⟩]

theorem recordAll_accounts_four : (fourPublishes.map (·.round)).Pairwise (· ≤ ·) ∧
    (∀ p ∈ fourPublishes, p.round < Word.max) ∧
      (recordAll {} fourPublishes).publishes = 4 ∧ (recordAll {} fourPublishes).grows = 2 ∧
        (recordAll {} fourPublishes).rounds = .ok 3 := by
  have ordered : (fourPublishes.map (·.round)).Pairwise (· ≤ ·) := by decide
  have below : ∀ p ∈ fourPublishes, p.round < Word.max := by decide
  obtain ⟨accounts, rounds⟩ := recordAll_accounts fourPublishes
  exact ⟨ordered, below, accounts.publishes, accounts.grows, rounds ordered below⟩

/-- The number that stands for no round yet is taken for a repetition. -/
example : (recordAll {} [⟨0, Word.max, false, 0⟩]).rounds = .ok 0 := rfl

end Litmus.RoundStats
