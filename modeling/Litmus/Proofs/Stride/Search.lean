import Litmus.Proofs.Stride.Climb
import Mathlib.Algebra.Group.Nat.Defs
import Mathlib.Data.Nat.Log

/-!
What a search for a stride range finds if a trial run costs what its size says. It asks the powers
of two in turn, up to the first that breaks a budget or reaches the configured maximum; the range is
cut to the last size that passed.
-/
namespace Litmus

/-! ### Budgets -/

namespace StridePolicy

/-- The budget that a trial run breaks: memory comes before time, and time counts in whole
milliseconds. -/
inductive Breaks (p : StridePolicy) : Reading → StrideCap → Prop where
  | outOfMemory : Breaks p .outOfMemory .footprint
  | memory {bytes : Nat} {elapsed : Span} (excess : p.maxFootprintMb * 2 ^ 20 < bytes) :
      Breaks p (.sample bytes elapsed) .footprint
  | time {bytes : Nat} {elapsed : Span} (fits : bytes ≤ p.maxFootprintMb * 2 ^ 20)
      (excess : p.timeBudget.millis < elapsed.millis) : Breaks p (.sample bytes elapsed) .time

/-- A trial run within both budgets. -/
inductive Allows (p : StridePolicy) : Reading → Prop where
  | sample {bytes : Nat} {elapsed : Span} (memory : bytes ≤ p.maxFootprintMb * 2 ^ 20)
      (time : elapsed.millis ≤ p.timeBudget.millis) : Allows p (.sample bytes elapsed)

variable {p : StridePolicy} {reading : Reading} {cap : StrideCap}

theorem allows_or_breaks (p : StridePolicy) (ends : ∀ fault, reading ≠ .broken fault) :
    p.Allows reading ∨ ∃ cap, p.Breaks reading cap := by
  cases reading with
  | broken fault => exact absurd rfl (ends fault)
  | outOfMemory => exact .inr ⟨_, .outOfMemory⟩
  | sample bytes elapsed =>
      by_cases memory : bytes ≤ p.maxFootprintMb * 2 ^ 20
      case neg => exact .inr ⟨_, .memory (Nat.lt_of_not_le memory)⟩
      case pos =>
        by_cases time : elapsed.millis ≤ p.timeBudget.millis
        · exact .inl (.sample memory time)
        · exact .inr ⟨_, .time memory (Nat.lt_of_not_le time)⟩

theorem Allows.not_breaks (h : p.Allows reading) : ¬ p.Breaks reading cap := by
  obtain ⟨memory, time⟩ := h
  intro breaks
  cases breaks with
  | memory excess => exact Nat.not_lt.2 memory excess
  | time _ excess => exact Nat.not_lt.2 time excess

theorem Breaks.unique {cap' : StrideCap} (h : p.Breaks reading cap) (h' : p.Breaks reading cap') :
    cap = cap' := by
  cases h with
  | outOfMemory => cases h' with | outOfMemory => rfl
  | memory excess =>
      cases h' with
      | memory => rfl
      | time fits => exact absurd excess (Nat.not_lt.2 fits)
  | time fits =>
      cases h' with
      | memory excess => exact absurd excess (Nat.not_lt.2 fits)
      | time => rfl

/-- A trial run that ends is judged by the budgets, where the memory budget is a count of bytes. -/
theorem broken?_sample (budget : p.maxFootprintMb * 2 ^ 20 < Word.bound) (bytes : Nat)
    (elapsed : Span) : p.broken? (.sample bytes elapsed) = .ok
      (if p.maxFootprintMb * 2 ^ 20 < bytes then some .footprint
      else if p.timeBudget.millis < elapsed.millis then some .time else none) := by
  have size : p.maxFootprintMb * 2 ^ 20 = p.maxFootprintMb * 1024 * 1024 := by omega
  rw [size] at budget ⊢
  have kilobytes : Word.mul p.maxFootprintMb 1024 = .ok (p.maxFootprintMb * 1024) :=
    Word.mul_eq_ok.2 ⟨rfl, Nat.lt_of_le_of_lt (Nat.le_mul_of_pos_right _ (by decide)) budget⟩
  have total : Word.mul (p.maxFootprintMb * 1024) 1024 = .ok (p.maxFootprintMb * 1024 * 1024) :=
    Word.mul_eq_ok.2 ⟨rfl, budget⟩
  simp only [broken?, kilobytes, total, bind, Except.bind, pure, Except.pure]
  split
  · rfl
  · split <;> rfl

theorem Allows.judged (budget : p.maxFootprintMb * 2 ^ 20 < Word.bound) (h : p.Allows reading) :
    p.broken? reading = .ok none := by
  obtain ⟨memory, time⟩ := h
  rw [broken?_sample budget, if_neg (Nat.not_lt.2 memory), if_neg (Nat.not_lt.2 time)]

theorem Breaks.judged (budget : p.maxFootprintMb * 2 ^ 20 < Word.bound) (h : p.Breaks reading cap) :
    p.broken? reading = .ok (some cap) := by
  cases h with
  | outOfMemory => rfl
  | memory excess => rw [broken?_sample budget, if_pos excess]
  | time fits excess => rw [broken?_sample budget, if_neg (Nat.not_lt.2 fits), if_pos excess]

theorem allows_or_breaks_of_broken? {found : Option StrideCap}
    (judged : p.broken? reading = .ok found) :
    p.Allows reading ∨ ∃ cap, p.Breaks reading cap := by
  refine allows_or_breaks p ?_
  rintro fault rfl
  exact nomatch judged

theorem allows_of_broken? (budget : p.maxFootprintMb * 2 ^ 20 < Word.bound)
    (judged : p.broken? reading = .ok none) : p.Allows reading := by
  rcases allows_or_breaks_of_broken? judged with fits | ⟨cap, breaks⟩
  · exact fits
  · exact nomatch judged.symm.trans (breaks.judged budget)

theorem breaks_of_broken? (budget : p.maxFootprintMb * 2 ^ 20 < Word.bound)
    (judged : p.broken? reading = .ok (some cap)) : p.Breaks reading cap := by
  rcases allows_or_breaks_of_broken? judged with fits | ⟨cap', breaks⟩
  · exact nomatch judged.symm.trans (fits.judged budget)
  · obtain rfl : cap = cap' := by simpa using judged.symm.trans (breaks.judged budget)
    exact breaks

end StridePolicy

/-! ### Costs -/

/-- Trial runs that end, each at the cost of its size. -/
structure Charges {ω : Type} (estimate : Estimator ω) (cost : Nat → Reading) : Prop where
  reading : ∀ world size, (estimate world size).2 = cost size
  ends : ∀ size fault, cost size ≠ .broken fault

/-- One trial run costs no more than another. -/
inductive Reading.AtMost : Reading → Reading → Prop where
  | sample {bytes bytes' : Nat} {elapsed elapsed' : Span} (memory : bytes ≤ bytes')
      (time : elapsed.nanos ≤ elapsed'.nanos) :
      AtMost (.sample bytes elapsed) (.sample bytes' elapsed')
  | outOfMemory (reading : Reading) : AtMost reading .outOfMemory

/-- Larger sizes cost no less. -/
def Growing (cost : Nat → Reading) : Prop :=
  ∀ size size', size ≤ size' → (cost size).AtMost (cost size')

theorem StridePolicy.Allows.of_atMost {p : StridePolicy} {reading reading' : Reading}
    (h : p.Allows reading') (less : reading.AtMost reading') : p.Allows reading := by
  cases less with
  | outOfMemory => nomatch h
  | sample memory time =>
      cases h with
      | sample memory' time' =>
          exact .sample (Nat.le_trans memory memory')
            (Nat.le_trans (Nat.div_le_div_right time) time')

/-- A cost that is the same for every pair. -/
def Reading.perPair (bytes nanos size : Nat) : Reading :=
  .sample (size * bytes) (.ofNanos (size * nanos))

theorem growing_perPair (bytes nanos : Nat) : Growing (.perPair bytes nanos) :=
  fun _ _ less => .sample (Nat.mul_le_mul_right bytes less) (Nat.mul_le_mul_right nanos less)

/-- Trial runs that share nothing and cost what `cost` says. -/
def Estimator.charging (cost : Nat → Reading) : Estimator Unit :=
  fun world size => (world, cost size)

theorem charges_perPair (bytes nanos : Nat) :
    Charges (Estimator.charging (.perPair bytes nanos)) (.perPair bytes nanos) where
  reading _ _ := rfl
  ends _ _ := nofun

/-! ### The search -/

namespace StridePolicy

variable {ω : Type} {p : StridePolicy} {estimate : Estimator ω} {cost : Nat → Reading}
  {world : ω} {k good left exponent : Nat} {range : StrideRange} {probe : Probe ω}

/-- Where a search ends that tried the size `2 ^ k` last, with the range that it answers. Of the
sizes before, `good` was the last. -/
inductive Stops (p : StridePolicy) (cost : Nat → Reading) (k good : Nat) : StrideRange → Prop where
  | capped (cap : StrideCap) (breaks : p.Breaks (cost (2 ^ k)) cap) :
      Stops p cost k good ⟨min p.least good, min p.most good, cap⟩
  | reached (fits : p.Allows (cost (2 ^ k))) (most : p.most ≤ 2 ^ k) :
      Stops p cost k good ⟨min p.least p.most, p.most, .none⟩

theorem Climbs.stops (h : Climbs p estimate world good left exponent probe)
    (charges : Charges estimate cost) (budget : p.maxFootprintMb * 2 ^ 20 < Word.bound)
    (room : p.most ≤ 2 ^ (exponent + left)) :
    ∃ k range, exponent ≤ k ∧ k ≤ exponent + left ∧
      probe.readings =
        (List.range' exponent (k + 1 - exponent)).map (fun i => (2 ^ i, cost (2 ^ i))) ∧
      (∀ i, exponent ≤ i → i < k → p.Allows (cost (2 ^ i)) ∧ 2 ^ i < p.most) ∧
      probe.range = .ok range ∧
      Stops p cost k (if k = exponent then good else 2 ^ (k - 1)) range := by
  induction h with
  | @broken world good left exponent fault judged =>
      rw [Nat.one_shiftLeft, charges.reading] at judged
      rcases broken?_eq_error judged with reading | ⟨-, large⟩
      · exact absurd reading (charges.ends _ _)
      · omega
  | @capped world good left exponent cap judged =>
      rw [Nat.one_shiftLeft, charges.reading] at judged
      refine ⟨exponent, _, Nat.le_refl _, Nat.le_add_right _ _, ?_, by omega, rfl, ?_⟩
      · simp [Nat.one_shiftLeft, charges.reading]
      · rw [if_pos rfl]
        exact .capped cap (breaks_of_broken? budget judged)
  | @reached world good left exponent judged most =>
      rw [Nat.one_shiftLeft, charges.reading] at judged
      rw [Nat.one_shiftLeft] at most
      refine ⟨exponent, _, Nat.le_refl _, Nat.le_add_right _ _, ?_, by omega, rfl, ?_⟩
      · simp [Nat.one_shiftLeft, charges.reading]
      · rw [rangeFor, Nat.min_self]
        exact .reached (allows_of_broken? budget judged) most
  | spent judged most =>
      rw [Nat.one_shiftLeft] at most
      exact absurd room (Nat.not_le.2 most)
  | @doubled world good left exponent rest judged most further ih =>
      rw [Nat.one_shiftLeft, charges.reading] at judged
      rw [Nat.one_shiftLeft] at most
      have fits := allows_of_broken? budget judged
      obtain ⟨k, range, above, within, asked, passed, answered, stops⟩ :=
        ih (by rwa [Nat.add_right_comm, Nat.add_assoc])
      refine ⟨k, range, by omega, by omega, ?_, fun i hi lt => ?_, answered, ?_⟩
      · have first : k + 1 - exponent = (k + 1 - (exponent + 1)) + 1 := by omega
        rw [first, List.range'_succ, List.map_cons, ← asked]
        simp only [Nat.one_shiftLeft, charges.reading]
      · rcases Nat.eq_or_lt_of_le hi with rfl | later
        · exact ⟨fits, most⟩
        · exact passed i later lt
      · rw [if_neg (by omega)]
        split at stops
        case isTrue here =>
          rw [Nat.one_shiftLeft] at stops
          rwa [here, Nat.add_sub_cancel, ← here]
        case isFalse => exact stops

/-- A search that asked the powers of two up to `2 ^ k`. Those before it passed and lay below the
maximum. -/
structure Found (p : StridePolicy) (cost : Nat → Reading) (probe : Probe ω) (k : Nat)
    (range : StrideRange) : Prop where
  few : k < 64
  asked : probe.readings = (List.range (k + 1)).map fun i => (2 ^ i, cost (2 ^ i))
  passed : ∀ i < k, p.Allows (cost (2 ^ i)) ∧ 2 ^ i < p.most
  answered : probe.range = .ok range
  stops : Stops p cost k (if k = 0 then 1 else 2 ^ (k - 1)) range

theorem exists_found (charges : Charges estimate cost)
    (budget : p.maxFootprintMb * 2 ^ 20 < Word.bound) (most : p.most ≤ Word.signedBound)
    (world : ω) : ∃ k range, Found p cost (p.adjust estimate world) k range := by
  obtain ⟨k, range, -, few, asked, passed, answered, stops⟩ :=
    (climb_climbs p estimate world 1 63 0).stops charges budget most
  refine ⟨k, range, by omega, ?_, fun i lt => passed i (Nat.zero_le i) lt, answered, stops⟩
  rw [List.range_eq_range']
  exact asked

namespace Found

theorem bounds (h : Found p cost probe k range) (least : 1 ≤ p.least) (ordered : p.least ≤ p.most) :
    1 ≤ range.least ∧ range.least ≤ range.most ∧ range.most ≤ p.most := by
  have good : 1 ≤ (if k = 0 then 1 else 2 ^ (k - 1)) := by
    split
    · exact Nat.le_refl 1
    · exact Nat.one_le_two_pow
  cases h.stops with
  | capped cap breaks =>
      dsimp only
      omega
  | reached fits most =>
      dsimp only
      omega

/-- If costs grow with the size and a single pair passes, all sizes of the range pass. -/
theorem allows (h : Found p cost probe k range) (growing : Growing cost) (one : p.Allows (cost 1))
    {size : Nat} (within : size ≤ range.most) : p.Allows (cost size) := by
  cases h.stops with
  | reached fits most => exact fits.of_atMost (growing _ _ (Nat.le_trans within most))
  | capped cap breaks =>
      cases k with
      | zero => exact absurd breaks one.not_breaks
      | succ k =>
          have last := (h.passed k (Nat.lt_succ_self k)).1
          exact last.of_atMost (growing _ _ (Nat.le_trans within (Nat.min_le_right _ _)))

end Found

/-- A search whose counts fit asks the powers of two in turn, at most 64 of them, and ends with the
first that breaks a budget or reaches the maximum. The range lies within the one that is configured,
and if costs grow, within the budgets. -/
theorem adjust_searches (charges : Charges estimate cost)
    (budget : p.maxFootprintMb * 2 ^ 20 < Word.bound) (most : p.most ≤ Word.signedBound)
    (world : ω) :
    ∃ k range, Found p cost (p.adjust estimate world) k range ∧
      (1 ≤ p.least → p.least ≤ p.most →
        1 ≤ range.least ∧ range.least ≤ range.most ∧ range.most ≤ p.most) ∧
      (Growing cost → p.Allows (cost 1) → ∀ size ≤ range.most, p.Allows (cost size)) := by
  obtain ⟨k, range, found⟩ := exists_found charges budget most world
  exact ⟨k, range, found, found.bounds, fun growing one _ within => found.allows growing one within⟩

/-- A policy with room for a mebibyte, whose pairs take a kibibyte each. -/
def mebibyte : StridePolicy := ⟨10, 100000, 1, .ofMillis 10⟩

theorem adjust_searches_mebibyte :
    (mebibyte.adjust (.charging (.perPair 1024 1)) ()).range = .ok ⟨10, 1024, .footprint⟩ ∧
      mebibyte.Breaks (.perPair 1024 1 2048) .footprint ∧
      ∃ k range, Found mebibyte (.perPair 1024 1)
          (mebibyte.adjust (.charging (.perPair 1024 1)) ()) k range ∧
        (1 ≤ range.least ∧ range.least ≤ range.most ∧ range.most ≤ 100000) ∧
        ∀ size ≤ range.most, mebibyte.Allows (.perPair 1024 1 size) := by
  obtain ⟨k, range, found, bounds, allows⟩ :=
    adjust_searches (p := mebibyte) (charges_perPair 1024 1) (by decide) (by decide) ()
  exact ⟨by cbv, .memory (by decide), k, range, found, bounds (by decide) (by decide),
    allows (growing_perPair 1024 1) (.sample (by decide) (by decide))⟩

end StridePolicy
end Litmus
