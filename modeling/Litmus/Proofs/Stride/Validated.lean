import Litmus.Proofs.Stride.Search
import Litmus.Settings.Basic

/-!
What validated settings give to the search for a stride range. They put the two ends of the range in
order, but they bound neither the memory budget nor the maximum from above. So the search answers a
range within the configured one, unless the budget in bytes or the next size is no count; which of
the two it is depends on the trial runs alone.
-/
namespace Litmus

theorem RunSettings.validate_eq_ok {r : RunSettings} :
    r.validate = .ok () ↔
      1 ≤ r.timeMs ∧ 1 ≤ r.iterations ∧ 1 ≤ r.minStride ∧ r.minStride ≤ r.maxStride := by
  unfold validate
  repeat' split
  all_goals simp only [reduceCtorEq, false_iff, true_iff]; omega

/-! ### Trial runs in turn -/

namespace Estimator

variable {ω : Type}

/-- What a search shares with its trial run at the size `2 ^ i`, after those at the sizes before. -/
def worldAt (estimate : Estimator ω) (world : ω) : Nat → ω
  | 0 => world
  | i + 1 => (estimate (worldAt estimate world i) (2 ^ i)).1

/-- What the trial run at the size `2 ^ i` costs in a search. -/
def costAt (estimate : Estimator ω) (world : ω) (i : Nat) : Reading :=
  (estimate (estimate.worldAt world i) (2 ^ i)).2

end Estimator

/-- A search of which no trial run broke off. -/
def Probe.Unbroken {ω : Type} (probe : Probe ω) : Prop :=
  ∀ size fault, (size, .broken fault) ∉ probe.readings

namespace StridePolicy

variable {ω : Type} {p : StridePolicy} {estimate : Estimator ω} {w world : ω}
  {good left exponent : Nat} {range : StrideRange} {probe : Probe ω} {cost : Nat → Reading}
  {reading : Reading}

/-- Why a search ends without a range when no trial run breaks off. It starts at the size
`2 ^ exponent`, which can double `left` times. -/
inductive Overruns (p : StridePolicy) (cost : Nat → Reading) (exponent left : Nat) : Prop where
  /-- The memory budget in bytes is no count, and a trial run that ends asks for it. -/
  | budget (large : Word.bound ≤ p.maxFootprintMb * 2 ^ 20) (bytes : Nat) (elapsed : Span)
      (asked : cost exponent = .sample bytes elapsed)
  /-- All sizes that are counts pass, and the maximum lies beyond the last of them. -/
  | doubling (fits : p.maxFootprintMb * 2 ^ 20 < Word.bound) (far : 2 ^ (exponent + left) < p.most)
      (passes : ∀ i, exponent ≤ i → i ≤ exponent + left → p.Allows (cost i))

theorem bytes_eq (p : StridePolicy) :
    p.maxFootprintMb * 1024 * 1024 = p.maxFootprintMb * 2 ^ 20 :=
  Nat.mul_assoc _ 1024 1024

theorem broken?_overflow (large : Word.bound ≤ p.maxFootprintMb * 2 ^ 20) (bytes : Nat)
    (elapsed : Span) : p.broken? (.sample bytes elapsed) = .error .mulOverflow := by
  rw [← bytes_eq] at large
  have total : Word.mul (p.maxFootprintMb * 1024) 1024 = .error .mulOverflow :=
    if_neg (Nat.not_lt.2 large)
  unfold broken?
  by_cases kilobytes : p.maxFootprintMb * 1024 < Word.bound
  · rw [Word.mul_eq_ok.2 ⟨rfl, kilobytes⟩]
    simp only [bind, Except.bind, total]
  · rw [Word.mul, if_neg kilobytes]
    rfl

/-- A search goes on only if the memory budget is a count. -/
theorem budget_of_broken? (judged : p.broken? reading = .ok none) :
    p.maxFootprintMb * 2 ^ 20 < Word.bound := by
  refine Nat.lt_of_not_le fun large => ?_
  cases reading with
  | sample bytes elapsed => exact nomatch (broken?_overflow large bytes elapsed).symm.trans judged
  | outOfMemory => exact nomatch judged
  | broken fault => exact nomatch judged

theorem not_overruns_of_capped {cap : StrideCap}
    (judged : p.broken? (cost exponent) = .ok (some cap)) : ¬ Overruns p cost exponent left := by
  rintro (⟨large, bytes, elapsed, asked⟩ | ⟨fits, -, passes⟩)
  · rw [asked, broken?_overflow large] at judged
    exact nomatch judged
  · rw [(passes exponent (Nat.le_refl _) (Nat.le_add_right _ _)).judged fits] at judged
    exact nomatch judged

theorem not_overruns_of_reached (judged : p.broken? (cost exponent) = .ok none)
    (most : p.most ≤ 2 ^ exponent) : ¬ Overruns p cost exponent left := by
  rintro (⟨large, -⟩ | ⟨-, far, -⟩)
  · exact Nat.not_lt.2 large (budget_of_broken? judged)
  · have beyond := Nat.pow_le_pow_right (n := 2) (by decide) (Nat.le_add_right exponent left)
    omega

/-- A search that goes on overruns from the next size on if it does at all. -/
theorem overruns_succ (judged : p.broken? (cost exponent) = .ok none) :
    Overruns p cost (exponent + 1) left ↔ Overruns p cost exponent (left + 1) := by
  have fits := budget_of_broken? judged
  have next : exponent + 1 + left = exponent + (left + 1) := by omega
  constructor
  · rintro (⟨large, -⟩ | ⟨-, far, passes⟩)
    · exact absurd large (Nat.not_le.2 fits)
    · refine .doubling fits (next ▸ far) fun i above within => ?_
      rcases Nat.eq_or_lt_of_le above with rfl | later
      · exact allows_of_broken? fits judged
      · exact passes i later (next ▸ within)
  · rintro (⟨large, -⟩ | ⟨-, far, passes⟩)
    · exact absurd large (Nat.not_le.2 fits)
    · exact .doubling fits (next ▸ far) fun i above within =>
        passes i (Nat.le_of_succ_le above) (next ▸ within)

/-! ### The search -/

/-- If no trial run breaks off, an overflow is what the search ends with exactly if it overruns. -/
theorem Climbs.overruns_iff (h : Climbs p estimate w good left exponent probe)
    (here : w = estimate.worldAt world exponent)
    (ends : probe.Unbroken) :
    probe.range = .error .mulOverflow ↔ Overruns p (estimate.costAt world) exponent left := by
  induction h with
  | @broken w good left exponent fault judged =>
      subst here
      rw [Nat.one_shiftLeft] at judged ends
      rcases broken?_eq_error judged with broke | ⟨rfl, large⟩
      · exact absurd (List.mem_singleton.2 (congrArg (Prod.mk _) broke.symm)) (ends _ fault)
      · refine iff_of_true rfl ?_
        cases asked : estimate.costAt world exponent with
        | sample bytes elapsed => exact .budget (p.bytes_eq ▸ large) bytes elapsed asked
        | outOfMemory =>
            rw [Estimator.costAt] at asked
            rw [asked] at judged
            exact nomatch judged
        | broken fault =>
            exact absurd (List.mem_singleton.2 (congrArg (Prod.mk _) asked.symm)) (ends _ fault)
  | @capped w good left exponent cap judged =>
      subst here
      rw [Nat.one_shiftLeft] at judged
      change p.broken? (estimate.costAt world exponent) = _ at judged
      exact iff_of_false nofun (not_overruns_of_capped judged)
  | @reached w good left exponent judged most =>
      subst here
      rw [Nat.one_shiftLeft] at judged most
      change p.broken? (estimate.costAt world exponent) = _ at judged
      exact iff_of_false nofun (not_overruns_of_reached judged most)
  | @spent w good exponent judged most =>
      subst here
      rw [Nat.one_shiftLeft] at judged most
      have fits := budget_of_broken? judged
      refine iff_of_true rfl (.doubling fits most fun i above within => ?_)
      obtain rfl : exponent = i := Nat.le_antisymm above within
      exact allows_of_broken? fits judged
  | @doubled w good left exponent rest judged most further ih =>
      subst here
      rw [Nat.one_shiftLeft] at judged ih
      change p.broken? (estimate.costAt world exponent) = _ at judged
      rw [← overruns_succ judged]
      exact ih rfl fun size fault mem => ends size fault (List.mem_cons_of_mem _ mem)

/-- A range that is found lies within the configured one. -/
theorem Climbs.bounds (h : Climbs p estimate w good left exponent probe) (some : 1 ≤ good)
    (least : 1 ≤ p.least) (ordered : p.least ≤ p.most) (found : probe.range = .ok range) :
    1 ≤ range.least ∧ range.least ≤ range.most ∧ range.most ≤ p.most := by
  induction h with
  | broken fault => exact nomatch found
  | spent => exact nomatch found
  | capped cap judged =>
      obtain rfl := Except.ok.inj found
      simp only [rangeFor]
      omega
  | reached judged most =>
      obtain rfl := Except.ok.inj found
      simp only [rangeFor]
      omega
  | doubled judged most further ih =>
      exact ih (by rw [Nat.one_shiftLeft]; exact Nat.one_le_two_pow) found

/-- A search reports what its trial runs cost. -/
theorem Climbs.mem_readings (h : Climbs p estimate w good left exponent probe) {size : Nat}
    (mem : (size, reading) ∈ probe.readings) : ∃ world, reading = (estimate world size).2 := by
  have first {w : ω} {exponent : Nat}
      (same : (size, reading) = (1 <<< exponent, (estimate w (1 <<< exponent)).2)) :
      ∃ world, reading = (estimate world size).2 := by
    obtain ⟨rfl, rfl⟩ := Prod.mk.inj same
    exact ⟨w, rfl⟩
  induction h with
  | broken | capped | reached | spent => exact first (List.mem_singleton.1 mem)
  | doubled judged most further ih =>
      rcases List.mem_cons.1 mem with here | later
      · exact first here
      · exact ih later

theorem unbroken_of_charges (charges : Charges estimate cost) (p : StridePolicy) (world : ω) :
    (p.adjust estimate world).Unbroken := by
  intro size fault mem
  obtain ⟨before, same⟩ := (climb_climbs p estimate world 1 63 0).mem_readings mem
  exact charges.ends size fault ((charges.reading before size).symm.trans same.symm)

theorem adjust_overruns_iff (ends : (p.adjust estimate world).Unbroken) :
    (p.adjust estimate world).range = .error .mulOverflow ↔
      Overruns p (estimate.costAt world) 0 63 :=
  (climb_climbs p estimate world 1 63 0).overruns_iff rfl ends

theorem exists_range (ends : (p.adjust estimate world).Unbroken)
    (counts : ¬ Overruns p (estimate.costAt world) 0 63) :
    ∃ range, (p.adjust estimate world).range = .ok range := by
  cases found : (p.adjust estimate world).range with
  | ok range => exact ⟨range, rfl⟩
  | error fault =>
      rcases broken_of_adjust found with ⟨size, mem⟩ | ⟨rfl, -⟩
      · exact absurd mem (ends size fault)
      · exact absurd ((adjust_overruns_iff ends).1 found) counts

theorem not_overruns (budget : p.maxFootprintMb * 2 ^ 20 < Word.bound)
    (most : p.most ≤ Word.signedBound) : ¬ Overruns p cost 0 63 := by
  rintro (⟨large, -⟩ | ⟨-, far, -⟩)
  · exact Nat.not_lt.2 large budget
  · exact Nat.not_le.2 far most

/-- Pairs that take neither memory nor time pass at all sizes. -/
theorem overruns_free (budget : p.maxFootprintMb * 2 ^ 20 < Word.bound)
    (far : Word.signedBound < p.most) :
    Overruns p (Estimator.costAt (.charging (.perPair 0 0)) ()) 0 63 := by
  refine .doubling budget far fun i _ _ => .sample (Nat.zero_le _) ?_
  rw [Nat.mul_zero]
  exact Nat.zero_le _

/-- Where a bound is missing, some search overruns. -/
theorem exists_overruns
    (missing : ¬ (p.maxFootprintMb * 2 ^ 20 < Word.bound ∧ p.most ≤ Word.signedBound)) :
    ∃ bytes, Overruns p (Estimator.costAt (.charging (.perPair bytes 0)) ()) 0 63 := by
  by_cases budget : p.maxFootprintMb * 2 ^ 20 < Word.bound
  · exact ⟨0, overruns_free budget (Nat.lt_of_not_le fun most => missing ⟨budget, most⟩)⟩
  · exact ⟨1, .budget (Nat.le_of_not_lt budget) _ _ rfl⟩

/-! ### Validated settings -/

/-- A search with validated settings, of which no trial run breaks off, overruns or answers a range
within the configured one. So all such searches answer a range if and only if the memory budget in
bytes is a count and the maximum is no larger than the largest power of two that is one. -/
theorem adjust_validated {r : RunSettings} (valid : r.validate = .ok ()) :
    (∀ (ω : Type) (estimate : Estimator ω) (world : ω),
      (r.stridePolicy.adjust estimate world).Unbroken →
        ((r.stridePolicy.adjust estimate world).range = .error .mulOverflow ↔
          Overruns r.stridePolicy (estimate.costAt world) 0 63) ∧
        (¬ Overruns r.stridePolicy (estimate.costAt world) 0 63 →
          ∃ range, (r.stridePolicy.adjust estimate world).range = .ok range ∧
            1 ≤ range.least ∧ range.least ≤ range.most ∧ range.most ≤ r.maxStride)) ∧
      ((∀ (ω : Type) (estimate : Estimator ω) (world : ω),
        (r.stridePolicy.adjust estimate world).Unbroken →
          ∃ range, (r.stridePolicy.adjust estimate world).range = .ok range) ↔
        r.maxFootprintMb * 2 ^ 20 < Word.bound ∧ r.maxStride ≤ Word.signedBound) := by
  obtain ⟨-, -, least, ordered⟩ := RunSettings.validate_eq_ok.1 valid
  refine ⟨fun ω estimate world ends => ⟨adjust_overruns_iff ends, fun counts => ?_⟩, ?_, ?_⟩
  · obtain ⟨range, found⟩ := exists_range ends counts
    exact ⟨range, found,
      (climb_climbs _ estimate world 1 63 0).bounds (Nat.le_refl 1) least ordered found⟩
  · intro all
    by_contra missing
    obtain ⟨bytes, overruns⟩ := exists_overruns (p := r.stridePolicy) missing
    have ends := unbroken_of_charges (charges_perPair bytes 0) r.stridePolicy ()
    obtain ⟨range, found⟩ := all Unit _ () ends
    exact nomatch found.symm.trans ((adjust_overruns_iff ends).2 overruns)
  · rintro ⟨budget, most⟩ ω estimate world ends
    exact exists_range ends (not_overruns budget most)

/-- The largest settings for which all searches answer a range. -/
def widest : RunSettings :=
  { maxStride := 9223372036854775808, maxFootprintMb := 17592186044415 }

/-- A memory budget of one mebibyte more than has a count of bytes. -/
def roomiest : RunSettings := { maxFootprintMb := 17592186044416 }

/-- A maximum beyond the largest power of two that is a count. -/
def farthest : RunSettings := { maxStride := Word.max }

theorem adjust_validated_widest : widest.validate = .ok () ∧
    (∀ (ω : Type) (estimate : Estimator ω) (world : ω),
      (widest.stridePolicy.adjust estimate world).Unbroken →
        ∃ range, (widest.stridePolicy.adjust estimate world).range = .ok range) ∧
    roomiest.validate = .ok () ∧
    (roomiest.stridePolicy.adjust (.charging (.perPair 1 0)) ()).Unbroken ∧
    Overruns roomiest.stridePolicy (Estimator.costAt (.charging (.perPair 1 0)) ()) 0 63 ∧
    (roomiest.stridePolicy.adjust (.charging (.perPair 1 0)) ()).range = .error .mulOverflow := by
  have all := (adjust_validated (r := widest) rfl).2.2 ⟨by decide, by decide⟩
  have overruns : Overruns roomiest.stridePolicy
      (Estimator.costAt (.charging (.perPair 1 0)) ()) 0 63 := .budget (by decide) _ _ rfl
  have ends := unbroken_of_charges (charges_perPair 1 0) roomiest.stridePolicy ()
  obtain ⟨searches, -⟩ := adjust_validated (r := roomiest) rfl
  obtain ⟨overflows, -⟩ := searches Unit _ () ends
  exact ⟨rfl, all, rfl, ends, overruns, overflows.2 overruns⟩

theorem adjust_overflows_validated :
    (roomiest.validate = .ok () ∧
      (roomiest.stridePolicy.adjust (.charging (.perPair 1 0)) ()).range =
        .error .mulOverflow) ∧
    farthest.validate = .ok () ∧
      (farthest.stridePolicy.adjust (.charging (.perPair 0 0)) ()).range =
        .error .mulOverflow := by
  have ends := unbroken_of_charges (charges_perPair 0 0) farthest.stridePolicy ()
  have overruns : Overruns farthest.stridePolicy
      (Estimator.costAt (.charging (.perPair 0 0)) ()) 0 63 :=
    overruns_free (by decide) (by decide)
  exact ⟨⟨rfl, by cbv⟩, rfl, (adjust_overruns_iff ends).2 overruns⟩

end StridePolicy
end Litmus
