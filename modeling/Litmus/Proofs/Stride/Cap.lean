import Litmus.Proofs.Stride.Search
import Litmus.Settings.Basic

/-!
When a search reports a cap although the configured maximum would pass. The last size that it asks
is the first power of two that is not below the maximum, and the budgets are asked about that size.
-/
namespace Litmus.StridePolicy

/-- The first power of two that is not below the configured maximum. -/
def top (p : StridePolicy) : Nat := 2 ^ Nat.clog 2 p.most

theorem most_le_top (p : StridePolicy) : p.most ≤ p.top := Nat.le_pow_clog (by decide) p.most

theorem top_le {p : StridePolicy} {i : Nat} (h : p.most ≤ 2 ^ i) : p.top ≤ 2 ^ i :=
  Nat.pow_le_pow_right (by decide) (Nat.clog_le_of_le_pow h)

variable {ω : Type} {p : StridePolicy} {estimate : Estimator ω} {cost : Nat → Reading}
  {k : Nat} {range : StrideRange} {probe : Probe ω}

/-- A search that comes as far as the maximum asks about `top` last. -/
theorem Found.top_eq (h : Found p cost probe k range) (far : p.most ≤ 2 ^ k) : p.top = 2 ^ k := by
  have below : k ≤ Nat.clog 2 p.most := by
    refine Nat.le_of_not_lt fun less => ?_
    exact Nat.not_le.2 (h.passed _ less).2 p.most_le_top
  exact congrArg (2 ^ ·) (Nat.le_antisymm (Nat.clog_le_of_le_pow far) below)

/-- If the maximum passes, no size before it stops the search. -/
theorem Found.most_le (h : Found p cost probe k range) (growing : Growing cost)
    (fits : p.Allows (cost p.most)) : p.most ≤ 2 ^ k := by
  cases h.stops with
  | reached _ most => exact most
  | capped cap breaks =>
      refine Nat.le_of_not_lt fun less => ?_
      exact (fits.of_atMost (growing _ _ (Nat.le_of_lt less))).not_breaks breaks

theorem Found.whole (h : Found p cost probe k range) (ordered : p.least ≤ p.most)
    (far : p.most ≤ 2 ^ k) (fits : p.Allows (cost p.top)) :
    range = ⟨p.least, p.most, .none⟩ := by
  rw [h.top_eq far] at fits
  cases h.stops with
  | reached => rw [Nat.min_eq_left ordered]
  | capped cap breaks => exact absurd breaks fits.not_breaks

theorem Found.halved {cap : StrideCap} (h : Found p cost probe k range) (growing : Growing cost)
    (fits : p.Allows (cost p.most)) (least : 1 ≤ p.most) (breaks : p.Breaks (cost p.top) cap) :
    range.cap = cap ∧ 2 * range.most = p.top ∧ range.most < p.most ∧ p.most < p.top := by
  have far := h.most_le growing fits
  have top := h.top_eq far
  rw [top] at breaks ⊢
  have strict : p.most < 2 ^ k := by
    refine Nat.lt_of_le_of_ne far fun same => ?_
    exact (same ▸ fits).not_breaks breaks
  cases h.stops with
  | reached fits => exact absurd breaks fits.not_breaks
  | capped cap' breaks' =>
      cases k with
      | zero => omega
      | succ k =>
          have good : 2 ^ k < p.most := (h.passed k (Nat.lt_succ_self k)).2
          simp only [Nat.succ_ne_zero, if_false, Nat.add_sub_cancel,
            Nat.min_eq_right (Nat.le_of_lt good)]
          exact ⟨breaks'.unique breaks, (Nat.pow_succ').symm, good, strict⟩

/-- If costs grow and the configured maximum passes, the range goes up to it exactly if `top`
passes too, as it does if the maximum is a power of two. Otherwise the budget that `top` breaks is
the cap, and the range is cut to the half of `top`. -/
theorem adjust_whole_or_halved (charges : Charges estimate cost) (growing : Growing cost)
    (budget : p.maxFootprintMb * 2 ^ 20 < Word.bound) (least : 1 ≤ p.least)
    (ordered : p.least ≤ p.most) (most : p.most ≤ Word.signedBound)
    (fits : p.Allows (cost p.most)) (world : ω) :
    ∃ range, (p.adjust estimate world).range = .ok range ∧
      (p.Allows (cost p.top) → range = ⟨p.least, p.most, .none⟩) ∧
      (∀ cap, p.Breaks (cost p.top) cap →
        range.cap = cap ∧ 2 * range.most = p.top ∧ range.most < p.most ∧ p.most < p.top) ∧
      ∀ i, p.most = 2 ^ i → p.Allows (cost p.top) := by
  obtain ⟨k, range, found⟩ := exists_found charges budget most world
  refine ⟨range, found.answered, found.whole ordered (found.most_le growing fits),
    fun cap => found.halved growing fits (Nat.le_trans least ordered), fun i power => ?_⟩
  have top : p.top = p.most := Nat.le_antisymm (power ▸ top_le (Nat.le_of_eq power)) p.most_le_top
  exact top ▸ fits

theorem adjust_whole_or_halved_mebibyte :
    mebibyte.Allows (.perPair 10 0 mebibyte.most) ∧ mebibyte.top = 131072 ∧
      mebibyte.Breaks (.perPair 10 0 mebibyte.top) .footprint ∧
      ∃ range, (mebibyte.adjust (.charging (.perPair 10 0)) ()).range = .ok range ∧
        range.cap = .footprint ∧ range.most = 65536 := by
  have fits : mebibyte.Allows (.perPair 10 0 mebibyte.most) := .sample (by decide) (by decide)
  have top : mebibyte.top = 131072 := rfl
  have breaks : mebibyte.Breaks (.perPair 10 0 mebibyte.top) .footprint :=
    .memory (by rw [top]; decide)
  obtain ⟨range, answered, -, halved, -⟩ :=
    adjust_whole_or_halved (p := mebibyte) (charges_perPair 10 0) (growing_perPair 10 0)
      (by decide) (by decide) (by decide) (by decide) fits ()
  obtain ⟨cap, most, -⟩ := halved .footprint breaks
  exact ⟨fits, top, breaks, range, answered, cap, by omega⟩

/-- Pairs of which the default footprint has room for the default maximum, but not for the power of
two beyond it. -/
def tightPair : Nat → Reading := .perPair 10485 0

theorem adjust_halves_default :
    Charges (.charging tightPair) tightPair ∧ Growing tightPair ∧
      ({} : RunSettings).stridePolicy = ⟨10, 10000, 100, .ofMillis 1000⟩ ∧
      ({} : RunSettings).stridePolicy.Allows (tightPair 10000) ∧
      (({} : RunSettings).stridePolicy.adjust (.charging tightPair) ()).range =
        .ok ⟨10, 8192, .footprint⟩ :=
  ⟨charges_perPair 10485 0, growing_perPair 10485 0, rfl, .sample (by decide) (by decide), by cbv⟩

end Litmus.StridePolicy
