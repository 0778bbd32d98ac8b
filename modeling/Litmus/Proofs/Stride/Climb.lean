import Litmus.Stride.Basic

/-!
The search for a stride range. It does not catch what breaks a trial run off: the first trial run
that does is the last one, and its fault is what the search ends with. The only other end without a
range is a count that does not fit.
-/
namespace Litmus.StridePolicy

variable {ω : Type} {p : StridePolicy} {estimate : Estimator ω} {world : ω} {fault : Fault}

theorem mul_eq_error {a b : Nat} (h : Word.mul a b = .error fault) :
    fault = .mulOverflow ∧ Word.bound ≤ a * b := by
  unfold Word.mul at h
  split at h
  case isTrue => simp at h
  case isFalse large => exact ⟨(Except.error.inj h).symm, Nat.not_lt.1 large⟩

/-- Judging a reading breaks off if the trial run did or if the budget is no count. -/
theorem broken?_eq_error {reading : Reading} (h : p.broken? reading = .error fault) :
    reading = .broken fault ∨
      fault = .mulOverflow ∧ Word.bound ≤ p.maxFootprintMb * 1024 * 1024 := by
  cases reading with
  | outOfMemory => simp [broken?] at h
  | broken fault' => exact .inl (congrArg _ (Except.error.inj h))
  | sample bytes elapsed =>
      refine .inr ?_
      unfold broken? at h
      cases kilobytes : Word.mul p.maxFootprintMb 1024 with
      | error fault' =>
          rw [kilobytes] at h
          obtain rfl : fault' = fault := Except.error.inj h
          obtain ⟨same, large⟩ := mul_eq_error kilobytes
          exact ⟨same, Nat.le_trans large (Nat.le_mul_of_pos_right _ (by decide))⟩
      | ok total =>
          obtain ⟨rfl, -⟩ := Word.mul_eq_ok.1 kilobytes
          rw [kilobytes] at h
          cases budget : Word.mul (p.maxFootprintMb * 1024) 1024 with
          | error fault' =>
              simp only [bind, Except.bind, budget] at h
              obtain rfl : fault' = fault := Except.error.inj h
              exact mul_eq_error budget
          | ok bytes =>
              simp only [bind, Except.bind, budget] at h
              split at h
              · simp [pure, Except.pure] at h
              · split at h <;> simp [pure, Except.pure] at h

/-- What a search does with the trial run at the size `1 <<< exponent`: it ends there, or goes on to
twice the size. -/
inductive Climbs (p : StridePolicy) (estimate : Estimator ω) :
    (world : ω) → (good left exponent : Nat) → Probe ω → Prop where
  | broken {world : ω} {good left exponent : Nat} (fault : Fault)
      (judged : p.broken? (estimate world (1 <<< exponent)).2 = .error fault) :
      Climbs p estimate world good left exponent
        ⟨(estimate world (1 <<< exponent)).1,
          [(1 <<< exponent, (estimate world (1 <<< exponent)).2)],
          .error fault, 1 <<< exponent⟩
  | capped {world : ω} {good left exponent : Nat} (cap : StrideCap)
      (judged : p.broken? (estimate world (1 <<< exponent)).2 = .ok (some cap)) :
      Climbs p estimate world good left exponent
        ⟨(estimate world (1 <<< exponent)).1,
          [(1 <<< exponent, (estimate world (1 <<< exponent)).2)],
          .ok (p.rangeFor good cap), 1 <<< exponent⟩
  | reached {world : ω} {good left exponent : Nat}
      (judged : p.broken? (estimate world (1 <<< exponent)).2 = .ok none)
      (most : p.most ≤ 1 <<< exponent) :
      Climbs p estimate world good left exponent
        ⟨(estimate world (1 <<< exponent)).1,
          [(1 <<< exponent, (estimate world (1 <<< exponent)).2)],
          .ok (p.rangeFor p.most .none), 1 <<< exponent⟩
  | spent {world : ω} {good exponent : Nat}
      (judged : p.broken? (estimate world (1 <<< exponent)).2 = .ok none)
      (most : 1 <<< exponent < p.most) :
      Climbs p estimate world good 0 exponent
        ⟨(estimate world (1 <<< exponent)).1,
          [(1 <<< exponent, (estimate world (1 <<< exponent)).2)],
          .error .mulOverflow, 1 <<< exponent⟩
  | doubled {world : ω} {good left exponent : Nat} {rest : Probe ω}
      (judged : p.broken? (estimate world (1 <<< exponent)).2 = .ok none)
      (most : 1 <<< exponent < p.most)
      (further : Climbs p estimate (estimate world (1 <<< exponent)).1 (1 <<< exponent) left
        (exponent + 1) rest) :
      Climbs p estimate world good (left + 1) exponent
        { rest with
          readings := (1 <<< exponent, (estimate world (1 <<< exponent)).2) :: rest.readings }

theorem climb_climbs (p : StridePolicy) (estimate : Estimator ω) (world : ω)
    (good left exponent : Nat) :
    Climbs p estimate world good left exponent
      (p.climb estimate world good left exponent) := by
  induction left generalizing world good exponent with
  | zero =>
      unfold climb
      dsimp only
      split
      case h_1 fault judged => exact .broken fault judged
      case h_2 cap judged => exact .capped cap judged
      case h_3 judged =>
        split
        case isTrue most => exact .reached judged most
        case isFalse most => exact .spent judged (Nat.not_le.1 most)
  | succ left ih =>
      unfold climb
      dsimp only
      split
      case h_1 fault judged => exact .broken fault judged
      case h_2 cap judged => exact .capped cap judged
      case h_3 judged =>
        split
        case isTrue most => exact .reached judged most
        case isFalse most => exact .doubled judged (Nat.not_le.1 most) (ih _ _ _)

/-- A trial run that breaks off ends the search with its fault. -/
theorem Climbs.range_of_broken {good left exponent size : Nat} {probe : Probe ω}
    (h : Climbs p estimate world good left exponent probe)
    (mem : (size, .broken fault) ∈ probe.readings) : probe.range = .error fault := by
  have ends {world : ω} {exponent : Nat} {found : Except Fault (Option StrideCap)}
      (judged : p.broken? (estimate world (1 <<< exponent)).2 = found)
      (mem : (size, .broken fault) = (1 <<< exponent, (estimate world (1 <<< exponent)).2)) :
      found = .error fault := by
    rw [← judged, ← (Prod.mk.inj mem).2]
    rfl
  induction h with
  | broken fault' judged => exact congrArg _ (Except.error.inj (ends judged (by simpa using mem)))
  | capped cap judged => exact nomatch ends judged (by simpa using mem)
  | reached judged most => exact nomatch ends judged (by simpa using mem)
  | spent judged most => exact nomatch ends judged (by simpa using mem)
  | doubled judged most further ih =>
      rcases List.mem_cons.1 mem with here | later
      · exact nomatch ends judged here
      · exact ih later

/-- A search without a range met a trial run that broke off, or a count that does not fit. -/
theorem Climbs.broken_of_range {good left exponent : Nat} {probe : Probe ω}
    (h : Climbs p estimate world good left exponent probe) (range : probe.range = .error fault) :
    (∃ size, (size, .broken fault) ∈ probe.readings) ∨
      fault = .mulOverflow ∧ (Word.bound ≤ p.maxFootprintMb * 1024 * 1024 ∨
        1 <<< (exponent + left) < p.most) := by
  induction h with
  | @broken world good left exponent fault' judged =>
      obtain rfl : fault' = fault := Except.error.inj range
      rcases broken?_eq_error judged with reading | ⟨same, large⟩
      · exact .inl ⟨1 <<< exponent, List.mem_singleton.2 (Prod.ext rfl reading.symm)⟩
      · exact .inr ⟨same, .inl large⟩
  | capped cap judged => exact nomatch range
  | reached judged most => exact nomatch range
  | spent judged most => exact .inr ⟨(Except.error.inj range).symm, .inr most⟩
  | @doubled world good left exponent rest judged most further ih =>
      rcases ih range with ⟨size, mem⟩ | ⟨same, large⟩
      · exact .inl ⟨size, List.mem_cons_of_mem _ mem⟩
      · refine .inr ⟨same, large.imp_right fun most => ?_⟩
        rwa [Nat.add_right_comm, Nat.add_assoc] at most

theorem range_adjust {size : Nat}
    (mem : (size, .broken fault) ∈ (p.adjust estimate world).readings) :
    (p.adjust estimate world).range = .error fault :=
  (climb_climbs p estimate world 1 63 0).range_of_broken mem

theorem broken_of_adjust (range : (p.adjust estimate world).range = .error fault) :
    (∃ size, (size, .broken fault) ∈ (p.adjust estimate world).readings) ∨
      fault = .mulOverflow ∧ (Word.bound ≤ p.maxFootprintMb * 1024 * 1024 ∨
        Word.signedBound < p.most) :=
  (climb_climbs p estimate world 1 63 0).broken_of_range range

end Litmus.StridePolicy
