import Litmus.Proofs.Engine.Pool

/-!
The places of a round that a role has played and consumed, read off the events, and the slices that
the roles are to consume. The slices of all roles together are the places of the pool, and those of
different roles have no place in common.
-/
namespace Litmus

variable {ω σ : Type}

/-- The places on which a role has called its actor in a round, in order. -/
def actedBy (tr : List (Event ω σ)) (r k : Nat) : List Nat :=
  tr.filterMap fun
    | .acted i j place _ _ => if i = r ∧ j = k then some place else none
    | _ => none

/-- The places that a role has consumed in a round, in order. -/
def consumedBy (tr : List (Event ω σ)) (r k : Nat) : List Nat :=
  tr.filterMap fun
    | .consumed i j place _ _ => if i = r ∧ j = k then some place else none
    | _ => none

/-- The places that a role has to consume in a round. -/
def Engine.slice (p : EnginePlan ω σ) (e : Engine ω σ) (r k : Nat) : List Nat :=
  match consumeSlice r p.size (e.sizeAt k) with
  | .ok (first, last) => (e.roundAt k).view.range first last
  | .error _ => []

variable {p : EnginePlan ω σ} {e e' : Engine ω σ} {tr events : List (Event ω σ)} {r k place : Nat}
  {role role' : Role}

theorem actedBy_append (tr events : List (Event ω σ)) (r k : Nat) :
    actedBy (tr ++ events) r k = actedBy tr r k ++ actedBy events r k :=
  List.filterMap_append

theorem consumedBy_append (tr events : List (Event ω σ)) (r k : Nat) :
    consumedBy (tr ++ events) r k = consumedBy tr r k ++ consumedBy events r k :=
  List.filterMap_append

theorem mem_actedBy : place ∈ actedBy tr r k ↔ ∃ world pair, .acted r k place world pair ∈ tr := by
  rw [actedBy, List.mem_filterMap]
  constructor
  · rintro ⟨event, hmem, h⟩
    cases event with
    | acted i j x world pair =>
        simp only [Option.ite_none_right_eq_some, Option.some.injEq] at h
        obtain ⟨⟨rfl, rfl⟩, rfl⟩ := h
        exact ⟨world, pair, hmem⟩
    | _ => simp at h
  · rintro ⟨world, pair, h⟩
    exact ⟨_, h, by simp⟩

theorem mem_consumedBy :
    place ∈ consumedBy tr r k ↔ ∃ world pair, .consumed r k place world pair ∈ tr := by
  rw [consumedBy, List.mem_filterMap]
  constructor
  · rintro ⟨event, hmem, h⟩
    cases event with
    | consumed i j x world pair =>
        simp only [Option.ite_none_right_eq_some, Option.some.injEq] at h
        obtain ⟨⟨rfl, rfl⟩, rfl⟩ := h
        exact ⟨world, pair, hmem⟩
    | _ => simp at h
  · rintro ⟨world, pair, h⟩
    exact ⟨_, h, by simp⟩

theorem actedBy_acted (r i j k place : Nat) (world : ω) (pair : Pair σ) :
    actedBy [.acted i j place world pair] r k = if i = r ∧ j = k then [place] else [] := by
  by_cases h : i = r ∧ j = k
  · simp [actedBy, h]
  · simp [actedBy, h]

theorem consumedBy_consumed (r i j k place : Nat) (world : ω) (pair : Pair σ)
    (rest : List (Event ω σ)) :
    consumedBy (.consumed i j place world pair :: rest) r k =
      (if i = r ∧ j = k then [place] else []) ++ consumedBy rest r k := by
  by_cases h : i = r ∧ j = k
  · simp [consumedBy, h]
  · simp [consumedBy, h]

theorem actedBy_madeFrom (j place : Nat) (made : List (ω × Pair σ)) (r k : Nat) :
    actedBy (madeFrom j place made : List (Event ω σ)) r k = [] := by
  refine List.eq_nil_iff_forall_not_mem.2 fun x hx => ?_
  obtain ⟨world, pair, hmem⟩ := mem_actedBy.1 hx
  simp [madeFrom] at hmem

theorem consumedBy_madeFrom (j place : Nat) (made : List (ω × Pair σ)) (r k : Nat) :
    consumedBy (madeFrom j place made : List (Event ω σ)) r k = [] := by
  refine List.eq_nil_iff_forall_not_mem.2 fun x hx => ?_
  obtain ⟨world, pair, hmem⟩ := mem_consumedBy.1 hx
  simp [madeFrom] at hmem

/-- Events that tell of one role only. -/
structure OfRole (r : Nat) (events : List (Event ω σ)) : Prop where
  acted : ∀ i k, i ≠ r → actedBy events i k = []
  consumed : ∀ i k, i ≠ r → consumedBy events i k = []
  passed : ∀ i mark k, i ≠ r → .passed i mark k ∉ events

namespace OfRole

variable {i : Nat} {mark : Mark}

theorem actedBy_eq (own : OfRole r events) (hi : i ≠ r) (k : Nat) :
    actedBy (tr ++ events) i k = actedBy tr i k := by
  rw [actedBy_append, own.acted i k hi, List.append_nil]

theorem consumedBy_eq (own : OfRole r events) (hi : i ≠ r) (k : Nat) :
    consumedBy (tr ++ events) i k = consumedBy tr i k := by
  rw [consumedBy_append, own.consumed i k hi, List.append_nil]

theorem passed_iff (own : OfRole r events) (hi : i ≠ r) :
    .passed i mark k ∈ tr ++ events ↔ .passed i mark k ∈ tr := by
  rw [List.mem_append]
  exact or_iff_left (own.passed i mark k hi)

end OfRole

theorem Engine.Turn.ofRole (step : Engine.Turn p e r role e' events) : OfRole r events := by
  cases step with
  | grow world view arena phase grown =>
      refine ⟨fun i k _ => actedBy_madeFrom _ _ _ i k,
        fun i k _ => consumedBy_madeFrom _ _ _ i k, ?_⟩
      intro i mark k hi hpassed
      cases List.mem_cons.1 hpassed with
      | inl heq => simp at heq
      | inr hpassed => exact silent_madeFrom _ _ _ i mark k hpassed
  | _ =>
      refine ⟨fun i k hi => ?_, fun i k hi => ?_, fun i mark k hi => ?_⟩
      · simp [actedBy, Ne.symm hi]
      · simp [consumedBy, Ne.symm hi]
      · simp [hi]

/-! ### Slices -/

theorem consumeSlice_eq_ok {r actors size first last : Nat} :
    consumeSlice r actors size = .ok (first, last) ↔
      (r * size < Word.bound ∧ r + 1 < Word.bound ∧ (r + 1) * size < Word.bound ∧ actors ≠ 0) ∧
        r * size / actors = first ∧ (r + 1) * size / actors = last := by
  unfold consumeSlice Word.mul Word.div Word.add
  by_cases h₁ : r * size < Word.bound
  · by_cases h₂ : actors = 0
    · simp [bind, Except.bind, h₁, h₂]
    · by_cases h₃ : r + 1 < Word.bound
      · by_cases h₄ : (r + 1) * size < Word.bound
        · simp [bind, Except.bind, pure, Except.pure, h₁, h₂, h₃, h₄]
        · simp [bind, Except.bind, h₁, h₂, h₃, h₄]
      · simp [bind, Except.bind, h₁, h₂, h₃]
  · simp [bind, Except.bind, h₁]

theorem View.Flat.range_eq {v : View} (h : v.Flat) (first last : Nat) :
    v.range first last = List.range' first (min last v.size - first) := by
  rw [View.range, h]
  apply List.ext_getElem
  · simp
    omega
  · intro i hi hi'
    simp

theorem slice_bounds (flat : (e.roundAt k).view.Flat) (h : place ∈ e.slice p r k) :
    r * e.sizeAt k / p.size ≤ place ∧ place < (r + 1) * e.sizeAt k / p.size ∧
      place < e.sizeAt k := by
  unfold Engine.slice at h
  split at h
  case h_1 first last hslice =>
    obtain ⟨-, rfl, rfl⟩ := consumeSlice_eq_ok.1 hslice
    rw [flat.range_eq, List.mem_range'_1] at h
    change _ ∧ place < _ + (min _ (e.sizeAt k) - _) at h
    omega
  case h_2 => simp at h

theorem slice_nodup (flat : (e.roundAt k).view.Flat) (r : Nat) : (e.slice p r k).Nodup := by
  unfold Engine.slice
  split
  case h_1 =>
    rw [flat.range_eq]
    exact List.nodup_range' ..
  case h_2 => exact List.nodup_nil

/-- A place lies between the ends of one slice only. -/
theorem eq_of_between {size n i j x : Nat} (hi : i * size / n ≤ x ∧ x < (i + 1) * size / n)
    (hj : j * size / n ≤ x ∧ x < (j + 1) * size / n) : i = j := by
  rcases Nat.lt_trichotomy i j with before | same | after
  · have apart : (i + 1) * size / n ≤ j * size / n :=
      Nat.div_le_div_right (Nat.mul_le_mul_right _ before)
    omega
  · exact same
  · have apart : (j + 1) * size / n ≤ i * size / n :=
      Nat.div_le_div_right (Nat.mul_le_mul_right _ after)
    omega

theorem slice_disjoint (flat : (e.roundAt k).view.Flat) {i : Nat} (h : place ∈ e.slice p r k)
    (h' : place ∈ e.slice p i k) : r = i := by
  obtain ⟨low, high, -⟩ := slice_bounds flat h
  obtain ⟨low', high', -⟩ := slice_bounds flat h'
  exact eq_of_between ⟨low, high⟩ ⟨low', high'⟩

/-- Some slice ends beyond a place that the slices together reach. -/
theorem exists_between {actors size n x : Nat} (h : x < actors * size / n) :
    ∃ r < actors, r * size / n ≤ x ∧ x < (r + 1) * size / n := by
  induction actors with
  | zero => simp at h
  | succ actors ih =>
      by_cases earlier : x < actors * size / n
      · obtain ⟨r, hr, bounds⟩ := ih earlier
        exact ⟨r, Nat.lt_succ_of_lt hr, bounds⟩
      · exact ⟨actors, Nat.lt_succ_self _, Nat.le_of_not_lt earlier, h⟩

/-- The slices of all roles cover the pool. -/
theorem exists_slice (flat : (e.roundAt k).view.Flat) (staffed : 0 < p.size)
    (fits : ∀ r < p.size, ∃ first last, consumeSlice r p.size (e.sizeAt k) = .ok (first, last))
    (hplace : place < e.sizeAt k) : ∃ r < p.size, place ∈ e.slice p r k := by
  have all : place < p.size * e.sizeAt k / p.size := by
    rwa [Nat.mul_div_cancel_left _ staffed]
  obtain ⟨r, hr, low, high⟩ := exists_between all
  obtain ⟨first, last, slice⟩ := fits r hr
  refine ⟨r, hr, ?_⟩
  rw [Engine.slice, slice]
  obtain ⟨-, rfl, rfl⟩ := consumeSlice_eq_ok.1 slice
  change place ∈ (e.roundAt k).view.range _ _
  rw [flat.range_eq, List.mem_range'_1]
  change _ ∧ place < _ + (min _ (e.sizeAt k) - _)
  omega

theorem Engine.slice_congr (view : (e'.roundAt k).view = (e.roundAt k).view) (r : Nat) :
    e'.slice p r k = e.slice p r k := by
  rw [Engine.slice, Engine.slice, Engine.sizeAt, view, Engine.sizeAt]

end Litmus
