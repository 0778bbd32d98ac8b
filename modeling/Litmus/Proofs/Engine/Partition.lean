import Mathlib.Algebra.Order.Floor.Div
import Litmus.Proofs.Engine.Slices

/-!
How the slices part a pool among the roles. A slice ends where the one of the next role starts, and
no two slices differ by more than one place in length; so what the roles consume in turn is the
whole pool, each place once.
-/
namespace Litmus

/-- Where the slice of a role starts, and where the slice of the role before it ends. -/
def sliceStart (actors size role : Nat) : Nat := role * size / actors

variable {actors size role place n : Nat}

/-! ### What a slice is -/

/-- A slice overflows exactly if its end does, before it is divided. -/
theorem consumeSlice_eq (staffed : 0 < actors) (counted : role + 1 < Word.bound) (size : Nat) :
    consumeSlice role actors size =
      if (role + 1) * size < Word.bound then
        .ok (sliceStart actors size role, sliceStart actors size (role + 1))
      else .error .mulOverflow := by
  have start : role * size ≤ (role + 1) * size := Nat.mul_le_mul_right size (Nat.le_succ role)
  by_cases fits : (role + 1) * size < Word.bound
  · rw [if_pos fits]
    exact consumeSlice_eq_ok.2 ⟨⟨Nat.lt_of_le_of_lt start fits, counted, fits,
      Nat.ne_of_gt staffed⟩, rfl, rfl⟩
  · have add : Word.add role 1 = .ok (role + 1) := Word.add_eq_ok.2 ⟨rfl, counted⟩
    have last : Word.mul (role + 1) size = .error .mulOverflow := if_neg fits
    have div : Word.div (role * size) actors = .ok (role * size / actors) :=
      Word.div_eq_ok.2 ⟨Nat.ne_of_gt staffed, rfl⟩
    rw [if_neg fits, consumeSlice]
    by_cases first : role * size < Word.bound
    · have mul : Word.mul role size = .ok (role * size) := Word.mul_eq_ok.2 ⟨rfl, first⟩
      simp only [bind, Except.bind, mul, div, add, last]
    · have mul : Word.mul role size = .error .mulOverflow := if_neg first
      simp only [bind, Except.bind, mul]

/-- If the number of the actors times the size of the pool is a count, no slice overflows. -/
theorem consumeSlice_fits (counted : actors < Word.bound) (fits : actors * size < Word.bound)
    (hr : role < actors) :
    consumeSlice role actors size =
      .ok (sliceStart actors size role, sliceStart actors size (role + 1)) := by
  have last : (role + 1) * size ≤ actors * size := Nat.mul_le_mul_right size hr
  rw [consumeSlice_eq (Nat.zero_lt_of_lt hr) (Nat.lt_of_le_of_lt hr counted),
    if_pos (Nat.lt_of_le_of_lt last fits)]

/-! ### Where slices start -/

theorem sliceStart_zero (actors size : Nat) : sliceStart actors size 0 = 0 := by
  rw [sliceStart, Nat.zero_mul, Nat.zero_div]

theorem sliceStart_actors (staffed : 0 < actors) (size : Nat) :
    sliceStart actors size actors = size :=
  Nat.mul_div_cancel_left size staffed

theorem sliceStart_mono {i j : Nat} (h : i ≤ j) :
    sliceStart actors size i ≤ sliceStart actors size j :=
  Nat.div_le_div_right (Nat.mul_le_mul_right size h)

theorem sliceStart_le (hr : role ≤ actors) : sliceStart actors size role ≤ size :=
  Nat.div_le_of_le_mul (Nat.mul_le_mul_right size hr)

/-- A number that is not divisible leaves one more if its quotient is rounded up. -/
theorem ceilDiv_of_mod_pos (staffed : 0 < actors) (rest : 0 < size % actors) :
    size ⌈/⌉ actors = size / actors + 1 := by
  have parts := Nat.div_add_mod size actors
  refine Nat.le_antisymm ?_ (Nat.lt_of_not_le fun small => ?_)
  · exact (ceilDiv_le_iff_le_mul staffed).2 (Nat.le_of_lt (Nat.lt_mul_div_succ size staffed))
  · have covers := (ceilDiv_le_iff_le_mul staffed).1 small
    omega

/-- The remainders of what lies before a slice and of the whole pool decide whether the slice is
rounded up. -/
theorem length_slice (staffed : 0 < actors) (size role : Nat) :
    sliceStart actors size (role + 1) - sliceStart actors size role = size / actors ∨
      sliceStart actors size (role + 1) - sliceStart actors size role = size ⌈/⌉ actors := by
  have next : sliceStart actors size (role + 1) = sliceStart actors size role + size / actors +
      if actors ≤ role * size % actors + size % actors then 1 else 0 := by
    rw [sliceStart, Nat.succ_mul, Nat.add_div staffed, sliceStart]
  by_cases carry : actors ≤ role * size % actors + size % actors
  · have before := Nat.mod_lt (role * size) staffed
    have up : size ⌈/⌉ actors = size / actors + 1 := ceilDiv_of_mod_pos staffed (by omega)
    right
    rw [next, if_pos carry, up, Nat.add_assoc, Nat.add_sub_cancel_left]
  · left
    rw [next, if_neg carry, Nat.add_zero, Nat.add_sub_cancel_left]

/-- The slice of a role, if it does not overflow, has the place in it. -/
def InSlice (role actors size place : Nat) : Prop :=
  ∃ first last, consumeSlice role actors size = .ok (first, last) ∧ first ≤ place ∧ place < last

theorem InSlice.starts (h : InSlice role actors size place) :
    sliceStart actors size role ≤ place ∧ place < sliceStart actors size (role + 1) := by
  obtain ⟨first, last, slice, bounds⟩ := h
  obtain ⟨-, rfl, rfl⟩ := consumeSlice_eq_ok.1 slice
  exact bounds

theorem InSlice.unique {i j : Nat} (hi : InSlice i actors size place)
    (hj : InSlice j actors size place) : i = j :=
  eq_of_between hi.starts hj.starts

/-! ### All slices together -/

/-- What the first roles consume is the pool up to where the next slice starts. -/
theorem View.flatMap_slices (v : View) (hn : n ≤ actors) :
    ((List.range n).flatMap fun role =>
        v.range (sliceStart actors v.size role) (sliceStart actors v.size (role + 1))) =
      v.places.take (sliceStart actors v.size n) := by
  induction n with
  | zero => rw [sliceStart_zero, List.take_zero, List.range_zero, List.flatMap_nil]
  | succ n ih =>
      have inside : min (sliceStart actors v.size (n + 1)) v.size =
          sliceStart actors v.size (n + 1) := Nat.min_eq_left (sliceStart_le hn)
      have grows : sliceStart actors v.size n ≤ sliceStart actors v.size (n + 1) :=
        sliceStart_mono (Nat.le_succ n)
      rw [List.range_succ, List.flatMap_append, ih (Nat.le_of_succ_le hn), List.flatMap_singleton,
        View.range, inside, ← List.take_add, Nat.add_sub_cancel' grows]

/-- The slices part a pool of this size evenly among the actors. -/
structure EvenSlices (actors size : Nat) : Prop where
  first : sliceStart actors size 0 = 0
  last : sliceStart actors size actors = size
  slices : ∀ role < actors, consumeSlice role actors size =
    .ok (sliceStart actors size role, sliceStart actors size (role + 1))
  ordered : ∀ role, sliceStart actors size role ≤ sliceStart actors size (role + 1)
  even : ∀ role,
    sliceStart actors size (role + 1) - sliceStart actors size role = size / actors ∨
      sliceStart actors size (role + 1) - sliceStart actors size role = size ⌈/⌉ actors
  one : ∀ place < size, ∃! role, role < actors ∧ InSlice role actors size place
  /-- The places of a view in the slices of all roles in turn are all its places. -/
  covers : ∀ v : View, v.size = size → v.places.length = size →
    ((List.range actors).flatMap fun role =>
      v.range (sliceStart actors size role) (sliceStart actors size (role + 1))) = v.places

theorem exists_inSlice (staffed : 0 < actors) (counted : actors < Word.bound)
    (fits : actors * size < Word.bound) (hplace : place < size) :
    ∃ role < actors, InSlice role actors size place := by
  rw [← sliceStart_actors staffed size] at hplace
  obtain ⟨role, hr, low, high⟩ := exists_between hplace
  exact ⟨role, hr, _, _, consumeSlice_fits counted fits hr, low, high⟩

theorem evenSlices (staffed : 0 < actors) (counted : actors < Word.bound)
    (fits : actors * size < Word.bound) : EvenSlices actors size where
  first := sliceStart_zero actors size
  last := sliceStart_actors staffed size
  slices _ hr := consumeSlice_fits counted fits hr
  ordered role := sliceStart_mono (Nat.le_succ role)
  even := length_slice staffed size
  one place hplace := by
    obtain ⟨role, hr, mem⟩ := exists_inSlice staffed counted fits hplace
    exact ⟨role, ⟨hr, mem⟩, fun other h => h.2.unique mem⟩
  covers v sized whole := by
    subst sized
    rw [v.flatMap_slices (Nat.le_refl actors), sliceStart_actors staffed, ← whole,
      List.take_length]

/-- As long as the number of the actors times the size of the pool is a count, the slices of the
roles part the pool evenly. Whatever the size is, the slice of one role overflows exactly if its end
is no count before it is divided. -/
theorem slices_part (staffed : 0 < actors) (counted : actors < Word.bound) :
    (∀ size, actors * size < Word.bound → EvenSlices actors size) ∧
      ∀ role size, role + 1 < Word.bound →
        consumeSlice role actors size =
          if (role + 1) * size < Word.bound then
            .ok (sliceStart actors size role, sliceStart actors size (role + 1))
          else .error .mulOverflow :=
  ⟨fun _ fits => evenSlices staffed counted fits,
    fun _ size within => consumeSlice_eq staffed within size⟩

theorem slices_part_three : EvenSlices 3 7 ∧ consumeSlice 1 3 7 = .ok (2, 4) ∧
    consumeSlice 1 3 9223372036854775807 = .ok (3074457345618258602, 6148914691236517204) ∧
    consumeSlice 1 3 9223372036854775808 = .error .mulOverflow := by
  obtain ⟨even, slice⟩ := @slices_part 3 (by decide) (by decide)
  exact ⟨even 7 (by decide), slice 1 7 (by decide), slice 1 9223372036854775807 (by decide),
    slice 1 9223372036854775808 (by decide)⟩

end Litmus
