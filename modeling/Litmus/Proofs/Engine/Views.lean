import Litmus.Engine.Pool
import Mathlib.Data.List.Basic
import Mathlib.Data.List.Infix
import Mathlib.Data.List.TakeWhile
import Mathlib.Logic.Function.Iterate

/-!
A view is a flat list of slots. Its three ways of access, by index, from end to end and over a range
of indices, are those of the list, and growing the view puts new slots behind it.
-/
namespace Litmus

/-- The segments of a view are runs of a list of slots, none of them empty, each with the index at
which it starts; whatever is asked of the view, the list answers. -/
structure View.Lists (v : View) (slots : List Nat) : Prop where
  size : v.size = slots.length
  places : v.places = slots
  filled : ∀ segment ∈ v.segments, segment ≠ []
  starts : v.starts =
    (List.range v.segments.length).map fun k => (v.segments.take k).flatten.length
  ascending : v.starts.Pairwise (· < ·)
  inside : ∀ start ∈ v.starts, start < v.size
  place? : ∀ i, v.place? i = .ok slots[i]?
  range : ∀ first last, v.range first last = (slots.take last).drop first

theorem elementAt_append_left {α : Type} {xs : List α} {i : Nat} (h : i < xs.length)
    (ys : List α) : elementAt (xs ++ ys) i = elementAt xs i := by
  simp only [elementAt, List.getElem?_append_left h, List.getElem?_eq_getElem h]

namespace View

variable {v : View} {slots : List Nat}

theorem Lists.empty : View.empty.Lists [] where
  size := rfl
  places := rfl
  filled := by simp [View.empty]
  starts := rfl
  ascending := List.Pairwise.nil
  inside := by simp [View.empty]
  place? := by simp [View.place?, View.empty]
  range := by simp [View.range, View.empty]

/-- A range of a view is the part of its slots between two indices, however they lie. -/
theorem range_eq (size : v.size = v.places.length) (first last : Nat) :
    v.range first last = (v.places.take last).drop first := by
  rw [View.range, size, List.drop_take]
  rcases Nat.le_total last v.places.length with within | beyond
  · rw [Nat.min_eq_left within]
  · rw [Nat.min_eq_right beyond, List.take_of_length_le (by simp),
      List.take_of_length_le (by simp; omega)]

/-- A view with one more segment, which starts where the view ended. -/
def extended (v : View) (segment : List Nat) : View :=
  ⟨v.segments ++ [segment], v.starts ++ [v.size], v.size + segment.length⟩

theorem size_extended (v : View) (segment : List Nat) :
    (v.extended segment).size = v.size + segment.length :=
  rfl

@[simp] theorem places_extended (v : View) (segment : List Nat) :
    (v.extended segment).places = v.places ++ segment := by
  simp [places, extended]

theorem grown_eq (v : View) (size place : Nat) : v.grown size place =
    if size ≤ v.size then v else v.extended (List.range' place (v.missing size)) := by
  unfold grown
  split
  case isTrue => rfl
  case isFalse h => simp [extended, missing, Nat.add_sub_cancel' (Nat.le_of_not_le h)]

theorem place?_extended_left (lengths : v.starts.length = v.segments.length)
    (segment : List Nat) {i : Nat} (hi : i < v.size) :
    (v.extended segment).place? i = v.place? i := by
  have started : ((v.starts ++ [v.size]).takeWhile (· ≤ i)).length =
      (v.starts.takeWhile (· ≤ i)).length := by
    rw [List.takeWhile_append]
    split
    case isTrue all => simp [all, Nat.not_le.2 hi]
    case isFalse => rfl
  have few : (v.starts.takeWhile (· ≤ i)).length ≤ v.starts.length :=
    (List.takeWhile_prefix _).length_le
  have reached : ¬ v.size + segment.length ≤ i := by omega
  simp only [place?, extended, started, if_neg reached, if_neg (Nat.not_le.2 hi), Word.sub]
  -- Without a segment that starts no later both look-ups fail at the same step.
  by_cases none : 1 ≤ (v.starts.takeWhile (· ≤ i)).length
  · have segment : (v.starts.takeWhile (· ≤ i)).length - 1 < v.segments.length := by omega
    have start : (v.starts.takeWhile (· ≤ i)).length - 1 < v.starts.length := by omega
    simp only [if_pos none, bind, Except.bind, elementAt_append_left segment,
      elementAt_append_left start]
  · simp only [if_neg none, bind, Except.bind]

theorem place?_extended_right (lengths : v.starts.length = v.segments.length)
    (inside : ∀ start ∈ v.starts, start < v.size) {segment : List Nat} {i : Nat}
    (hi : i < segment.length) :
    (v.extended segment).place? (v.size + i) = .ok segment[i]? := by
  have started : (v.starts ++ [v.size]).takeWhile (· ≤ v.size + i) = v.starts ++ [v.size] := by
    refine List.takeWhile_eq_self_iff.2 fun start hstart => decide_eq_true ?_
    rcases List.mem_append.1 hstart with old | new
    · exact Nat.le_add_right_of_le (Nat.le_of_lt (inside start old))
    · rw [List.mem_singleton.1 new]
      exact Nat.le_add_right _ _
  have reached : ¬ v.size + segment.length ≤ v.size + i := by omega
  simp [place?, extended, started, reached, Word.sub, bind, Except.bind, pure, Except.pure,
    elementAt, lengths, hi]

theorem Lists.starts_length (h : v.Lists slots) : v.starts.length = v.segments.length := by
  simp [h.starts]

theorem Lists.extended (h : v.Lists slots) {segment : List Nat} (filled : segment ≠ []) :
    (v.extended segment).Lists (slots ++ segment) where
  size := by rw [size_extended, h.size, List.length_append]
  places := by rw [places_extended, h.places]
  filled := by
    simp only [View.extended, List.forall_mem_append, List.forall_mem_singleton]
    exact ⟨h.filled, filled⟩
  starts := by
    have before : v.size = v.segments.flatten.length := by rw [h.size, ← h.places, View.places]
    simp only [View.extended, List.length_append, List.length_singleton, List.range_succ,
      List.map_append, List.map_singleton, List.take_left, before, h.starts]
    refine congrArg (· ++ _) (List.map_congr_left fun k hk => ?_)
    rw [List.take_append_of_le_length (Nat.le_of_lt (List.mem_range.1 hk))]
  ascending := by
    refine List.pairwise_append.2 ⟨h.ascending, List.pairwise_singleton _ _, ?_⟩
    simpa using h.inside
  inside := by
    have new := List.length_pos_iff.2 filled
    simp only [View.extended, List.forall_mem_append, List.forall_mem_singleton]
    exact ⟨fun start hstart => Nat.lt_add_right _ (h.inside start hstart), by omega⟩
  place? i := by
    rcases Nat.lt_or_ge i v.size with old | new
    · rw [place?_extended_left h.starts_length segment old, h.place?,
        List.getElem?_append_left (h.size ▸ old)]
    · obtain ⟨k, rfl⟩ := Nat.exists_eq_add_of_le new
      rcases Nat.lt_or_ge k segment.length with inside | beyond
      · rw [place?_extended_right h.starts_length h.inside inside,
          List.getElem?_append_right (by rw [h.size]; omega), h.size, Nat.add_sub_cancel_left]
      · have ended : (v.extended segment).size ≤ v.size + k := Nat.add_le_add_left beyond _
        rw [View.place?, if_pos ended, List.getElem?_eq_none]
        simpa [h.size] using beyond
  range first last := by
    have size : (v.extended segment).size = (v.extended segment).places.length := by
      rw [size_extended, places_extended, h.places, h.size, List.length_append]
    rw [range_eq size, places_extended, h.places]

/-- Growing a view puts as many new slots behind its list as are missing, and none if none is. -/
theorem Lists.grown (h : v.Lists slots) (size place : Nat) :
    (v.grown size place).Lists (slots ++ List.range' place (size - slots.length)) := by
  rw [grown_eq, missing, h.size]
  split
  case isTrue enough => simpa [Nat.sub_eq_zero_of_le enough] using h
  case isFalse few =>
    refine h.extended fun none => ?_
    have := congrArg List.length none
    simp only [List.length_range', List.length_nil] at this
    omega

/-! ### Reading and writing -/

variable {σ : Type}

/-- What a view shows at an index. -/
def read (v : View) (arena : Arena σ) (i : Nat) : Except Fault (Option (Pair σ)) :=
  (v.place? i).map (·.bind (arena[·]?))

/-- The arena after a change of the pair that a view shows at an index, if it shows one. -/
def write (v : View) (i : Nat) (change : Pair σ → Pair σ) (arena : Arena σ) :
    Except Fault (Arena σ) :=
  (v.place? i).map fun
    | some place => arena.modify place change
    | none => arena

theorem Lists.read (h : v.Lists slots) (arena : Arena σ) (i : Nat) :
    v.read arena i = .ok (slots[i]?.bind (arena[·]?)) := by
  rw [View.read, h.place?]
  rfl

theorem Lists.write (h : v.Lists slots) (change : Pair σ → Pair σ) (arena : Arena σ) (i : Nat) :
    v.write i change arena = .ok (slots[i]?.elim arena (arena.modify · change)) := by
  rw [View.write, h.place?]
  cases slots[i]? <;> rfl

theorem size_write {i : Nat} {change : Pair σ → Pair σ} {arena arena' : Arena σ}
    (h : v.write i change arena = .ok arena') : arena'.size = arena.size := by
  unfold write at h
  cases found : v.place? i with
  | error fault => simp [found, Except.map] at h
  | ok place =>
      cases place <;> simp only [found, Except.map, Except.ok.injEq] at h <;> simp [← h]

end View

/-! ### Making states -/

/-- The world after the first makings of states. -/
def worldAfter {ω σ : Type} (fresh : ω → ω × Except Fault σ) (n : Nat) (world : ω) : ω :=
  (fun w => (fresh w).1)^[n] world

/-- If none of the makings breaks off, each is done once, in order. -/
theorem makeStates_of_made {ω σ : Type} {fresh : ω → ω × Except Fault σ} {n : Nat} {world : ω}
    (made : ∀ k < n, ∃ state, (fresh (worldAfter fresh k world)).2 = .ok state) :
    ∃ states, makeStates fresh n world = (worldAfter fresh n world, .ok states) ∧
      ∀ k < n, ∃ state, (fresh (worldAfter fresh k world)).2 = .ok state ∧
        states[k]? = some state := by
  induction n generalizing world with
  | zero => exact ⟨[], rfl, fun k hk => absurd hk (Nat.not_lt_zero k)⟩
  | succ n ih =>
      obtain ⟨first, hfirst⟩ := made 0 (Nat.succ_pos n)
      obtain ⟨rest, hrest, each⟩ :=
        @ih (fresh world).1 fun k hk => made (k + 1) (Nat.succ_lt_succ hk)
      have call : fresh world = ((fresh world).1, .ok first) := Prod.ext rfl hfirst
      refine ⟨first :: rest, ?_, fun k hk => ?_⟩
      · rw [makeStates, call]
        simp only [hrest]
        rfl
      · cases k with
        | zero => exact ⟨first, hfirst, rfl⟩
        | succ k => exact each k (Nat.lt_of_succ_lt_succ hk)

/-- Growing a view makes as many states as slots are missing, and a pair of each. -/
theorem View.Lists.grow {ω σ : Type} {v : View} {slots : List Nat} (h : v.Lists slots)
    {fresh : ω → ω × Except Fault σ} {memory : Memory} {size pairBytes : Nat} {world : ω}
    (room : slots.length < size → memory ((size - slots.length) * pairBytes) = .given)
    (made : ∀ k < size - slots.length, ∃ state,
      (fresh (worldAfter fresh k world)).2 = .ok state) (blank : Outcome) (arena : Arena σ) :
    ∃ states : List σ,
      (∀ k < size - slots.length, ∃ state, (fresh (worldAfter fresh k world)).2 = .ok state ∧
        states[k]? = some state) ∧
      v.grow memory size pairBytes blank fresh world arena =
        (worldAfter fresh (size - slots.length) world,
          .ok (v.grown size arena.size, arena ++ (states.map (Pair.mk · blank)).toArray)) := by
  obtain ⟨states, run, each⟩ := makeStates_of_made made
  refine ⟨states, each, ?_⟩
  rw [← h.size] at room run
  rw [View.grow, View.allot_ok room, View.missing, run, h.size]
  rfl

end Litmus
