import Litmus.Proofs.Lookup
import Litmus.Proofs.Tally
import Mathlib.Data.List.Perm.Basic

/-!
Tallies as partial sums. A tally is a function from outcomes to counts: whatever order its entries
are in, recording and merging give a tally of the sum, or overflow if some sum is not a count. Since
counts only grow, a sum that fits can be reached in any order.
-/
namespace Litmus.Tally

variable {κ : Type}

/-- No outcome has two entries, and what an entry holds is a count and not zero. -/
structure WellFormed (t : Tally κ) : Prop where
  distinct : t.Distinct
  positive : ∀ e ∈ t.entries, 0 < e.2
  small : ∀ e ∈ t.entries, e.2 < Word.bound

theorem wellFormed_empty : (empty : Tally κ).WellFormed :=
  ⟨List.nodup_nil, List.forall_mem_nil _, List.forall_mem_nil _⟩

theorem WellFormed.nodup_entries {t : Tally κ} (h : t.WellFormed) : t.entries.Nodup :=
  h.distinct.of_map

theorem WellFormed.perm {t t' : Tally κ} (h : t.WellFormed) (order : t.entries.Perm t'.entries) :
    t'.WellFormed :=
  ⟨(order.map Prod.fst).nodup_iff.1 h.distinct, fun e mem => h.positive e (order.mem_iff.2 mem),
    fun e mem => h.small e (order.mem_iff.2 mem)⟩

variable [DecidableEq κ]

/-- The tallies that can be made, each with what was observed. The entries of a tally may be found
in any order. -/
inductive Gathers : List κ → Tally κ → Prop where
  | empty : Gathers [] empty
  | record {obs : List κ} {t t' : Tally κ} {key : κ} (h : Gathers obs t)
      (made : t.record key = .ok t') : Gathers (obs ++ [key]) t'
  | recordMany {obs : List κ} {t t' : Tally κ} {key : κ} {n : Nat} (h : Gathers obs t)
      (small : n < Word.bound) (made : t.recordMany key n = .ok t') :
      Gathers (obs ++ List.replicate n key) t'
  | merge {obs obs' : List κ} {a b t : Tally κ} (h : Gathers obs a) (h' : Gathers obs' b)
      (made : a.merge b = .ok t) : Gathers (obs ++ obs') t
  | ofList {obs : List κ} {t : Tally κ} (made : ofList obs = .ok t) : Gathers obs t
  | reordered {obs : List κ} {t t' : Tally κ} (h : Gathers obs t)
      (order : t.entries.Perm t'.entries) : Gathers obs t'

def Reachable (t : Tally κ) : Prop := ∃ obs, Gathers obs t

/-- The outcome of an operation that should count `f`: it does, or some count does not fit. -/
inductive Yields (f : κ → Nat) : Except Fault (Tally κ) → Prop where
  | counted {t : Tally κ} (well : t.WellFormed) (counts : ∀ k, t.count k = f k) : Yields f (.ok t)
  | overflow (k : κ) (large : Word.bound ≤ f k) : Yields f (.error .addOverflow)

/-- Two operations are both defined and give tallies that count alike, or break off alike. -/
inductive Agree : Except Fault (Tally κ) → Except Fault (Tally κ) → Prop where
  | defined {a b : Tally κ} (same : a.same b = true) : Agree (.ok a) (.ok b)
  | broken (fault : Fault) : Agree (.error fault) (.error fault)

variable {es es' : List (κ × Nat)} {t t' a b c : Tally κ} {key k : κ}
  {n : Nat} {f g : κ → Nat} {x y : Except Fault (Tally κ)} {fault : Fault}

/-! ### Entries and counts -/

theorem countIn_of_mem (distinct : (es.map (·.1)).Nodup) (mem : (key, n) ∈ es) :
    countIn es key = n := by
  induction es with
  | nil => simp at mem
  | cons e rest ih =>
      rw [List.map_cons, List.nodup_cons] at distinct
      rcases List.mem_cons.1 mem with rfl | mem
      · rw [countIn, if_pos rfl]
      · have fresh : e.1 ≠ key := fun same => distinct.1 (same ▸ List.mem_map_of_mem mem)
        rw [countIn, if_neg fresh, ih distinct.2 mem]

namespace WellFormed

theorem mem_entries_iff (h : t.WellFormed) : (key, n) ∈ t.entries ↔ 0 < n ∧ t.count key = n := by
  constructor
  · exact fun mem => ⟨h.positive _ mem, countIn_of_mem h.distinct mem⟩
  · rintro ⟨positive, rfl⟩
    have listed : key ∈ t.entries.map (·.1) := by
      by_contra absent
      exact Nat.ne_of_gt positive (countIn_eq_zero absent)
    obtain ⟨⟨_, m⟩, mem, rfl⟩ := List.mem_map.1 listed
    rwa [count, countIn_of_mem h.distinct mem]

theorem count_lt (h : t.WellFormed) (key : κ) : t.count key < Word.bound := by
  rcases Nat.eq_zero_or_pos (t.count key) with zero | positive
  · rw [zero]
    decide
  · exact h.small _ (h.mem_entries_iff.2 ⟨positive, rfl⟩)

/-- Two tallies count alike if they have the same entries, in whatever order. -/
theorem perm_iff (ha : a.WellFormed) (hb : b.WellFormed) :
    a.entries.Perm b.entries ↔ ∀ k, a.count k = b.count k := by
  rw [List.perm_ext_iff_of_nodup ha.nodup_entries hb.nodup_entries]
  simp only [Prod.forall, ha.mem_entries_iff, hb.mem_entries_iff]
  constructor
  · intro alike k
    rcases Nat.eq_zero_or_pos (a.count k) with zero | positive
    · by_contra differ
      have more := Nat.pos_of_ne_zero (zero ▸ Ne.symm differ : b.count k ≠ 0)
      exact differ ((alike k _).2 ⟨more, rfl⟩).2
    · exact ((alike k _).1 ⟨positive, rfl⟩).2.symm
  · exact fun alike k n => by rw [alike]

theorem same_iff (ha : a.WellFormed) (hb : b.WellFormed) :
    a.same b = true ↔ ∀ k, a.count k = b.count k := by
  rw [← ha.perm_iff hb]
  rw [same, Bool.and_eq_true, decide_eq_true_eq, List.all_eq_true]
  constructor
  · rintro ⟨length, found⟩
    have inside : a.entries ⊆ b.entries := fun e mem =>
      mem_of_lookup (of_decide_eq_true (found e mem))
    exact (List.subperm_of_subset ha.nodup_entries inside).perm_of_length_le
      (Nat.le_of_eq length.symm)
  · exact fun order => ⟨order.length_eq, fun e mem =>
      decide_eq_true ((lookup_eq_some_iff hb.distinct).2 (order.mem_iff.1 mem))⟩

end WellFormed

/-! ### What an operation yields -/

namespace Yields

theorem agree (hx : Yields f x) (hy : Yields f y) : Agree x y := by
  cases hx with
  | counted well counts =>
      cases hy with
      | counted well' counts' =>
          exact .defined ((well.same_iff well').2 fun k => (counts k).trans (counts' k).symm)
      | overflow k large => exact absurd (counts k ▸ well.count_lt k) (Nat.not_lt.2 large)
  | overflow k large =>
      cases hy with
      | counted well counts => exact absurd (counts k ▸ well.count_lt k) (Nat.not_lt.2 large)
      | overflow => exact .broken _

theorem defined_iff (h : Yields f x) : (∃ t, x = .ok t) ↔ ∀ k, f k < Word.bound := by
  cases h with
  | counted well counts => exact ⟨fun _ k => counts k ▸ well.count_lt k, fun _ => ⟨_, rfl⟩⟩
  | overflow k large => exact ⟨nofun, fun fits => absurd (fits k) (Nat.not_lt.2 large)⟩

theorem of_ok (h : Yields f (.ok t)) : t.WellFormed ∧ ∀ k, t.count k = f k := by
  cases h with
  | counted well counts => exact ⟨well, counts⟩

/-- An operation after another one, which does not count less. -/
theorem bind {next : Tally κ → Except Fault (Tally κ)} (h : Yields f x) (more : ∀ k, f k ≤ g k)
    (step : ∀ t, t.WellFormed → (∀ k, t.count k = f k) → Yields g (next t)) :
    Yields g (x >>= next) := by
  cases h with
  | counted well counts => exact step _ well counts
  | overflow k large => exact .overflow k (Nat.le_trans large (more k))

end Yields

theorem addTo_bounds (bounds : ∀ e ∈ es, 0 < e.2 ∧ e.2 < Word.bound) (new : 0 < n ∧ n < Word.bound)
    (h : addTo es key n = .ok es') : ∀ e ∈ es', 0 < e.2 ∧ e.2 < Word.bound := by
  induction es generalizing es' with
  | nil =>
      obtain rfl := Except.ok.inj h
      exact List.forall_mem_singleton.2 new
  | cons e rest ih =>
      obtain ⟨first, others⟩ := List.forall_mem_cons.1 bounds
      unfold addTo at h
      split at h
      · cases sum : Word.add e.2 n with
        | error fault => simp [sum, Except.map] at h
        | ok m =>
            obtain rfl : (e.1, m) :: rest = es' := by simpa [sum, Except.map] using h
            obtain ⟨rfl, fits⟩ := Word.add_eq_ok.1 sum
            exact List.forall_mem_cons.2 ⟨⟨by omega, fits⟩, others⟩
      · cases added : addTo rest key n with
        | error fault => simp [added, Except.map] at h
        | ok rest' =>
            obtain rfl : e :: rest' = es' := by simpa [added, Except.map] using h
            exact List.forall_mem_cons.2 ⟨first, ih others added⟩

theorem WellFormed.recordMany (h : t.WellFormed) (small : n < Word.bound)
    (made : t.recordMany key n = .ok t') : t'.WellFormed := by
  have distinct := (recordMany_eq_ok made).2 h.distinct
  unfold Tally.recordMany at made
  split at made
  case isTrue => exact Except.ok.inj made ▸ h
  case isFalse some =>
    cases added : addTo t.entries key n with
    | error fault => simp [added, Except.map] at made
    | ok entries =>
        obtain rfl : (⟨entries⟩ : Tally κ) = t' := by simpa [added, Except.map] using made
        have bounds := addTo_bounds (fun e mem => ⟨h.positive e mem, h.small e mem⟩)
          ⟨Nat.pos_of_ne_zero some, small⟩ added
        exact ⟨distinct, fun e mem => (bounds e mem).1, fun e mem => (bounds e mem).2⟩

theorem yields_recordMany (h : t.WellFormed) (small : n < Word.bound) :
    Yields (fun k => t.count k + if k = key then n else 0) (t.recordMany key n) := by
  cases made : t.recordMany key n with
  | ok t' => exact .counted (h.recordMany small made) (count_recordMany made)
  | error fault =>
      obtain rfl := recordMany_eq_error made
      refine .overflow key (Nat.le_of_not_lt fun fits => ?_)
      rw [if_pos rfl] at fits
      obtain ⟨t', made'⟩ := recordMany_ok fits
      exact nomatch made.symm.trans made'

/-- Steps that each count something more count all of it together. -/
theorem yields_foldlM {α : Type} {step : Tally κ → α → Except Fault (Tally κ)} {more : α → κ → Nat}
    {xs : List α} (steps : ∀ x ∈ xs, ∀ t : Tally κ, t.WellFormed →
      Yields (fun k => t.count k + more x k) (step t x)) (h : t.WellFormed) :
    Yields (fun k => t.count k + (xs.map (more · k)).sum) (xs.foldlM step t) := by
  induction xs generalizing t with
  | nil => exact .counted h fun _ => rfl
  | cons x xs ih =>
      obtain ⟨first, others⟩ := List.forall_mem_cons.1 steps
      rw [List.foldlM_cons]
      refine (first t h).bind (fun k => ?_) fun t' well counts => ?_
      · rw [List.map_cons, List.sum_cons]
        omega
      · have rest := ih others well
        simpa only [counts, List.map_cons, List.sum_cons, Nat.add_assoc] using rest

/-- The entries of a tally, each counted where its outcome is. -/
theorem sum_entries (distinct : (es.map (·.1)).Nodup) (k : κ) :
    (es.map fun e => if k = e.1 then e.2 else 0).sum = countIn es k := by
  induction es with
  | nil => rfl
  | cons e rest ih =>
      rw [List.map_cons, List.nodup_cons] at distinct
      rw [List.map_cons, List.sum_cons, ih distinct.2, countIn]
      by_cases same : k = e.1
      · rw [if_pos same, if_pos same.symm, countIn_eq_zero (same ▸ distinct.1), Nat.add_zero]
      · rw [if_neg same, if_neg (Ne.symm same), Nat.zero_add]

/-- Merging in place: the entries of a tally are counted one after the other, in any order. -/
theorem yields_absorb (ha : a.WellFormed) (hb : b.WellFormed) (order : es.Perm b.entries) :
    Yields (fun k => a.count k + b.count k) (es.foldlM (fun t e => t.recordMany e.1 e.2) a) := by
  have steps (e : κ × Nat) (mem : e ∈ es) (t : Tally κ) (well : t.WellFormed) :
      Yields _ (t.recordMany e.1 e.2) :=
    yields_recordMany well (hb.small e (order.mem_iff.1 mem))
  have all := yields_foldlM steps ha
  have counts (k : κ) : (es.map fun e => if k = e.1 then e.2 else 0).sum = b.count k :=
    (order.map _).sum_eq.trans (sum_entries hb.distinct k)
  simpa only [counts] using all

theorem yields_merge (ha : a.WellFormed) (hb : b.WellFormed) :
    Yields (fun k => a.count k + b.count k) (a.merge b) :=
  yields_absorb ha hb (.refl _)

theorem count_replicate_eq (n : Nat) (key k : κ) :
    (List.replicate n key).count k = if k = key then n else 0 := by
  rw [List.count_replicate]
  exact if_congr (beq_iff_eq.trans eq_comm) rfl rfl

theorem sum_occurrences (keys : List κ) (k : κ) :
    (keys.map fun key => if k = key then 1 else 0).sum = keys.count k := by
  induction keys with
  | nil => rfl
  | cons key keys ih =>
      rw [List.map_cons, List.sum_cons, ih, ← count_replicate_eq, ← List.count_append]
      rfl

theorem yields_ofList (keys : List κ) : Yields (fun k => keys.count k) (ofList keys) := by
  have steps (key : κ) (_ : key ∈ keys) (t : Tally κ) (well : t.WellFormed) :
      Yields _ (t.record key) := yields_recordMany well (by decide)
  have all : Yields _ (ofList keys) := yields_foldlM steps wellFormed_empty
  simpa only [count_empty, Nat.zero_add, sum_occurrences] using all

theorem Gathers.counts {obs : List κ} (h : Gathers obs t) :
    t.WellFormed ∧ ∀ k, t.count k = obs.count k := by
  induction h with
  | empty => exact ⟨wellFormed_empty, fun k => rfl⟩
  | record h made ih =>
      rw [Tally.record] at made
      obtain ⟨well, counts⟩ := (made ▸ yields_recordMany ih.1 (by decide)).of_ok
      refine ⟨well, fun k => ?_⟩
      rw [counts, ih.2, List.count_append, ← count_replicate_eq]
      rfl
  | recordMany h small made ih =>
      obtain ⟨well, counts⟩ := (made ▸ yields_recordMany ih.1 small).of_ok
      exact ⟨well, fun k => by rw [counts, ih.2, List.count_append, count_replicate_eq]⟩
  | merge h h' made ih ih' =>
      obtain ⟨well, counts⟩ := (made ▸ yields_merge ih.1 ih'.1).of_ok
      exact ⟨well, fun k => by rw [counts, ih.2, ih'.2, List.count_append]⟩
  | ofList made => exact (made ▸ yields_ofList _).of_ok
  | reordered h order ih =>
      have well := ih.1.perm order
      exact ⟨well, fun k => ((ih.1.perm_iff well).1 order k).symm.trans (ih.2 k)⟩

/-! ### Totals -/

theorem weight_absorb (h : es.foldlM (fun t e => t.recordMany e.1 e.2) t = .ok t') :
    t'.weight = t.weight + weightIn es := by
  induction es generalizing t with
  | nil => exact Except.ok.inj h ▸ rfl
  | cons e rest ih =>
      rw [List.foldlM_cons] at h
      cases first : t.recordMany e.1 e.2 with
      | error fault => simp [first, bind, Except.bind] at h
      | ok t₁ =>
          rw [first] at h
          rw [ih h, (recordMany_eq_ok first).1, weightIn, weightIn, List.map_cons, List.sum_cons,
            Nat.add_assoc]

theorem weight_merge (h : a.merge b = .ok t) : t.weight = a.weight + b.weight := weight_absorb h

theorem total_merge (h : a.merge b = .ok t) :
    t.total = (do Word.add (← a.total) (← b.total)) := by
  rw [total_eq, total_eq, total_eq, weight_merge h]
  by_cases ha : a.weight < Word.bound
  · by_cases hb : b.weight < Word.bound
    · rw [if_pos ha, if_pos hb]
      rfl
    · rw [if_pos ha, if_neg hb, if_neg (by omega)]
      rfl
  · rw [if_neg ha, if_neg (by omega)]
    rfl

/-! ### Laws -/

/-- The laws of merging. -/
structure MergeLaws (a b c : Tally κ) : Prop where
  positive : ∀ e ∈ a.entries, 0 < e.2
  same : a.same b = true ↔ ∀ k, a.count k = b.count k
  defined : (∃ t, a.merge b = .ok t) ↔ ∀ k, a.count k + b.count k < Word.bound
  counts : ∀ t, a.merge b = .ok t → ∀ k, t.count k = a.count k + b.count k
  comm : Agree (a.merge b) (b.merge a)
  assoc : Agree (a.merge b >>= (·.merge c)) (b.merge c >>= a.merge)
  right_empty : a.merge empty = .ok a
  left_empty : Agree (empty.merge a) (.ok a)
  /-- Merging in place agrees with merging, in whatever order it meets the entries. -/
  inPlace : ∀ es : List (κ × Nat), es.Perm b.entries →
    Agree (es.foldlM (fun t e => t.recordMany e.1 e.2) a) (a.merge b)
  total : ∀ t, a.merge b = .ok t → t.total = (do Word.add (← a.total) (← b.total))
  /-- The order of entries is not seen. -/
  unordered : ∀ a' b' : Tally κ, a.entries.Perm a'.entries → b.entries.Perm b'.entries →
    (∀ k, a.count k = a'.count k) ∧ a.total = a'.total ∧ a.same b = a'.same b' ∧
      Agree (a.merge b) (a'.merge b')

/-- The laws of tallies of lists. -/
structure ListLaws (xs ys : List κ) : Prop where
  defined : (∃ t, ofList xs = .ok t) ↔ ∀ k, xs.count k < Word.bound
  counts : ∀ t, ofList xs = .ok t → ∀ k, t.count k = xs.count k
  perm : ∀ zs : List κ, xs.Perm zs → Agree (ofList xs) (ofList zs)
  append : Agree (ofList (xs ++ ys)) (do (← ofList xs).merge (← ofList ys))

theorem WellFormed.assoc (ha : a.WellFormed) (hb : b.WellFormed) (hc : c.WellFormed) :
    Agree (a.merge b >>= (·.merge c)) (b.merge c >>= a.merge) := by
  have left : Yields (fun k => a.count k + b.count k + c.count k)
      (a.merge b >>= (·.merge c)) := by
    refine (yields_merge ha hb).bind (fun k => Nat.le_add_right _ _) fun t well counts => ?_
    simpa only [counts] using yields_merge well hc
  have right : Yields (fun k => a.count k + b.count k + c.count k) (b.merge c >>= a.merge) := by
    refine (yields_merge hb hc).bind (fun k => by omega) fun t well counts => ?_
    simpa only [counts, Nat.add_assoc] using yields_merge ha well
  exact left.agree right

theorem WellFormed.unordered {a' b' : Tally κ} (ha : a.WellFormed) (hb : b.WellFormed)
    (orderA : a.entries.Perm a'.entries) (orderB : b.entries.Perm b'.entries) :
    (∀ k, a.count k = a'.count k) ∧ a.total = a'.total ∧ a.same b = a'.same b' ∧
      Agree (a.merge b) (a'.merge b') := by
  have ha' := ha.perm orderA
  have hb' := hb.perm orderB
  have countA := (ha.perm_iff ha').1 orderA
  have countB := (hb.perm_iff hb').1 orderB
  refine ⟨countA, total_congr orderA, ?_, ?_⟩
  · rw [Bool.eq_iff_iff, ha.same_iff hb, ha'.same_iff hb']
    simp only [countA, countB]
  · refine (yields_merge ha hb).agree ?_
    simpa only [countA, countB] using yields_merge ha' hb'

theorem WellFormed.mergeLaws (ha : a.WellFormed) (hb : b.WellFormed) (hc : c.WellFormed) :
    MergeLaws a b c where
  positive := ha.positive
  same := ha.same_iff hb
  defined := (yields_merge ha hb).defined_iff
  counts t made := (made ▸ yields_merge ha hb).of_ok.2
  comm := by
    refine (yields_merge ha hb).agree ?_
    simpa only [Nat.add_comm] using yields_merge hb ha
  assoc := ha.assoc hb hc
  right_empty := rfl
  left_empty := by
    refine (yields_merge wellFormed_empty ha).agree (.counted ha fun k => ?_)
    rw [count_empty, Nat.zero_add]
  inPlace es order := (yields_absorb ha hb order).agree (yields_merge ha hb)
  total t made := total_merge made
  unordered a' b' orderA orderB := ha.unordered hb orderA orderB

theorem listLaws (xs ys : List κ) : ListLaws xs ys where
  defined := (yields_ofList xs).defined_iff
  counts t made := (made ▸ yields_ofList xs).of_ok.2
  perm zs order := by
    refine (yields_ofList xs).agree ?_
    simpa only [order.count_eq] using yields_ofList zs
  append := by
    have whole := yields_ofList (xs ++ ys)
    simp only [List.count_append] at whole
    refine whole.agree ((yields_ofList xs).bind (fun k => Nat.le_add_right _ _) fun s well counts =>
      (yields_ofList ys).bind (fun k => Nat.le_add_left _ _) fun t well' counts' => ?_)
    simpa only [counts, counts'] using yields_merge well well'

/-- Tallies that can be made are equal if they count alike, and merging them adds up what they
count, commutes and associates, also as to when it is defined; the order of their entries is not
seen. The tally of a list counts occurrences. -/
theorem merge_laws (ha : a.Reachable) (hb : b.Reachable) (hc : c.Reachable) (xs ys : List κ) :
    MergeLaws a b c ∧ ListLaws xs ys := by
  obtain ⟨_, ha⟩ := ha
  obtain ⟨_, hb⟩ := hb
  obtain ⟨_, hc⟩ := hc
  exact ⟨ha.counts.1.mergeLaws hb.counts.1 hc.counts.1, listLaws xs ys⟩

/-- A tally that counts its one outcome as often as possible. -/
def full : Tally Nat := ⟨[(0, Word.max)]⟩

/-- It can be merged with a tally of another outcome, and not with one of the same. -/
theorem merge_laws_full : full.Reachable ∧
    (∃ t, full.merge ⟨[(1, 1)]⟩ = .ok t) ∧ ¬ (∃ t, full.merge ⟨[(0, 1)]⟩ = .ok t) ∧
      Agree (full.merge ⟨[(1, 1)]⟩ >>= (·.merge ⟨[(0, 1)]⟩))
        ((⟨[(1, 1)]⟩ : Tally Nat).merge ⟨[(0, 1)]⟩ >>= full.merge) := by
  have made : (empty : Tally Nat).recordMany 0 Word.max = .ok full := rfl
  have filled : full.Reachable := ⟨_, .recordMany .empty (by decide) made⟩
  have once (key : Nat) : (⟨[(key, 1)]⟩ : Tally Nat).Reachable := ⟨[key], .ofList rfl⟩
  obtain ⟨other, -⟩ := merge_laws filled (once 1) (once 0) [] []
  obtain ⟨again, -⟩ := merge_laws filled (once 0) (once 1) [] []
  refine ⟨filled, ⟨_, rfl⟩, fun defined => ?_, other.assoc⟩
  exact absurd (again.defined.1 defined 0) (by decide)

end Litmus.Tally
