import Litmus.Placement.Matching
import Mathlib.Data.Finset.Card
import Mathlib.Data.Finset.Image

/-!
Augmenting paths find a matching whenever there is one. A search that succeeds moves groups along a
path and keeps all others matched; a search that fails has visited a set of packages too small for
the groups that fit nowhere else.
-/
namespace Litmus.Matching

/-- Each package fits the group that it holds, and no group is held twice. -/
structure Sound (table : Fits) (owner : List (Option Nat)) : Prop where
  fit : ∀ p g : Nat, owner[p]? = some (some g) → fits table g p = true
  once : ∀ g, owner.count (some g) ≤ 1

/-- The groups of a set can each get a package of their own that fits them. -/
def Matchable (table : Fits) (packages : Nat) (groups : Finset Nat) : Prop :=
  ∃ place : Nat → Nat, Set.InjOn place groups ∧
    ∀ g ∈ groups, place g < packages ∧ fits table g (place g) = true

theorem Matchable.mono {table : Fits} {packages : Nat} {groups more : Finset Nat}
    (h : Matchable table packages more) (sub : groups ⊆ more) :
    Matchable table packages groups := by
  obtain ⟨place, inj, fit⟩ := h
  exact ⟨place, inj.mono (by simpa using sub), fun g hg => fit g (sub hg)⟩

theorem count_pos_of_holds {owner : List (Option Nat)} {p g : Nat}
    (h : owner[p]? = some (some g)) : 0 < owner.count (some g) :=
  List.count_pos_iff.2 (List.mem_of_getElem? h)

/-- A list that holds an item at most once holds it at one place. -/
theorem eq_of_count_le_one {α : Type} [BEq α] [LawfulBEq α] {xs : List α} {x : α} {i j : Nat}
    (h : xs.count x ≤ 1) (hi : xs[i]? = some x) (hj : xs[j]? = some x) : i = j := by
  induction xs generalizing i j with
  | nil => simp at hi
  | cons y ys ih =>
      have later {k : Nat} (hk : ys[k]? = some x) : 0 < ys.count x :=
        List.count_pos_iff.2 (List.mem_of_getElem? hk)
      rw [List.count_cons] at h
      match i, j with
      | 0, 0 => rfl
      | 0, j + 1 =>
          obtain rfl : y = x := by simpa using hi
          have := later (by simpa using hj)
          simp only [beq_self_eq_true, if_true] at h
          omega
      | i + 1, 0 =>
          obtain rfl : y = x := by simpa using hj
          have := later (by simpa using hi)
          simp only [beq_self_eq_true, if_true] at h
          omega
      | i + 1, j + 1 =>
          congr 1
          exact ih (by omega) (by simpa using hi) (by simpa using hj)

/-! ### What a search may change -/

/-- Visited packages stay visited, and keep the group that they hold. -/
structure Extends (s s' : Search) : Prop where
  owners : s'.owner.length = s.owner.length
  visits : s'.visited.length = s.visited.length
  visited : ∀ p : Nat, s.visited[p]? = some true → s'.visited[p]? = some true
  kept : ∀ p : Nat, s.visited[p]? = some true → s'.owner[p]? = s.owner[p]?

theorem Extends.refl (s : Search) : Extends s s :=
  ⟨rfl, rfl, fun _ h => h, fun _ _ => rfl⟩

theorem Extends.trans {s t u : Search} (h : Extends s t) (k : Extends t u) : Extends s u where
  owners := k.owners.trans h.owners
  visits := k.visits.trans h.visits
  visited p hp := k.visited p (h.visited p hp)
  kept p hp := (k.kept p (h.visited p hp)).trans (h.kept p hp)

def Search.visit (s : Search) (p : Nat) : Search :=
  { s with visited := s.visited.set p true }

def Search.place (s : Search) (p group : Nat) : Search :=
  { s with owner := s.owner.set p (some group) }

theorem Search.visited_visit {s : Search} {p q : Nat} (h : s.visited[p]? = some false) :
    (s.visit p).visited[q]? = if p = q then some true else s.visited[q]? := by
  have hp : p < s.visited.length := (List.getElem?_eq_some_iff.1 h).1
  simp [Search.visit, List.getElem?_set, hp]

theorem Extends.visit {s : Search} {p : Nat} (h : s.visited[p]? = some false) :
    Extends s (s.visit p) where
  owners := rfl
  visits := by simp [Search.visit]
  visited q hq := by
    rw [Search.visited_visit h]
    split
    · rfl
    · exact hq
  kept _ _ := rfl

theorem Extends.place {s t : Search} {p group : Nat} (h : Extends s t)
    (hp : s.visited[p]? = some false) : Extends s (t.place p group) where
  owners := by simpa [Search.place] using h.owners
  visits := h.visits
  visited := h.visited
  kept q hq := by
    have hpq : p ≠ q := by
      rintro rfl
      simp [hp] at hq
    simpa [Search.place, List.getElem?_set_ne hpq] using h.kept q hq

/-- What the answer of a search for `group` means: with `true` one more package holds the group and
all other groups are held as often as before; with `false` nothing has moved. -/
def Answers (table : Fits) (group : Nat) (s : Search) : Bool × Search → Prop
  | (true, s') => Extends s s' ∧
      ((∀ p g : Nat, s.owner[p]? = some (some g) → fits table g p = true) →
        ∀ p g : Nat, s'.owner[p]? = some (some g) → fits table g p = true) ∧
      ∀ g, s'.owner.count (some g) = s.owner.count (some g) + if g = group then 1 else 0
  | (false, s') => Extends s s' ∧ s'.owner = s.owner

theorem Answers.extends {table : Fits} {group : Nat} {s : Search} {r : Bool × Search}
    (h : Answers table group s r) : Extends s r.2 := by
  obtain ⟨_ | _, s'⟩ := r
  · exact h.1
  · exact h.1

theorem count_place {s : Search} {p : Nat} {held : Option Nat}
    (group : Nat) (h : s.owner[p]? = some held) (g : Nat) :
    (s.place p group).owner.count (some g) + (if held = some g then 1 else 0) =
      s.owner.count (some g) + if g = group then 1 else 0 := by
  obtain ⟨hp, rfl⟩ := List.getElem?_eq_some_iff.1 h
  have hpos : s.owner[p] = some g → 0 < s.owner.count (some g) := fun hg =>
    count_pos_of_holds (by rw [h, hg])
  simp only [Search.place, List.count_set hp, beq_iff_eq, Option.some.injEq,
    eq_comm (a := group)]
  by_cases h1 : s.owner[p] = some g
  · have := hpos h1
    simp only [h1, if_true]
    omega
  · simp only [h1, if_false]
    omega

theorem fit_place {table : Fits} {s : Search} {p group : Nat}
    (h : ∀ q g : Nat, s.owner[q]? = some (some g) → fits table g q = true)
    (hp : fits table group p = true) (q g : Nat)
    (hq : (s.place p group).owner[q]? = some (some g)) : fits table g q = true := by
  simp only [Search.place, List.getElem?_set] at hq
  split at hq
  case isTrue hpq =>
    subst hpq
    split at hq <;> simp_all
  case isFalse => exact h q g hq

theorem offer_answers {table : Fits} {move : Nat → Search → Bool × Search}
    (hmove : ∀ g s, s.visited.length = s.owner.length → Answers table g s (move g s))
    (group : Nat) (ps : List Nat) (s : Search) (len : s.visited.length = s.owner.length) :
    Answers table group s (offer table move group ps s) := by
  fun_induction offer table move group ps s with
  | case1 s => exact ⟨.refl s, rfl⟩
  | case2 p rest s h s₁ other held s₂ moved =>
      simp only [Bool.and_eq_true, beq_iff_eq] at h
      have visit := Extends.visit h.2
      obtain ⟨ext, fit, count⟩ : Answers table other (s.visit p) (true, s₂) :=
        moved ▸ hmove other (s.visit p) (by simpa [Search.visit] using len)
      have still : s₂.owner[p]? = some (some other) := by
        rw [ext.kept p (by simp [Search.visited_visit h.2])]
        exact held
      refine ⟨(visit.trans ext).place h.2, fun hs => fit_place (fit hs) h.1, fun g => ?_⟩
      have placed := count_place group still g
      have := count g
      simp only [Option.some.injEq, Search.visit, eq_comm (a := other)] at placed this
      change (s₂.place p group).owner.count (some g) = _
      omega
  | case3 p rest s h s₁ other held s₂ stuck ih =>
      simp only [Bool.and_eq_true, beq_iff_eq] at h
      obtain ⟨ext, same⟩ : Answers table other (s.visit p) (false, s₂) :=
        stuck ▸ hmove other (s.visit p) (by simpa [Search.visit] using len)
      have ext := (Extends.visit h.2).trans ext
      have answer := ih (by rw [ext.visits, ext.owners, len])
      revert answer
      generalize offer table move group rest s₂ = r
      obtain ⟨_ | _, s₃⟩ := r
      · rintro ⟨ext', same'⟩
        exact ⟨ext.trans ext', same'.trans same⟩
      · rintro ⟨ext', fit', count'⟩
        rw [same] at fit' count'
        exact ⟨ext.trans ext', fit', count'⟩
  | case4 p rest s h s₁ free =>
      simp only [Bool.and_eq_true, beq_iff_eq] at h
      have hp : p < s.owner.length := by
        rw [← len]
        exact (List.getElem?_eq_some_iff.1 h.2).1
      refine ⟨(Extends.visit h.2).place h.2, fun hs => fit_place hs h.1, fun g => ?_⟩
      have placed := count_place (s := s.visit p) group (List.getElem?_eq_getElem hp) g
      have hne : s.owner[p] ≠ some g := fun hg => free g (by
        change s.owner[p]? = _
        rw [List.getElem?_eq_getElem hp, hg])
      simp only [Search.visit, hne, if_false, Nat.add_zero] at placed
      exact placed
  | case5 p rest s h ih => exact ih len

theorem augment_answers (table : Fits) (depth group : Nat) (s : Search)
    (len : s.visited.length = s.owner.length) :
    Answers table group s (augment table depth group s) := by
  induction depth generalizing group s with
  | zero => exact ⟨.refl s, rfl⟩
  | succ depth ih => exact offer_answers (fun g s len => ih g s len) group _ s len

/-! ### Why a search fails -/

/-- All packages that fit a group have been visited. -/
def Spent (table : Fits) (s : Search) (group : Nat) : Prop :=
  ∀ p < s.owner.length, fits table group p = true → s.visited[p]? = some true

/-- Each package visited between two states of a search holds a group that fits only visited
packages. -/
def Closed (table : Fits) (s s' : Search) : Prop :=
  ∀ p : Nat, s.visited[p]? = some false → s'.visited[p]? = some true →
    ∃ other, s.owner[p]? = some (some other) ∧ Spent table s' other

theorem Spent.extend {table : Fits} {s s' : Search} {group : Nat} (h : Spent table s group)
    (ext : Extends s s') : Spent table s' group := by
  intro p hp fit
  exact ext.visited p (h p (by rwa [← ext.owners]) fit)

theorem Closed.trans {table : Fits} {s t u : Search} (h : Closed table s t)
    (k : Closed table t u) (ext : Extends s t) (ext' : Extends t u) (same : t.owner = s.owner) :
    Closed table s u := by
  intro p hp hu
  have hlt : p < t.visited.length := by
    rw [ext.visits]
    exact (List.getElem?_eq_some_iff.1 hp).1
  cases ht : t.visited[p] with
  | true =>
      obtain ⟨other, held, spent⟩ := h p hp (by rw [List.getElem?_eq_getElem hlt, ht])
      exact ⟨other, held, spent.extend ext'⟩
  | false =>
      rw [← same]
      exact k p (by rw [List.getElem?_eq_getElem hlt, ht]) hu

/-- How many packages have not been visited. -/
def Search.unseen (s : Search) : Nat := s.visited.count false

theorem Search.unseen_visit {s : Search} {p : Nat} (h : s.visited[p]? = some false) :
    (s.visit p).unseen < s.unseen := by
  obtain ⟨hp, hf⟩ := List.getElem?_eq_some_iff.1 h
  have some : 0 < s.visited.count false := List.count_pos_iff.2 (List.mem_of_getElem? h)
  have one : (s.visited.set p true).count false = s.visited.count false - 1 := by
    simp [List.count_set hp, hf]
  change (s.visited.set p true).count false < s.visited.count false
  omega

theorem Extends.unseen_le {s s' : Search} (h : Extends s s') : s'.unseen ≤ s.unseen := by
  suffices ∀ xs ys : List Bool, ys.length = xs.length →
      (∀ p : Nat, xs[p]? = some true → ys[p]? = some true) → ys.count false ≤ xs.count false from
    this _ _ h.visits h.visited
  intro xs
  induction xs with
  | nil =>
      intro ys len _
      simp [List.length_eq_zero_iff.1 len]
  | cons x xs ih =>
      intro ys len sub
      obtain _ | ⟨y, ys⟩ := ys
      · simp
      · have rest := ih ys (by simpa using len) fun p hp => by
          simpa using sub (p + 1) (by simpa using hp)
        have head := sub 0
        cases x <;> cases y <;> simp_all
        omega

theorem Closed.visit {table : Fits} {s t : Search} {p other : Nat}
    (hp : s.visited[p]? = some false) (held : s.owner[p]? = some (some other))
    (spent : Spent table t other) (h : Closed table (s.visit p) t) : Closed table s t := by
  intro q hq ht
  by_cases hpq : p = q
  · subst hpq
    exact ⟨other, held, spent⟩
  · exact h q (by rwa [Search.visited_visit hp, if_neg hpq]) ht

theorem offer_fails {table : Fits} {move : Nat → Search → Bool × Search} {depth : Nat}
    (hmove : ∀ g s, s.visited.length = s.owner.length → Answers table g s (move g s))
    (hfail : ∀ g s s', s.visited.length = s.owner.length → s.unseen < depth →
      move g s = (false, s') → Spent table s' g ∧ Closed table s s')
    (group : Nat) (ps : List Nat) (s s' : Search) (len : s.visited.length = s.owner.length)
    (room : s.unseen ≤ depth) (h : offer table move group ps s = (false, s')) :
    (∀ p ∈ ps, p < s.owner.length → fits table group p = true → s'.visited[p]? = some true) ∧
      Closed table s s' := by
  fun_induction offer table move group ps s with
  | case1 s =>
      obtain rfl : s = s' := by simpa using h
      exact ⟨by simp, fun p hp hs => by simp [hp] at hs⟩
  | case2 => simp at h
  | case3 p rest s fit s₁ other held s₂ stuck ih =>
      simp only [Bool.and_eq_true, beq_iff_eq] at fit
      have len₁ : (s.visit p).visited.length = (s.visit p).owner.length := by
        simpa [Search.visit] using len
      obtain ⟨ext, same⟩ : Answers table other (s.visit p) (false, s₂) :=
        stuck ▸ hmove other (s.visit p) len₁
      have less := Search.unseen_visit fit.2
      obtain ⟨spent, closed⟩ := hfail other (s.visit p) s₂ len₁ (by omega) stuck
      have whole := (Extends.visit fit.2).trans ext
      have len₂ : s₂.visited.length = s₂.owner.length := by rw [whole.visits, whole.owners, len]
      obtain ⟨later, closed'⟩ := ih len₂ (by have := whole.unseen_le; omega) h
      have ext' : Extends s₂ s' := by
        simpa [h] using (offer_answers hmove group rest s₂ len₂).extends
      -- The holder of the package could not move, so all that fits it has been visited too.
      refine ⟨?_, (closed.visit fit.2 held spent).trans closed' whole ext' same⟩
      rintro q (_ | ⟨_, hq⟩) hlt hfit
      · apply ext'.visited _ (ext.visited _ ?_)
        simp [Search.visited_visit fit.2]
      · exact later q hq (by rwa [whole.owners]) hfit
  | case4 => simp at h
  | case5 p rest s skip ih =>
      obtain ⟨later, closed⟩ := ih len room h
      refine ⟨?_, closed⟩
      rintro q (_ | ⟨_, hq⟩) hlt hfit
      · have ext : Extends s s' := by
          simpa [h] using (offer_answers hmove group rest s len).extends
        apply ext.visited
        rw [← len] at hlt
        simpa [hfit, List.getElem?_eq_getElem hlt] using skip
      · exact later q hq hlt hfit

theorem augment_fails {table : Fits} {depth group : Nat} {s s' : Search}
    (len : s.visited.length = s.owner.length) (room : s.unseen < depth)
    (h : augment table depth group s = (false, s')) :
    Spent table s' group ∧ Closed table s s' := by
  induction depth generalizing group s s' with
  | zero => omega
  | succ depth ih =>
      -- Every visit leaves one package fewer unseen, so the depth lasts as long as they do.
      have answers := fun g s len => augment_answers table depth g s len
      obtain ⟨spent, closed⟩ := offer_fails answers (fun g s s' len room h => ih len room h)
        group _ s s' len (by omega) h
      have ext : Extends s s' := by
        simpa [h] using (augment_answers table (depth + 1) group s len).extends
      refine ⟨fun p hp fit => ?_, closed⟩
      rw [ext.owners] at hp
      exact spent p (List.mem_range.2 hp) hp fit

/-! ### Matching one more group -/

theorem Search.start_length (owner : List (Option Nat)) :
    (Search.start owner).visited.length = (Search.start owner).owner.length := by
  simp [Search.start]

theorem Search.start_visited {owner : List (Option Nat)} {p : Nat} (hp : p < owner.length) :
    (Search.start owner).visited[p]? = some false := by
  simp [Search.start, hp]

/-- Groups that fit only into packages that hold others of them cannot all be matched: there is one
group more than there are packages. -/
theorem not_matchable_of_spent {table : Fits} {owner : List (Option Nat)} {s : Search} {group : Nat}
    {groups : Finset Nat} (hs : Sound table owner) (new : owner.count (some group) = 0)
    (covers : ∀ g, some g ∈ owner → g ∈ groups) (ext : Extends (Search.start owner) s)
    (spent : Spent table s group) (closed : Closed table (Search.start owner) s) :
    ¬ Matchable table owner.length (insert group groups) := by
  rintro ⟨place, inj, fit⟩
  have owners : s.owner.length = owner.length := ext.owners
  let seen := (Finset.range owner.length).filter fun p => s.visited[p]? = some true
  have holder : ∀ p ∈ seen, ∃ g, owner[p]? = some (some g) ∧ Spent table s g := by
    intro p hp
    obtain ⟨hlt, hp⟩ := Finset.mem_filter.1 hp
    exact closed p (Search.start_visited (Finset.mem_range.1 hlt)) hp
  choose! held hheld hspent using holder
  have held_inj : Set.InjOn held seen := by
    intro p hp q hq heq
    refine eq_of_count_le_one (hs.once (held p)) (hheld p hp) ?_
    rw [heq]
    exact hheld q hq
  have fresh : group ∉ seen.image held := by
    intro hmem
    obtain ⟨p, hp, rfl⟩ := Finset.mem_image.1 hmem
    have := count_pos_of_holds (hheld p hp)
    omega
  -- These groups are one more than the packages seen, and `maps` leaves them no others.
  have card : (insert group (seen.image held)).card = seen.card + 1 := by
    rw [Finset.card_insert_of_notMem fresh, Finset.card_image_of_injOn held_inj]
  have sub : insert group (seen.image held) ⊆ insert group groups := by
    apply Finset.insert_subset_insert
    intro g hg
    obtain ⟨p, hp, rfl⟩ := Finset.mem_image.1 hg
    exact covers _ (List.mem_of_getElem? (hheld p hp))
  have maps : ∀ g ∈ insert group (seen.image held), place g ∈ seen := by
    intro g hg
    obtain ⟨hlt, hfit⟩ := fit g (sub hg)
    have : Spent table s g := by
      rcases Finset.mem_insert.1 hg with rfl | hg
      · exact spent
      · obtain ⟨p, hp, rfl⟩ := Finset.mem_image.1 hg
        exact hspent p hp
    exact Finset.mem_filter.2 ⟨Finset.mem_range.2 hlt, this _ (by rwa [owners]) hfit⟩
  have := Finset.card_le_card_of_injOn place maps (inj.mono (by exact_mod_cast sub))
  omega

theorem add_eq_some {table : Fits} {owner owner' : List (Option Nat)} {group : Nat}
    (hs : Sound table owner) (new : owner.count (some group) = 0)
    (h : add table owner group = some owner') :
    Sound table owner' ∧ owner'.length = owner.length ∧
      ∀ g, some g ∈ owner' ↔ some g ∈ owner ∨ g = group := by
  unfold add at h
  have answer := augment_answers table (owner.length + 1) group _ (Search.start_length owner)
  split at h
  case h_1 s found =>
    obtain rfl : s.owner = owner' := by simpa using h
    rw [found] at answer
    obtain ⟨ext, fit, count⟩ := answer
    simp only [Search.start] at fit count
    refine ⟨⟨fit hs.fit, fun g => ?_⟩, ext.owners, fun g => ?_⟩
    · have := hs.once g
      rw [count]
      split
      case isTrue hg =>
        subst hg
        omega
      case isFalse => omega
    · rw [← List.count_pos_iff, ← List.count_pos_iff, count]
      split <;> simp_all
  case h_2 => simp at h

theorem add_eq_none {table : Fits} {owner : List (Option Nat)} {group : Nat} {groups : Finset Nat}
    (hs : Sound table owner) (new : owner.count (some group) = 0)
    (covers : ∀ g, some g ∈ owner → g ∈ groups) (h : add table owner group = none) :
    ¬ Matchable table owner.length (insert group groups) := by
  unfold add at h
  have answer := augment_answers table (owner.length + 1) group _ (Search.start_length owner)
  split at h
  case h_1 => simp at h
  case h_2 s failed =>
    have room : (Search.start owner).unseen < owner.length + 1 := by
      simp [Search.unseen, Search.start]
    obtain ⟨spent, closed⟩ := augment_fails (Search.start_length owner) room failed
    rw [failed] at answer
    exact not_matchable_of_spent hs new covers answer.1 spent closed

/-! ### Matching all groups -/

/-- A matching of exactly the groups of a set with packages. -/
structure Matched (table : Fits) (packages : Nat) (groups : Finset Nat)
    (owner : List (Option Nat)) : Prop where
  sound : Sound table owner
  length : owner.length = packages
  covers : ∀ g, some g ∈ owner ↔ g ∈ groups

theorem Matched.matchable {table : Fits} {packages : Nat} {groups : Finset Nat}
    {owner : List (Option Nat)} (h : Matched table packages groups owner) :
    Matchable table packages groups := by
  have held : ∀ g ∈ groups, ∃ p : Nat, owner[p]? = some (some g) := fun g hg =>
    List.mem_iff_getElem?.1 ((h.covers g).2 hg)
  choose! place hplace using held
  refine ⟨place, ?_, fun g hg => ⟨?_, h.sound.fit _ _ (hplace g hg)⟩⟩
  · intro g hg g' hg' heq
    have := hplace g hg
    rw [heq, hplace g' hg'] at this
    simpa using this.symm
  · rw [← h.length]
    exact (List.getElem?_eq_some_iff.1 (hplace g hg)).1

/-- A matching of exactly the groups below `groups` with packages. -/
structure Complete (table : Fits) (packages groups : Nat) (owner : List (Option Nat)) : Prop where
  sound : Sound table owner
  length : owner.length = packages
  covers : ∀ g, some g ∈ owner ↔ g < groups

theorem complete_succ (table : Fits) (packages groups : Nat) :
    complete table packages (groups + 1) =
      (complete table packages groups).bind fun owner => add table owner groups := by
  simp [complete, List.range_succ, List.foldlM_append]

theorem complete_eq_some {table : Fits} {packages groups : Nat} {owner : List (Option Nat)}
    (h : complete table packages groups = some owner) : Complete table packages groups owner := by
  induction groups generalizing owner with
  | zero =>
      obtain rfl : List.replicate packages none = owner := by simpa [complete] using h
      refine ⟨⟨fun p g hp => ?_, fun g => ?_⟩, by simp, by simp⟩
      · simp [List.getElem?_replicate] at hp
      · simp [List.count_replicate]
  | succ groups ih =>
      rw [complete_succ] at h
      obtain ⟨before, hbefore, hadd⟩ := Option.bind_eq_some_iff.1 h
      obtain ⟨sound, length, covers⟩ := ih hbefore
      have new : before.count (some groups) = 0 := by
        rw [List.count_eq_zero, covers]
        omega
      obtain ⟨sound', length', covers'⟩ := add_eq_some sound new hadd
      refine ⟨sound', length'.trans length, fun g => ?_⟩
      rw [covers', covers]
      omega

theorem Complete.matched {table : Fits} {packages groups : Nat} {owner : List (Option Nat)}
    (h : Complete table packages groups owner) :
    Matched table packages (Finset.range groups) owner :=
  ⟨h.sound, h.length, fun g => (h.covers g).trans Finset.mem_range.symm⟩

/-- All groups are matched exactly if they can be. -/
theorem complete_isSome_iff (table : Fits) (packages groups : Nat) :
    (complete table packages groups).isSome = true ↔
      Matchable table packages (Finset.range groups) := by
  constructor
  · intro h
    obtain ⟨owner, howner⟩ := Option.isSome_iff_exists.1 h
    exact (complete_eq_some howner).matched.matchable
  · intro h
    induction groups with
    | zero => simp [complete]
    | succ groups ih =>
        rw [Finset.range_add_one] at h
        obtain ⟨owner, howner⟩ := Option.isSome_iff_exists.1
          (ih (h.mono (Finset.subset_insert _ _)))
        obtain ⟨sound, length, covers⟩ := complete_eq_some howner
        have new : owner.count (some groups) = 0 := by
          rw [List.count_eq_zero, covers]
          omega
        cases hadd : add table owner groups with
        | some _ => simp [complete_succ, howner, hadd]
        | none =>
            subst length
            exact absurd h (add_eq_none sound new
              (fun g hg => Finset.mem_range.2 ((covers g).1 hg)) hadd)

end Litmus.Matching
