import Litmus.Proofs.Class.Enumeration
import Litmus.Proofs.Placement.Search
import Mathlib

/-!
Augmenting paths as they run. A run is a finite derivation in which every entry that is read or
written exists, so a search with a run ends and stays inside its lists. In a matching of some groups
the search for one more group has exactly one run, and its answer says whether they can all be
matched; repeated for all package groups, it decides whether a shape finds its packages.
-/
namespace Litmus.Matching

/-- The entry of a table for a group and a package, if the table has it. -/
def cell? (table : Fits) (group package : Nat) : Option Bool :=
  (table[group]?).bind (·[package]?)

/-- A run that offers the packages of a list to a group, from a state to an answer. -/
inductive Offered (table : Fits) : Nat → List Nat → Search → Bool × Search → Prop where
  | nothing {group : Nat} {s : Search} : Offered table group [] s (false, s)
  | unfit {group p : Nat} {rest : List Nat} {s : Search} {r : Bool × Search}
      (unfit : cell? table group p = some false) (later : Offered table group rest s r) :
      Offered table group (p :: rest) s r
  | seen {group p : Nat} {rest : List Nat} {s : Search} {r : Bool × Search}
      (fit : cell? table group p = some true) (seen : s.visited[p]? = some true)
      (later : Offered table group rest s r) : Offered table group (p :: rest) s r
  | vacant {group p : Nat} {rest : List Nat} {s : Search}
      (fit : cell? table group p = some true) (unseen : s.visited[p]? = some false)
      (vacant : s.owner[p]? = some none) :
      Offered table group (p :: rest) s (true, (s.visit p).place p group)
  | moved {group p other : Nat} {rest : List Nat} {s s' : Search}
      (fit : cell? table group p = some true) (unseen : s.visited[p]? = some false)
      (held : s.owner[p]? = some (some other))
      (move : Offered table other (List.range s.owner.length) (s.visit p) (true, s'))
      (slot : p < s'.owner.length) : Offered table group (p :: rest) s (true, s'.place p group)
  | stuck {group p other : Nat} {rest : List Nat} {s s' : Search} {r : Bool × Search}
      (fit : cell? table group p = some true) (unseen : s.visited[p]? = some false)
      (held : s.owner[p]? = some (some other))
      (move : Offered table other (List.range s.owner.length) (s.visit p) (false, s'))
      (later : Offered table group rest s' r) : Offered table group (p :: rest) s r

/-- A run of the search for a group: it offers all packages. -/
def Runs (table : Fits) (group : Nat) (s : Search) (r : Bool × Search) : Prop :=
  Offered table group (List.range s.owner.length) s r

variable {table : Fits} {groups packages group depth : Nat} {s : Search} {r : Bool × Search}

/-- A search has one answer. -/
theorem Offered.unique {ps : List Nat} {r' : Bool × Search} (h : Offered table group ps s r)
    (k : Offered table group ps s r') : r = r' := by
  -- What is read at the first package decides which way a run goes on.
  induction h generalizing r' with
  | nothing =>
      cases k
      rfl
  | unfit unfit _ ih =>
      cases k with
      | unfit _ later => exact ih later
      | seen fit | vacant fit | moved fit | stuck fit => simp [unfit] at fit
  | seen fit seen _ ih =>
      cases k with
      | seen _ _ later => exact ih later
      | unfit unfit => simp [fit] at unfit
      | vacant _ unseen | moved _ unseen | stuck _ unseen => simp [seen] at unseen
  | vacant fit unseen vacant =>
      cases k with
      | vacant => rfl
      | unfit unfit => simp [fit] at unfit
      | seen _ seen => simp [unseen] at seen
      | moved _ _ held | stuck _ _ held => simp [vacant] at held
  | moved fit unseen held _ _ ih =>
      cases k with
      | moved _ _ held' move' =>
          obtain rfl := Option.some.inj (Option.some.inj (held.symm.trans held'))
          rw [(Prod.mk.inj (ih move')).2]
      | stuck _ _ held' move' =>
          obtain rfl := Option.some.inj (Option.some.inj (held.symm.trans held'))
          simpa using ih move'
      | unfit unfit => simp [fit] at unfit
      | seen _ seen => simp [unseen] at seen
      | vacant _ _ vacant => simp [held] at vacant
  | stuck fit unseen held _ _ ih later =>
      cases k with
      | stuck _ _ held' move' later' =>
          obtain rfl := Option.some.inj (Option.some.inj (held.symm.trans held'))
          obtain rfl := (Prod.mk.inj (ih move')).2
          exact later later'
      | moved _ _ held' move' =>
          obtain rfl := Option.some.inj (Option.some.inj (held.symm.trans held'))
          simpa using ih move'
      | unfit unfit => simp [fit] at unfit
      | seen _ seen => simp [unseen] at seen
      | vacant _ _ vacant => simp [held] at vacant

/-! ### Runs exist -/

/-- A table with a row for each group, and in each row an entry for each package. -/
structure Spans (table : Fits) (groups packages : Nat) : Prop where
  rows : table.length = groups
  columns : ∀ row ∈ table, row.length = packages

theorem Spans.cell?_eq (h : Spans table groups packages) {p : Nat} (hg : group < groups)
    (hp : p < packages) : cell? table group p = some (fits table group p) := by
  rw [← h.rows] at hg
  have hlen := h.columns _ (List.getElem_mem hg)
  have hp : p < table[group].length := by rwa [hlen]
  simp [cell?, fits, List.getElem?_eq_getElem hg, List.getElem?_eq_getElem hp]

theorem Spans.cell?_eq_true (h : Spans table groups packages) {p : Nat} (hg : group < groups)
    (hp : p < packages) (fit : fits table group p = true) : cell? table group p = some true := by
  rw [h.cell?_eq hg hp, fit]

/-- The lists of a search cover all packages, and the packages hold groups of the table. -/
structure Fitted (groups packages : Nat) (s : Search) : Prop where
  owners : s.owner.length = packages
  visits : s.visited.length = packages
  known : ∀ p g : Nat, s.owner[p]? = some (some g) → g < groups

theorem Fitted.sizes (h : Fitted groups packages s) : s.visited.length = s.owner.length :=
  h.visits.trans h.owners.symm

theorem Fitted.visit (h : Fitted groups packages s) (p : Nat) :
    Fitted groups packages (s.visit p) :=
  ⟨h.owners, by simpa [Search.visit] using h.visits, h.known⟩

theorem Fitted.extend {s' : Search} (h : Fitted groups packages s) (ext : Extends s s')
    (same : s'.owner = s.owner) : Fitted groups packages s' :=
  ⟨ext.owners.trans h.owners, ext.visits.trans h.visits, fun p g hp => h.known p g (same ▸ hp)⟩

theorem offered_offer {move : Nat → Search → Bool × Search} (spans : Spans table groups packages)
    (answers : ∀ g s, s.visited.length = s.owner.length → Answers table g s (move g s))
    (runs : ∀ g s, g < groups → Fitted groups packages s → s.unseen < depth →
      Runs table g s (move g s))
    {ps : List Nat} (hg : group < groups) (inside : ∀ p ∈ ps, p < packages)
    (fitted : Fitted groups packages s) (room : s.unseen ≤ depth) :
    Offered table group ps s (offer table move group ps s) := by
  fun_induction offer table move group ps s with
  | case1 s => exact .nothing
  | case2 p rest s h s₁ other held s₂ moved =>
      simp only [Bool.and_eq_true, beq_iff_eq] at h
      have fit := spans.cell?_eq_true hg (inside p (by simp)) h.1
      -- The visit leaves one package fewer, so the holder can be asked at the depth below.
      have less := Search.unseen_visit h.2
      have run := runs other (s.visit p) (fitted.known p other held) (fitted.visit p) (by omega)
      have ext := (answers other (s.visit p) (fitted.visit p).sizes).extends
      rw [show move other (s.visit p) = (true, s₂) from moved] at run ext
      refine .moved fit h.2 held run ?_
      rw [ext.owners]
      exact (List.getElem?_eq_some_iff.1 held).1
  | case3 p rest s h s₁ other held s₂ stuck ih =>
      simp only [Bool.and_eq_true, beq_iff_eq] at h
      have fit := spans.cell?_eq_true hg (inside p (by simp)) h.1
      have less := Search.unseen_visit h.2
      have run := runs other (s.visit p) (fitted.known p other held) (fitted.visit p) (by omega)
      have answer := answers other (s.visit p) (fitted.visit p).sizes
      rw [show move other (s.visit p) = (false, s₂) from stuck] at run answer
      obtain ⟨ext, same⟩ := answer
      refine .stuck fit h.2 held run (ih (fun q hq => inside q (by simp [hq]))
        ((fitted.visit p).extend ext same) ?_)
      have := ext.unseen_le
      omega
  | case4 p rest s h s₁ free =>
      simp only [Bool.and_eq_true, beq_iff_eq] at h
      have hp := inside p (by simp)
      have fit := spans.cell?_eq_true hg hp h.1
      rw [← fitted.owners] at hp
      refine .vacant fit h.2 ?_
      cases hslot : s.owner[p] with
      | none => rw [List.getElem?_eq_getElem hp, hslot]
      | some other => exact absurd (by rw [← hslot]; exact List.getElem?_eq_getElem hp) (free other)
  | case5 p rest s skip ih =>
      have hp := inside p (by simp)
      have entry := spans.cell?_eq hg hp
      have later := ih (fun q hq => inside q (by simp [hq])) fitted room
      cases fit : fits table group p with
      | false => exact .unfit (fit ▸ entry) later
      | true =>
          rw [← fitted.visits] at hp
          refine .seen (fit ▸ entry) ?_ later
          simpa [fit, List.getElem?_eq_getElem hp] using skip

/-- Every visit leaves one package fewer to visit, so the depth lasts to the end of the run. -/
theorem runs_augment (spans : Spans table groups packages) (hg : group < groups)
    (fitted : Fitted groups packages s) (room : s.unseen < depth) :
    Runs table group s (augment table depth group s) := by
  induction depth generalizing group s with
  | zero => omega
  | succ depth ih =>
      refine offered_offer spans (augment_answers table depth)
        (fun g s hg fitted room => ih hg fitted room) hg ?_ fitted (by omega)
      intro p hp
      rw [← fitted.owners]
      exact List.mem_range.1 hp

/-! ### One more group in a matching -/

variable {held : Finset Nat} {owner : List (Option Nat)}

theorem Matched.fitted (h : Matched table packages held owner)
    (spans : Spans table groups packages) : Fitted groups packages (Search.start owner) where
  owners := h.length
  visits := by simpa [Search.start] using h.length
  known p g hp := by
    have fit := h.sound.fit p g hp
    rw [← spans.rows]
    refine Nat.lt_of_not_le fun hle => ?_
    simp [fits, List.getElem?_eq_none hle] at fit

theorem Matched.count_eq_zero (h : Matched table packages held owner) (new : group ∉ held) :
    owner.count (some group) = 0 := by
  rwa [List.count_eq_zero, h.covers]

/-- A matching that takes in one more group holds that group and those from before. -/
theorem Matched.insert_of_add {owner' : List (Option Nat)} (h : Matched table packages held owner)
    (new : group ∉ held) (added : add table owner group = some owner') :
    Matched table packages (insert group held) owner' := by
  obtain ⟨sound, length, covers⟩ := add_eq_some h.sound (h.count_eq_zero new) added
  refine ⟨sound, length.trans h.length, fun g => ?_⟩
  rw [covers, h.covers, Finset.mem_insert, or_comm]

/-- What a search for one more group finds in a matching of others: the answer tells whether they
can all be matched, and the packages hold them all or are left as they were. -/
structure Augmented (table : Fits) (packages : Nat) (held : Finset Nat) (owner : List (Option Nat))
    (group : Nat) (r : Bool × Search) : Prop where
  found_iff : r.1 = true ↔ Matchable table packages (insert group held)
  matched : r.1 = true → Matched table packages (insert group held) r.2.owner
  unchanged : r.1 = false → r.2.owner = owner

theorem Matched.augmented (h : Matched table packages held owner) (new : group ∉ held) :
    Augmented table packages held owner group
      (augment table (packages + 1) group (Search.start owner)) := by
  obtain rfl := h.length
  have answer := augment_answers table (owner.length + 1) group _ (Search.start_length owner)
  cases found : augment table (owner.length + 1) group (Search.start owner) with
  | mk found' s =>
    rw [found] at answer
    cases found' with
    | true =>
        have added : add table owner group = some s.owner := by rw [add, found]
        have matched := h.insert_of_add new added
        exact ⟨iff_of_true rfl matched.matchable, fun _ => matched, by simp⟩
    | false =>
        have stuck := add_eq_none h.sound (h.count_eq_zero new) (fun g => (h.covers g).1)
          (by rw [add, found])
        exact ⟨iff_of_false (by simp) stuck, by simp, fun _ => answer.2⟩

/-- In a matching of some groups the search for another has one run, which the bounded search
follows to its end at any depth beyond the number of packages. -/
theorem Matched.exists_run (h : Matched table packages held owner)
    (spans : Spans table groups packages) (hg : group < groups) (new : group ∉ held) :
    ∃ r, Augmented table packages held owner group r ∧
      (∀ r', Runs table group (Search.start owner) r' ↔ r' = r) ∧
      ∀ depth, packages < depth → augment table depth group (Search.start owner) = r := by
  have run {depth : Nat} (room : packages < depth) :
      Runs table group (Search.start owner) (augment table depth group (Search.start owner)) :=
    runs_augment spans hg (h.fitted spans) (by
      simpa [Search.unseen, Search.start, h.length] using room)
  refine ⟨_, h.augmented new, fun r' => ⟨fun run' => ?_, ?_⟩, fun depth room => ?_⟩
  · exact run'.unique (run (Nat.lt_succ_self packages))
  · rintro rfl
    exact run (Nat.lt_succ_self packages)
  · exact (run room).unique (run (Nat.lt_succ_self packages))

end Litmus.Matching

namespace Litmus.Placement

variable {t : Topology} {free : FreeSet} {c : Class} {shape : Shape}

/-- The package groups of a shape can be sent to packages of their own that host them. -/
def Hostable (t : Topology) (free : FreeSet) (shape : Shape) : Prop :=
  ∃ place : Fin shape.groups.length → Fin t.totalPackages, Function.Injective place ∧
    ∀ g, hosts (rankedCores t free (place g)) shape.groups[g] = true

theorem spans_hostTable (t : Topology) (free : FreeSet) (shape : Shape) :
    Matching.Spans (hostTable t free shape) shape.groups.length t.totalPackages where
  rows := by simp [hostTable]
  columns row hrow := by
    obtain ⟨G, -, rfl⟩ := List.mem_map.1 hrow
    simp [ranking]

theorem matchable_hostTable : Matching.Matchable (hostTable t free shape) t.totalPackages
    (Finset.range shape.groups.length) ↔ Hostable t free shape := by
  constructor
  · rintro ⟨place, inj, fit⟩
    have inside (g : Fin shape.groups.length) := fit g (Finset.mem_range.2 g.isLt)
    refine ⟨fun g => ⟨place g, (inside g).1⟩, fun g g' heq => ?_, fun g => ?_⟩
    · have heq : place g = place g' := Fin.mk.inj heq
      exact Fin.ext (inj (by simp) (by simp) heq)
    · obtain ⟨-, G, hG, hosted⟩ := fits_hostTable.1 (inside g).2
      obtain ⟨hlt, rfl⟩ := List.getElem?_eq_some_iff.1 hG
      exact hosted
  · rintro ⟨place, inj, hosted⟩
    refine ⟨fun g => if h : g < shape.groups.length then place ⟨g, h⟩ else 0, ?_, ?_⟩
    · intro g hg g' hg' heq
      have hg : g < shape.groups.length := by simpa using hg
      have hg' : g' < shape.groups.length := by simpa using hg'
      simp only [hg, hg', dif_pos] at heq
      exact Fin.mk.inj (inj (Fin.ext heq))
    · intro g hg
      have hg := Finset.mem_range.1 hg
      simp only [hg, dif_pos]
      exact ⟨Fin.isLt _, fits_hostTable.2
        ⟨Fin.isLt _, _, List.getElem?_eq_getElem hg, hosted ⟨g, hg⟩⟩⟩

/-- With enough free threads, a class is placed exactly if its package groups find packages. -/
theorem find_isSome_iff_hostable (hc : c.WellFormed) :
    (find t free (Shape.ofClass c)).isSome = true ↔
      c.size ≤ countFree free ∧ Hostable t free (Shape.ofClass c) := by
  have hs := Shape.partitions_ofClass hc
  rw [← matchable_hostTable, ← Matching.complete_isSome_iff, Option.isSome_iff_exists,
    Option.isSome_iff_exists, ← hs.roles]
  simp only [find_eq_some]
  constructor
  · rintro ⟨threads, enough, owner, complete, -⟩
    exact ⟨enough, owner, complete⟩
  · rintro ⟨enough, owner, complete⟩
    obtain ⟨threads, order⟩ := exists_inRoleOrder fun a ha =>
      exists_seat hs (Matching.complete_eq_some complete) ha
    exact ⟨threads, enough, owner, complete, order⟩

/-- In a matching of some groups the search for one more has exactly one run, of which the bounded
search is a record; it answers whether those groups can all be matched, and matches them or changes
nothing. So the package groups of a shape are matched exactly if they can be hosted, each search on
the way starts from a matching of the groups before, and a class with enough free threads is placed
exactly then. -/
theorem augmenting_paths_exact :
    (∀ (table : Matching.Fits) (groups packages : Nat), Matching.Spans table groups packages →
      ∀ (held : Finset Nat) (owner : List (Option Nat)),
        Matching.Matched table packages held owner → ∀ group < groups, group ∉ held →
          ∃ found after,
            (∀ r, Matching.Runs table group (Matching.Search.start owner) r ↔ r = (found, after)) ∧
            (∀ depth, packages < depth →
              Matching.augment table depth group (Matching.Search.start owner) = (found, after)) ∧
            (found = true ↔ Matching.Matchable table packages (insert group held)) ∧
            (found = true → Matching.Matched table packages (insert group held) after.owner) ∧
            (found = false → after.owner = owner)) ∧
    (∀ (t : Topology) (free : FreeSet) (shape : Shape),
      Matching.Spans (hostTable t free shape) shape.groups.length t.totalPackages ∧
      (∀ group owner,
        Matching.complete (hostTable t free shape) t.totalPackages group = some owner →
          Matching.Matched (hostTable t free shape) t.totalPackages (Finset.range group) owner) ∧
      ((Matching.complete (hostTable t free shape) t.totalPackages
        shape.groups.length).isSome = true ↔ Hostable t free shape)) ∧
    ∀ c : Class, c.Formed → ∀ (t : Topology) (free : FreeSet),
      (find t free (Shape.ofClass c)).isSome = true ↔
        c.size ≤ countFree free ∧ Hostable t free (Shape.ofClass c) := by
  refine ⟨fun table groups packages spans held owner matched group hg new => ?_,
    fun t free shape => ⟨spans_hostTable t free shape, fun group owner complete => ?_, ?_⟩,
    fun c formed t free => find_isSome_iff_hostable formed.wellFormed⟩
  · obtain ⟨⟨found, after⟩, augmented, runs, bounded⟩ := matched.exists_run spans hg new
    exact ⟨found, after, runs, bounded, augmented.found_iff, augmented.matched,
      augmented.unchanged⟩
  · exact (Matching.complete_eq_some complete).matched
  · rw [Matching.complete_isSome_iff, matchable_hostTable]

/-- Two packages with a thread each. -/
def twin : Topology :=
  { origin := .records
    threads := [⟨0, 0, 0⟩, ⟨1, 1, 1⟩]
    coreThreads := [[0], [1]]
    packageCores := [[0], [1]] }

/-- Group 1 fits package 0 alone, so group 0 moves out of it. On two packages with a thread each,
two roles that lie apart can be hosted and placed. -/
theorem augmenting_paths_exact_moved :
    Matching.Runs [[true, true], [true, false]] 1 (Matching.Search.start [some 0, none])
        (true, ⟨[some 1, some 0], [true, true]⟩) ∧
      Matching.Matchable [[true, true], [true, false]] 2 (insert 1 (Finset.range 1)) ∧
      Hostable twin [true, true] (Shape.ofClass ⟨[0, 1], [0, 1]⟩) := by
  obtain ⟨search, -, place⟩ := augmenting_paths_exact
  have spans : Matching.Spans [[true, true], [true, false]] 2 2 := ⟨rfl, by decide⟩
  have matched : Matching.Matched [[true, true], [true, false]] 2 (Finset.range 1)
      [some 0, none] :=
    (Matching.complete_eq_some (by decide)).matched
  obtain ⟨found, after, runs, bounded, found_iff, -⟩ :=
    search _ 2 2 spans _ _ matched 1 (by decide) (by decide)
  have answer := (bounded 3 (by decide)).symm.trans (by decide :
    Matching.augment [[true, true], [true, false]] 3 1 (Matching.Search.start [some 0, none]) =
      (true, ⟨[some 1, some 0], [true, true]⟩))
  have placed : (find twin [true, true] (Shape.ofClass ⟨[0, 1], [0, 1]⟩)).isSome = true := by cbv
  have formed : (⟨[0, 1], [0, 1]⟩ : Class).Formed := .made [5, 3] [2, 9] (by cbv)
  exact ⟨(runs _).2 answer.symm, found_iff.1 (Prod.mk.inj answer).1,
    ((place _ formed _ _).1 placed).2⟩

end Litmus.Placement
