import Litmus.Proofs.Topology.WellFormed
import Litmus.Scheduler.Spread

/-!
The spread order lists each thread of a machine once: a thread stands at one slot of one core, and
that core at one place of one package. Picking threads until there are enough gives the first of
them.
-/
namespace Litmus.Topology

variable {t : Topology}

theorem length_le_longest {xss : List (List Nat)} {xs : List Nat} (h : xs ∈ xss) :
    xs.length ≤ longest xss := by
  induction xss with
  | nil => simp at h
  | cons ys yss ih =>
      change xs.length ≤ max ys.length (longest yss)
      rcases List.mem_cons.1 h with rfl | h
      · exact Nat.le_max_left _ _
      · exact Nat.le_trans (ih h) (Nat.le_max_right _ _)

/-- A place in one of several lists is less than the length of the longest. -/
theorem lt_longest {xss : List (List Nat)} {n i x : Nat} (h : ((xss[n]?).getD [])[i]? = some x) :
    i < longest xss := by
  obtain ⟨hi, -⟩ := List.getElem?_eq_some_iff.1 h
  cases hn : xss[n]? with
  | none => simp [hn] at hi
  | some xs =>
      rw [hn, Option.getD_some] at hi
      exact Nat.lt_of_lt_of_le hi (length_le_longest (List.mem_of_getElem? hn))

theorem threadIn?_eq_some {slot core package x : Nat} :
    t.threadIn? slot core package = some x ↔
      ∃ k, (t.coresOf package)[core]? = some k ∧ (t.threadsOf k)[slot]? = some x :=
  Option.bind_eq_some_iff

theorem index_unique {xs : List Nat} (nodup : xs.Nodup) {i j x : Nat} (hi : xs[i]? = some x)
    (hj : xs[j]? = some x) : i = j := by
  obtain ⟨hlt, rfl⟩ := List.getElem?_eq_some_iff.1 hi
  obtain ⟨hlt', heq⟩ := List.getElem?_eq_some_iff.1 hj
  exact nodup.getElem_inj_iff.1 heq.symm

/-- A thread stands in one place only. -/
theorem WellFormed.threadIn?_inj (ht : t.WellFormed)
    {slot core package slot' core' package' x : Nat}
    (h : t.threadIn? slot core package = some x)
    (h' : t.threadIn? slot' core' package' = some x) :
    slot = slot' ∧ core = core' ∧ package = package' := by
  obtain ⟨k, hk, hx⟩ := threadIn?_eq_some.1 h
  obtain ⟨k', hk', hx'⟩ := threadIn?_eq_some.1 h'
  have hcore := (ht.mem_threadsOf x k).1 (List.mem_of_getElem? hx)
  have hcore' := (ht.mem_threadsOf x k').1 (List.mem_of_getElem? hx')
  obtain rfl : k = k' := Except.ok.inj (hcore.symm.trans hcore')
  obtain ⟨y, hy, hpackage⟩ := (ht.mem_coresOf k package).1 (List.mem_of_getElem? hk)
  obtain ⟨y', hy', hpackage'⟩ := (ht.mem_coresOf k package').1 (List.mem_of_getElem? hk')
  rw [ht.onePackage y y' k hy hy', hpackage'] at hpackage
  obtain rfl : package' = package := Except.ok.inj hpackage
  exact ⟨index_unique (ht.nodup_threadsOf k) hx hx', index_unique (ht.nodup_coresOf _) hk hk', rfl⟩

theorem mem_spread {x : Nat} : x ∈ t.spread ↔ ∃ slot < longest t.coreThreads,
    ∃ core < longest t.packageCores, ∃ package < t.totalPackages,
      t.threadIn? slot core package = some x := by
  simp only [spread, List.mem_flatMap, List.mem_filterMap, List.mem_range]

theorem WellFormed.mem_spread_iff (ht : t.WellFormed) {x : Nat} :
    x ∈ t.spread ↔ x < t.totalThreads := by
  rw [mem_spread]
  constructor
  · rintro ⟨slot, -, core, -, package, -, h⟩
    obtain ⟨k, -, hx⟩ := threadIn?_eq_some.1 h
    exact exists_coreOf.1 ⟨k, (ht.mem_threadsOf x k).1 (List.mem_of_getElem? hx)⟩
  · intro hx
    obtain ⟨k, hcore⟩ := exists_coreOf.2 hx
    obtain ⟨p, hpackage⟩ := exists_packageOf.2 hx
    have hlisted := (ht.mem_coresOf k p).2 ⟨x, hcore, hpackage⟩
    obtain ⟨core, hk⟩ := List.mem_iff_getElem?.1 hlisted
    obtain ⟨slot, hslot⟩ := List.mem_iff_getElem?.1 ((ht.mem_threadsOf x k).2 hcore)
    exact ⟨slot, lt_longest hslot, core, lt_longest hk, p, lt_totalPackages_of_mem hlisted,
      threadIn?_eq_some.2 ⟨k, hk, hslot⟩⟩

theorem WellFormed.nodup_spread (ht : t.WellFormed) : t.spread.Nodup := by
  have inner (slot core : Nat) :
      ((List.range t.totalPackages).filterMap (t.threadIn? slot core)).Nodup :=
    List.nodup_range.filterMap fun p p' x h h' => (ht.threadIn?_inj h h').2.2
  have middle (slot : Nat) : ((List.range (longest t.packageCores)).flatMap fun core =>
      (List.range t.totalPackages).filterMap (t.threadIn? slot core)).Nodup := by
    refine List.nodup_flatMap.2 ⟨fun core _ => inner slot core, List.nodup_range.imp ?_⟩
    intro core core' hne x hx hx'
    obtain ⟨p, -, hp⟩ := List.mem_filterMap.1 hx
    obtain ⟨p', -, hp'⟩ := List.mem_filterMap.1 hx'
    exact hne (ht.threadIn?_inj hp hp').2.1
  refine List.nodup_flatMap.2 ⟨fun slot _ => middle slot, List.nodup_range.imp ?_⟩
  intro slot slot' hne x hx hx'
  obtain ⟨core, -, hx⟩ := List.mem_flatMap.1 hx
  obtain ⟨core', -, hx'⟩ := List.mem_flatMap.1 hx'
  obtain ⟨p, -, hp⟩ := List.mem_filterMap.1 hx
  obtain ⟨p', -, hp'⟩ := List.mem_filterMap.1 hx'
  exact hne (ht.threadIn?_inj hp hp').1

theorem WellFormed.spread_perm (ht : t.WellFormed) :
    t.spread.Perm (List.range t.totalThreads) :=
  (List.perm_ext_iff_of_nodup ht.nodup_spread List.nodup_range).2 fun x => by
    rw [ht.mem_spread_iff, List.mem_range]

theorem WellFormed.length_spread (ht : t.WellFormed) : t.spread.length = t.totalThreads := by
  rw [ht.spread_perm.length_eq, List.length_range]

/-! ### Picking until there are enough -/

/-- A loop whose turns are loops is one loop over all that they go through. -/
theorem foldlM_flatMap {α β γ : Type} {m : Type → Type} [Monad m] [LawfulMonad m]
    (f : γ → β → m γ) (g : α → List β) (xs : List α) (start : γ) :
    (xs.flatMap g).foldlM f start = xs.foldlM (fun acc x => (g x).foldlM f acc) start := by
  induction xs generalizing start with
  | nil => rfl
  | cons x xs ih => simp only [List.flatMap_cons, List.foldlM_append, List.foldlM_cons, ih]

/-- Packages without such a core or slot are passed over. -/
theorem foldlM_pickIn (t : Topology) (limit slot core : Nat) (packages picked : List Nat) :
    packages.foldlM (t.pickIn limit slot core) picked =
      (packages.filterMap (t.threadIn? slot core)).foldlM (pick limit) picked := by
  rw [List.foldlM_filterMap]
  congr 1
  funext picked package
  rw [pickIn]
  cases t.threadIn? slot core package <;> rfl

theorem pickAll_eq_foldlM (t : Topology) (limit : Nat) :
    t.pickAll limit = t.spread.foldlM (pick limit) [] := by
  simp only [pickAll, bind_pure_comp, List.forIn_yield_eq_foldlM, id_map', bind_pure,
    foldlM_pickIn, spread, foldlM_flatMap]

/-- Picks end with the `limit`-th, or with the last thread if there are fewer. -/
theorem foldlM_pick {limit : Nat} {picked : List Nat} (few : picked.length < limit)
    (threads : List Nat) : threads.foldlM (pick limit) picked =
      if (picked ++ threads).length < limit then .ok (picked ++ threads)
      else .error ((picked ++ threads).take limit) := by
  induction threads generalizing picked with
  | nil => simp [few, pure, Except.pure]
  | cons thread threads ih =>
      rw [List.foldlM_cons, pick]
      by_cases last : (picked ++ [thread]).length = limit
      · have enough : ¬ (picked ++ thread :: threads).length < limit := by
          simp only [List.length_append, List.length_cons, List.length_nil] at last ⊢
          omega
        have cut : (picked ++ thread :: threads).take limit = picked ++ [thread] := by
          rw [List.append_cons, List.take_left' last]
        rw [if_pos last, if_neg enough, cut]
        rfl
      · have few' : (picked ++ [thread]).length < limit := by
          simp only [List.length_append, List.length_cons, List.length_nil] at last ⊢
          omega
        rw [if_neg last]
        simpa using ih few'

/-- Without a limit that can be reached all threads are picked. -/
theorem foldlM_pick_zero (picked threads : List Nat) :
    threads.foldlM (pick 0) picked = .ok (picked ++ threads) := by
  induction threads generalizing picked with
  | nil => simp [pure, Except.pure]
  | cons thread threads ih =>
      rw [List.foldlM_cons, pick, if_neg (by simp)]
      simpa using ih (picked ++ [thread])

theorem spreadOrder_zero (t : Topology) : t.spreadOrder 0 = t.spread := by
  rw [spreadOrder, pickAll_eq_foldlM, foldlM_pick_zero]
  rfl

theorem spreadOrder_eq_take {limit : Nat} (positive : 0 < limit) :
    t.spreadOrder limit = t.spread.take limit := by
  rw [spreadOrder, pickAll_eq_foldlM, foldlM_pick (by simpa using positive), List.nil_append]
  split
  case h_1 picked whole =>
    split at whole
    case isTrue few =>
      rw [← Except.ok.inj whole, List.take_of_length_le (Nat.le_of_lt few)]
    case isFalse => exact nomatch whole
  case h_2 picked cut =>
    split at cut
    case isTrue => exact nomatch cut
    case isFalse => exact (Except.error.inj cut).symm

theorem spreadOrder_prefix (t : Topology) (limit : Nat) : t.spreadOrder limit <+: t.spread := by
  rcases Nat.eq_zero_or_pos limit with rfl | positive
  · exact spreadOrder_zero t ▸ List.prefix_rfl
  · rw [spreadOrder_eq_take positive]
    exact List.take_prefix ..

theorem WellFormed.nodup_spreadOrder (ht : t.WellFormed) (limit : Nat) :
    (t.spreadOrder limit).Nodup :=
  ht.nodup_spread.sublist (t.spreadOrder_prefix limit).sublist

theorem WellFormed.lt_of_mem_spreadOrder (ht : t.WellFormed) {limit x : Nat}
    (h : x ∈ t.spreadOrder limit) : x < t.totalThreads :=
  ht.mem_spread_iff.1 ((t.spreadOrder_prefix limit).subset h)

theorem WellFormed.length_spreadOrder (ht : t.WellFormed) {limit : Nat} (positive : 0 < limit)
    (h : limit ≤ t.totalThreads) : (t.spreadOrder limit).length = limit := by
  rw [spreadOrder_eq_take positive, List.length_take, ht.length_spread, Nat.min_eq_left h]

/-- A machine without threads has none to pick. -/
theorem WellFormed.length_spreadOrder_min (ht : t.WellFormed) {limit : Nat} (positive : 0 < limit) :
    (t.spreadOrder (min limit t.totalThreads)).length = min limit t.totalThreads := by
  rcases Nat.eq_zero_or_pos t.totalThreads with none | some
  · rw [none, Nat.min_zero, spreadOrder_zero, ht.length_spread, none]
  · exact ht.length_spreadOrder (Nat.lt_min.2 ⟨positive, some⟩) (Nat.min_le_right _ _)

end Litmus.Topology
