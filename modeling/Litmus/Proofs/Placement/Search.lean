import Litmus.Proofs.Lookup
import Litmus.Proofs.Placement.Seating
import Litmus.Proofs.Placement.Shape

/-!
The search for a placement is exact: what it finds is a seating, and it finds one whenever there
is one. A seating of a class puts each package group into a package of its own that hosts it, which
is a matching; a matching gives each role a thread.
-/
namespace Litmus.Placement

variable {t : Topology} {free : FreeSet} {c : Class} {shape : Shape}

/-! ### The cores of a package -/

theorem mem_freeOf (ht : t.WellFormed) {k x : Nat} :
    x ∈ freeOf t free k ↔ t.coreOf x = .ok k ∧ isFree free x = true := by
  rw [freeOf, List.mem_filter, ht.mem_threadsOf]

theorem nodup_freeOf (ht : t.WellFormed) (free : FreeSet) (k : Nat) : (freeOf t free k).Nodup :=
  (ht.nodup_threadsOf k).filter _

/-- The cores of a package that have free threads, with those threads, before they are ranked. -/
def openCores (t : Topology) (free : FreeSet) (p : Nat) : List (Nat × List Nat) :=
  ((t.coresOf p).map fun k => (k, freeOf t free k)).filter (!·.2.isEmpty)

def coreRank (core : Nat × List Nat) : Nat × Nat := (core.2.length, core.1)

theorem rankedCores_eq (t : Topology) (free : FreeSet) (p : Nat) :
    rankedCores t free p = ((openCores t free p).mergeSort fun a b =>
      Shape.precedes (coreRank a) (coreRank b)).map (·.2) :=
  rfl

theorem mem_rankedCores {p : Nat} {L : List Nat} :
    L ∈ rankedCores t free p ↔ ∃ k ∈ t.coresOf p, freeOf t free k = L ∧ L ≠ [] := by
  simp only [rankedCores_eq, List.mem_map, List.mem_mergeSort, openCores, List.mem_filter,
    Prod.exists, Prod.mk.injEq]
  constructor
  · rintro ⟨k, L, ⟨⟨k', hk', rfl, rfl⟩, hne⟩, rfl⟩
    exact ⟨k', hk', rfl, by simpa using hne⟩
  · rintro ⟨k, hk, rfl, hne⟩
    exact ⟨k, _, ⟨⟨k, hk, rfl, rfl⟩, by simpa using hne⟩, rfl⟩

theorem rankedCores_sorted (t : Topology) (free : FreeSet) (p : Nat) :
    (rankedCores t free p).Pairwise fun L L' => L'.length ≤ L.length := by
  rw [rankedCores_eq, List.pairwise_map]
  exact (Shape.pairwise_mergeSort_precedes coreRank _).imp fun h => Shape.size_le_of_precedes h

/-- Threads of different places in the ranking lie on different cores. -/
theorem rankedCores_apart (ht : t.WellFormed) (free : FreeSet) (p : Nat) :
    (rankedCores t free p).Pairwise fun L L' => ∀ x ∈ L, ∀ y ∈ L', ¬ t.SharesCore x y := by
  have hopen : (openCores t free p).Pairwise fun a b =>
      ∀ x ∈ a.2, ∀ y ∈ b.2, ¬ t.SharesCore x y := by
    refine List.Pairwise.filter _ (List.pairwise_map.2 ((ht.nodup_coresOf p).imp ?_))
    rintro k k' hne x hx y hy ⟨k'', hkx, hky⟩
    have hx := (mem_freeOf ht).1 hx
    have hy := (mem_freeOf ht).1 hy
    rw [hx.1] at hkx
    rw [hy.1] at hky
    exact hne (Except.ok.inj (hkx.trans hky.symm))
  rw [rankedCores_eq, List.pairwise_map]
  refine ((List.mergeSort_perm _ _).pairwise_iff ?_).2 hopen
  rintro a b hab x hx y hy ⟨k, hkx, hky⟩
  exact hab y hy x hx ⟨k, hky, hkx⟩

/-- A free thread of a package stands at some place of the ranking. -/
theorem mem_ranked_thread (ht : t.WellFormed) {p : Nat} {L : List Nat} {x : Nat}
    (hL : L ∈ rankedCores t free p) (hx : x ∈ L) :
    t.packageOf x = .ok p ∧ isFree free x = true ∧ L.Nodup ∧ ∀ y ∈ L, t.SharesCore x y := by
  obtain ⟨k, hk, rfl, -⟩ := mem_rankedCores.1 hL
  obtain ⟨hcore, hfree⟩ := (mem_freeOf ht).1 hx
  obtain ⟨z, hz, hpackage⟩ := (ht.mem_coresOf k p).1 hk
  refine ⟨?_, hfree, nodup_freeOf ht free k, fun y hy => ⟨k, hcore, ((mem_freeOf ht).1 hy).1⟩⟩
  rw [ht.onePackage x z k hcore hz, hpackage]

/-! ### The seats that a matching gives -/

theorem mem_zip_iff {α β : Type} {xs : List α} {ys : List β} {a : α} {b : β} :
    (a, b) ∈ xs.zip ys ↔ ∃ i : Nat, xs[i]? = some a ∧ ys[i]? = some b := by
  rw [List.mem_iff_getElem?]
  exact exists_congr fun i => List.getElem?_zip_eq_some

/-- A thread for a role: the same place in a core group and in the core that it is paired with. -/
theorem mem_seats {cores : List (List Nat)} {G : PackageGroup} {a x : Nat} :
    (a, x) ∈ seats cores G ↔ ∃ (i : Nat) (R L : List Nat), G.coreGroups[i]? = some R ∧
      cores[i]? = some L ∧ ∃ j : Nat, R[j]? = some a ∧ L[j]? = some x := by
  simp only [seats, List.mem_flatMap, Prod.exists, mem_zip_iff]
  constructor
  · rintro ⟨R, L, ⟨i, hR, hL⟩, j, ha, hx⟩
    exact ⟨i, R, L, hR, hL, j, ha, hx⟩
  · rintro ⟨i, R, L, hR, hL, j, ha, hx⟩
    exact ⟨R, L, ⟨i, hR, hL⟩, j, ha, hx⟩

/-- The cores of all packages, ranked. -/
def ranking (t : Topology) (free : FreeSet) : List (List (List Nat)) :=
  (List.range t.totalPackages).map (rankedCores t free)

/-- Which packages host which groups. -/
def hostTable (t : Topology) (free : FreeSet) (shape : Shape) : Matching.Fits :=
  shape.groups.map fun G => (ranking t free).map (hosts · G)

theorem fits_hostTable {g p : Nat} :
    Matching.fits (hostTable t free shape) g p = true ↔
      p < t.totalPackages ∧
        ∃ G, shape.groups[g]? = some G ∧ hosts (rankedCores t free p) G = true := by
  simp only [Matching.fits, hostTable, ranking, List.getElem?_map, List.map_map]
  cases shape.groups[g]? with
  | none => simp
  | some G =>
      by_cases hp : p < t.totalPackages
      · simp [hp]
      · simp [hp]

theorem mem_assignment {owner : List (Option Nat)} {a x : Nat} :
    (a, x) ∈ assignment shape (ranking t free) owner ↔ ∃ p g G, p < t.totalPackages ∧
      owner[p]? = some (some g) ∧ shape.groups[g]? = some G ∧
        (a, x) ∈ seats (rankedCores t free p) G := by
  simp only [assignment, List.mem_flatMap, Prod.exists]
  constructor
  · rintro ⟨cores, holder, hzip, hmem⟩
    obtain ⟨p, hcores, howner⟩ := mem_zip_iff.1 hzip
    have hlt : p < t.totalPackages := by
      simpa [ranking] using (List.getElem?_eq_some_iff.1 hcores).1
    obtain rfl : rankedCores t free p = cores := by simpa [ranking, hlt] using hcores
    split at hmem
    case h_1 G hG =>
      obtain ⟨g, rfl, hG⟩ := Option.bind_eq_some_iff.1 hG
      exact ⟨p, g, G, hlt, howner, hG, hmem⟩
    case h_2 => simp at hmem
  · rintro ⟨p, g, G, hlt, howner, hG, hmem⟩
    exact ⟨rankedCores t free p, some g, mem_zip_iff.2 ⟨p, by simp [ranking, hlt], howner⟩,
      by simpa [hG] using hmem⟩

/-- What is paired with one key alone is found by looking the key up. -/
theorem getElem?_of_mapM {f : Nat → Option Nat} {xs ys : List Nat} (h : xs.mapM f = some ys) :
    ys.length = xs.length ∧ ∀ (i x : Nat), xs[i]? = some x → ys[i]? = f x := by
  induction xs generalizing ys with
  | nil =>
      obtain rfl : [] = ys := by simpa using h
      simp
  | cons a xs ih =>
      rw [List.mapM_cons] at h
      obtain ⟨b, hb, h⟩ := Option.bind_eq_some_iff.1 h
      obtain ⟨bs, hbs, h⟩ := Option.bind_eq_some_iff.1 h
      obtain rfl : b :: bs = ys := Option.some.inj h
      obtain ⟨hlen, hget⟩ := ih hbs
      refine ⟨by simp [hlen], fun i x hx => ?_⟩
      cases i with
      | zero =>
          obtain rfl : a = x := by simpa using hx
          simpa using hb.symm
      | succ i => simpa using hget i x (by simpa using hx)

theorem isSome_mapM {f : Nat → Option Nat} {xs : List Nat} (h : ∀ x ∈ xs, ∃ y, f x = some y) :
    ∃ ys, xs.mapM f = some ys := by
  induction xs with
  | nil => exact ⟨[], rfl⟩
  | cons a xs ih =>
      obtain ⟨b, hb⟩ := h a (by simp)
      obtain ⟨bs, hbs⟩ := ih fun x hx => h x (by simp [hx])
      exact ⟨b :: bs, by simp [hb, hbs]⟩

theorem getElem?_inRoleOrder {roles : Nat} {pairs : List (Nat × Nat)} {threads : List Nat}
    (h : inRoleOrder roles pairs = some threads) :
    threads.length = roles ∧ ∀ a < roles, threads[a]? = pairs.lookup a := by
  obtain ⟨hlen, hget⟩ := getElem?_of_mapM h
  refine ⟨by simpa using hlen, fun a ha => hget a a (by simp [ha])⟩

theorem exists_inRoleOrder {roles : Nat} {pairs : List (Nat × Nat)}
    (h : ∀ a < roles, ∃ x, (a, x) ∈ pairs) : ∃ threads, inRoleOrder roles pairs = some threads := by
  refine isSome_mapM fun a ha => ?_
  obtain ⟨x, hx⟩ := h a (List.mem_range.1 ha)
  cases hlookup : pairs.lookup a with
  | some y => exact ⟨y, rfl⟩
  | none =>
      have := List.lookup_eq_none_iff.1 hlookup (a, x) hx
      simp at this

theorem find_eq_some {threads : List Nat} :
    find t free shape = some threads ↔ shape.roles ≤ countFree free ∧
      ∃ owner, Matching.complete (hostTable t free shape) t.totalPackages shape.groups.length =
          some owner ∧
        inRoleOrder shape.roles (assignment shape (ranking t free) owner) = some threads := by
  have hfind : find t free shape = if countFree free < shape.roles then none else
      (Matching.complete (hostTable t free shape) t.totalPackages shape.groups.length).bind
        fun owner => inRoleOrder shape.roles (assignment shape (ranking t free) owner) := rfl
  rw [hfind]
  split
  case isTrue h => simp [Nat.not_le.2 h]
  case isFalse h => simp [Nat.le_of_not_lt h, Option.bind_eq_some_iff]

/-! ### What is found is a seating -/

/-- A complete matching seats every role. -/
theorem exists_seat (hs : Shape.Partitions c shape) {owner : List (Option Nat)}
    (hm : Matching.Complete (hostTable t free shape) t.totalPackages shape.groups.length owner)
    {a : Nat} (ha : a < shape.roles) : ∃ x, (a, x) ∈ assignment shape (ranking t free) owner := by
  rw [hs.roles] at ha
  obtain ⟨G, hG, R, hR, haR⟩ := hs.covered a ha
  obtain ⟨g, hg⟩ := List.mem_iff_getElem?.1 hG
  obtain ⟨i, hi⟩ := List.mem_iff_getElem?.1 hR
  obtain ⟨j, hj⟩ := List.mem_iff_getElem?.1 haR
  have hglt := (List.getElem?_eq_some_iff.1 hg).1
  obtain ⟨p, hp⟩ := List.mem_iff_getElem?.1 ((hm.covers g).2 hglt)
  obtain ⟨hplt, G', hG', hhosts⟩ := fits_hostTable.1 (hm.sound.fit p g hp)
  obtain rfl : G = G' := by simpa [hg] using hG'
  obtain ⟨hilt, rfl⟩ := List.getElem?_eq_some_iff.1 hi
  obtain ⟨hlt, hroom⟩ := hosts_iff.1 hhosts i hilt
  have hjlt := (List.getElem?_eq_some_iff.1 hj).1
  have hjL : j < (rankedCores t free p)[i].length := by omega
  exact ⟨_, mem_assignment.2 ⟨p, g, G, hplt, hp, hg, mem_seats.2 ⟨i, _, _, hi,
    List.getElem?_eq_getElem hlt, j, hj, List.getElem?_eq_getElem hjL⟩⟩⟩

/-- Two list items that stand at different places stand in the relation of the list's pairs. -/
theorem apart_of_ne {α : Type} {R : α → α → Prop} {xs : List α} (h : xs.Pairwise R)
    (symm : ∀ x y, R x y → R y x) {i j : Nat} (hij : i ≠ j) {x y : α} (hx : xs[i]? = some x)
    (hy : xs[j]? = some y) : R x y := by
  obtain ⟨hi, rfl⟩ := List.getElem?_eq_some_iff.1 hx
  obtain ⟨hj, rfl⟩ := List.getElem?_eq_some_iff.1 hy
  cases Nat.lt_or_gt_of_ne hij with
  | inl hlt => exact List.pairwise_iff_getElem.1 h i j hi hj hlt
  | inr hlt => exact symm _ _ (List.pairwise_iff_getElem.1 h j i hj hi hlt)

/-- Two roles that are seated lie to each other as the class says: where a role sits tells its
package group by the package, its core group by the core, and itself by the thread. -/
theorem honours_of_seats (ht : t.WellFormed) (hc : c.WellFormed) (hs : Shape.Partitions c shape)
    {owner : List (Option Nat)} (sound : Matching.Sound (hostTable t free shape) owner)
    {a b x y : Nat} (hab : a ≠ b) (ha : (a, x) ∈ assignment shape (ranking t free) owner)
    (hb : (b, y) ∈ assignment shape (ranking t free) owner) :
    x ≠ y ∧ ∃ relation, c.relation a b = .ok relation ∧ t.Honours x y relation := by
  obtain ⟨p, g, G, hp, hown, hG, hseat⟩ := mem_assignment.1 ha
  obtain ⟨p', g', G', hp', hown', hG', hseat'⟩ := mem_assignment.1 hb
  obtain ⟨i, R, L, hR, hL, j, haR, hxL⟩ := mem_seats.1 hseat
  obtain ⟨i', R', L', hR', hL', j', hbR, hyL⟩ := mem_seats.1 hseat'
  have memG := List.mem_of_getElem? hG
  have memG' := List.mem_of_getElem? hG'
  have memR := List.mem_of_getElem? hR
  have memR' := List.mem_of_getElem? hR'
  have mema := List.mem_of_getElem? haR
  have memb := List.mem_of_getElem? hbR
  have memx := List.mem_of_getElem? hxL
  have memy := List.mem_of_getElem? hyL
  obtain ⟨hpx, -, nodup, hcore⟩ := mem_ranked_thread ht (List.mem_of_getElem? hL) memx
  obtain ⟨hpy, -, -, -⟩ := mem_ranked_thread ht (List.mem_of_getElem? hL') memy
  have relation := hc.relation_eq (hs.bounded G memG R memR a mema)
    (hs.bounded G' memG' R' memR' b memb)
  by_cases hpp : p = p'
  · subst hpp
    obtain rfl : g = g' := by simpa [hown] using hown'
    obtain rfl : G = G' := by simpa [hG] using hG'
    have package := hs.onePackage G memG R memR R' memR' a mema b memb
    by_cases hii : i = i'
    · subst hii
      obtain rfl : R = R' := by simpa [hR] using hR'
      obtain rfl : L = L' := by simpa [hL] using hL'
      rw [if_pos (hs.oneCore G memG R memR a mema b memb)] at relation
      refine ⟨?_, _, relation, hcore y memy⟩
      rintro rfl
      have hjj : j = j' := by
        obtain ⟨hj, hxj⟩ := List.getElem?_eq_some_iff.1 hxL
        obtain ⟨hj', hxj'⟩ := List.getElem?_eq_some_iff.1 hyL
        exact (nodup.getElem_inj_iff).1 (hxj.trans hxj'.symm)
      subst hjj
      exact hab (Option.some.inj (haR.symm.trans hbR))
    · have coresDiffer := apart_of_ne (hs.coresApart G memG)
        (fun R R' h a ha b hb => (h b hb a ha).symm) hii hR hR' a mema b memb
      rw [if_neg coresDiffer, if_pos package] at relation
      have apart := apart_of_ne (rankedCores_apart ht free p)
        (fun L L' h x hx y hy ⟨k, hkx, hky⟩ => h y hy x hx ⟨k, hky, hkx⟩) hii hL hL' x memx y memy
      refine ⟨?_, _, relation, ⟨p, hpx, hpy⟩, apart⟩
      rintro rfl
      exact apart (hcore x memx)
  · have hgg : g ≠ g' := by
      rintro rfl
      exact hpp (Matching.eq_of_count_le_one (sound.once g) hown hown')
    have packagesDiffer := apart_of_ne hs.packagesApart
      (fun G G' h R hR R' hR' a ha b hb => (h R' hR' R hR b hb a ha).symm) hgg hG hG'
      R memR R' memR' a mema b memb
    have coresDiffer : c.cores[a]? ≠ c.cores[b]? := fun heq => packagesDiffer
      (hc.nested a b (hs.bounded G memG R memR a mema) (hs.bounded G' memG' R' memR' b memb) heq)
    rw [if_neg coresDiffer, if_neg packagesDiffer] at relation
    refine ⟨?_, _, relation, p, p', hpx, hpy, hpp⟩
    rintro rfl
    exact hpp (Except.ok.inj (hpx.symm.trans hpy))

theorem isFree_of_seat (ht : t.WellFormed) {owner : List (Option Nat)} {a x : Nat}
    (h : (a, x) ∈ assignment shape (ranking t free) owner) : isFree free x = true := by
  obtain ⟨p, g, G, -, -, -, hseat⟩ := mem_assignment.1 h
  obtain ⟨i, R, L, -, hL, j, -, hxL⟩ := mem_seats.1 hseat
  exact (mem_ranked_thread ht (List.mem_of_getElem? hL) (List.mem_of_getElem? hxL)).2.1

theorem seating_of_find (ht : t.WellFormed) (hc : c.WellFormed) {threads : List Nat}
    (h : find t free (Shape.ofClass c) = some threads) : Seating t free c threads := by
  have hs := Shape.partitions_ofClass hc
  obtain ⟨-, owner, hcomplete, horder⟩ := find_eq_some.1 h
  have sound := (Matching.complete_eq_some hcomplete).sound
  obtain ⟨hlen, hget⟩ := getElem?_inRoleOrder horder
  have hseat {a x : Nat} (hx : threads[a]? = some x) :
      (a, x) ∈ assignment (Shape.ofClass c) (ranking t free) owner := by
    have ha : a < (Shape.ofClass c).roles := by
      rw [← hlen]
      exact (List.getElem?_eq_some_iff.1 hx).1
    exact mem_of_lookup ((hget a ha).symm.trans hx)
  refine ⟨hlen.trans hs.roles, fun x hx => ?_, ?_, fun a b x y hab ha hb => ?_⟩
  · obtain ⟨a, ha⟩ := List.mem_iff_getElem?.1 hx
    exact isFree_of_seat ht (hseat ha)
  · refine List.pairwise_iff_getElem.2 fun a b ha hb hab => ?_
    exact (honours_of_seats ht hc hs sound (Nat.ne_of_lt hab)
      (hseat (List.getElem?_eq_getElem ha)) (hseat (List.getElem?_eq_getElem hb))).1
  · exact (honours_of_seats ht hc hs sound hab (hseat ha) (hseat hb)).2

/-! ### A seating is found -/

theorem Topology.SharesCore.sharesPackage (ht : t.WellFormed) {x y : Nat}
    (h : t.SharesCore x y) : t.SharesPackage x y := by
  obtain ⟨k, hx, hy⟩ := h
  obtain ⟨p, hp⟩ := Topology.exists_packageOf.2 (Topology.exists_coreOf.1 ⟨k, hx⟩)
  exact ⟨p, hp, (ht.onePackage x y k hx hy).symm.trans hp⟩

namespace Seating

variable {threads : List Nat}

theorem exists_core (h : Seating t free c threads) (len : free.length = t.totalThreads) {a x : Nat}
    (hx : threads[a]? = some x) : ∃ k, t.coreOf x = .ok k := by
  refine Topology.exists_coreOf.2 ?_
  rw [← len]
  exact lt_of_isFree (h.free x (List.mem_of_getElem? hx))

theorem role_lt (h : Seating t free c threads) {a x : Nat} (hx : threads[a]? = some x) :
    a < c.size := by
  rw [← h.size]
  exact (List.getElem?_eq_some_iff.1 hx).1

theorem sharesCore_iff (h : Seating t free c threads) (ht : t.WellFormed) (hc : c.WellFormed)
    (len : free.length = t.totalThreads) {a b x y : Nat} (hx : threads[a]? = some x)
    (hy : threads[b]? = some y) : t.SharesCore x y ↔ c.cores[a]? = c.cores[b]? := by
  by_cases hab : a = b
  · subst hab
    obtain rfl : x = y := Option.some.inj (hx.symm.trans hy)
    obtain ⟨k, hk⟩ := h.exists_core len hx
    exact ⟨fun _ => rfl, fun _ => ⟨k, hk, hk⟩⟩
  · obtain ⟨relation, hrel, honours⟩ := h.honours a b x y hab hx hy
    rw [hc.relation_eq (h.role_lt hx) (h.role_lt hy)] at hrel
    obtain rfl := Except.ok.inj hrel
    split at honours
    case isTrue heq => exact ⟨fun _ => heq, fun _ => honours⟩
    case isFalse hne =>
      split at honours
      case isTrue => exact ⟨fun hshare => absurd hshare honours.2, fun heq => absurd heq hne⟩
      case isFalse =>
        obtain ⟨p, q, hp, hq, hpq⟩ := honours
        refine ⟨fun hshare => ?_, fun heq => absurd heq hne⟩
        obtain ⟨p', hp', hq'⟩ := Topology.SharesCore.sharesPackage ht hshare
        exact absurd (Except.ok.inj ((hp.symm.trans hp').trans (hq'.symm.trans hq))) hpq

theorem sharesPackage_iff (h : Seating t free c threads) (ht : t.WellFormed) (hc : c.WellFormed)
    (len : free.length = t.totalThreads) {a b x y : Nat} (hx : threads[a]? = some x)
    (hy : threads[b]? = some y) : t.SharesPackage x y ↔ c.packages[a]? = c.packages[b]? := by
  by_cases hcores : c.cores[a]? = c.cores[b]?
  · have hshare := (h.sharesCore_iff ht hc len hx hy).2 hcores
    exact ⟨fun _ => hc.nested a b (h.role_lt hx) (h.role_lt hy) hcores,
      fun _ => Topology.SharesCore.sharesPackage ht hshare⟩
  · have hab : a ≠ b := fun hab => hcores (by rw [hab])
    obtain ⟨relation, hrel, honours⟩ := h.honours a b x y hab hx hy
    rw [hc.relation_eq (h.role_lt hx) (h.role_lt hy), if_neg hcores] at hrel
    obtain rfl := Except.ok.inj hrel
    split at honours
    case isTrue heq => exact ⟨fun _ => heq, fun _ => honours.1⟩
    case isFalse hne =>
      obtain ⟨p, q, hp, hq, hpq⟩ := honours
      refine ⟨?_, fun heq => absurd heq hne⟩
      rintro ⟨p', hp', hq'⟩
      exact absurd (Except.ok.inj ((hp.symm.trans hp').trans (hq'.symm.trans hq))) hpq

/-- The threads of a core group are free threads of one core. -/
theorem length_le_freeOf (h : Seating t free c threads) (ht : t.WellFormed) (hc : c.WellFormed)
    (len : free.length = t.totalThreads) {R : List Nat} (nodup : R.Nodup)
    (bounded : ∀ b ∈ R, b < c.size) {a x k : Nat}
    (oneCore : ∀ b ∈ R, c.cores[b]? = c.cores[a]?) (hx : threads[a]? = some x)
    (hk : t.coreOf x = .ok k) : R.length ≤ (freeOf t free k).length := by
  have seated : ∀ b ∈ R, ∃ y, threads[b]? = some y := fun b hb =>
    ⟨_, List.getElem?_eq_getElem (by rw [h.size]; exact bounded b hb)⟩
  choose! seat hseat using seated
  have distinct : (R.map seat).Nodup := by
    refine nodup.map_on fun b hb b' hb' heq => ?_
    have hget := hseat b hb
    rw [heq, ← hseat b' hb'] at hget
    exact (List.getElem?_inj (by rw [h.size]; exact bounded b hb) h.distinct).1 hget
  have sub : R.map seat ⊆ freeOf t free k := by
    intro y hy
    obtain ⟨b, hb, rfl⟩ := List.mem_map.1 hy
    obtain ⟨k', hy', hx'⟩ := (h.sharesCore_iff ht hc len (hseat b hb) hx).2 (oneCore b hb)
    refine (mem_freeOf ht).2 ⟨?_, h.free _ (List.mem_of_getElem? (hseat b hb))⟩
    rw [hy', ← hx', hk]
  simpa using (distinct.subperm sub).length_le

/-- A package that holds the seats of a group hosts the group. -/
theorem hosts (h : Seating t free c threads) (ht : t.WellFormed) (hc : c.WellFormed)
    (hs : Shape.Partitions c shape) (len : free.length = t.totalThreads) {G : PackageGroup}
    (hG : G ∈ shape.groups) {p : Nat}
    (hp : ∀ R ∈ G.coreGroups, ∀ a ∈ R, ∀ x, threads[a]? = some x → t.packageOf x = .ok p) :
    Placement.hosts (rankedCores t free p) G = true := by
  have led : ∀ i, i < G.coreGroups.length → ∃ R a x k, G.coreGroups[i]? = some R ∧ a ∈ R ∧
      threads[a]? = some x ∧ t.coreOf x = .ok k := by
    intro i hi
    have hR := List.getElem_mem hi
    obtain ⟨a, ha⟩ := List.exists_mem_of_ne_nil _ (hs.coreInhabited G hG _ hR)
    have hx := List.getElem?_eq_getElem (l := threads) (i := a)
      (by rw [h.size]; exact hs.bounded G hG _ hR a ha)
    obtain ⟨k, hk⟩ := h.exists_core len hx
    exact ⟨_, a, _, k, List.getElem?_eq_getElem hi, ha, hx, hk⟩
  choose! R a x k hR ha hx hk using led
  have memR {i : Nat} (hi : i < G.coreGroups.length) : R i ∈ G.coreGroups :=
    List.mem_of_getElem? (hR i hi)
  have room {i : Nat} (hi : i < G.coreGroups.length) :
      (R i).length ≤ (freeOf t free (k i)).length :=
    h.length_le_freeOf ht hc len ((hs.ascending G hG _ (memR hi)).imp Nat.ne_of_lt)
      (hs.bounded G hG _ (memR hi)) (fun b hb => hs.oneCore G hG _ (memR hi) b hb _ (ha i hi))
      (hx i hi) (hk i hi)
  have ranked {i : Nat} (hi : i < G.coreGroups.length) :
      freeOf t free (k i) ∈ rankedCores t free p := by
    refine mem_rankedCores.2 ⟨k i, (ht.mem_coresOf _ _).2 ⟨x i, hk i hi, ?_⟩, rfl, ?_⟩
    · exact hp _ (memR hi) _ (ha i hi) _ (hx i hi)
    · have := List.length_pos_iff.2 (hs.coreInhabited G hG _ (memR hi))
      exact List.length_pos_iff.1 (Nat.lt_of_lt_of_le this (room hi))
  -- Roles of different core groups share no core, so each core group has a core of its own.
  refine hosts_of_injection (hs.lengths_sorted hG) (rankedCores_sorted t free p)
    (fun i => (rankedCores t free p).idxOf (freeOf t free (k i))) ?_ fun i hi => ?_
  · intro i j hi hj heq
    by_contra hij
    have same : freeOf t free (k i) = freeOf t free (k j) := (List.idxOf_inj (ranked hi)).1 heq
    have hmem : x i ∈ freeOf t free (k j) := by
      rw [← same]
      exact (mem_freeOf ht).2 ⟨hk i hi, h.free _ (List.mem_of_getElem? (hx i hi))⟩
    have share : t.SharesCore (x i) (x j) := ⟨k j, ((mem_freeOf ht).1 hmem).1, hk j hj⟩
    exact apart_of_ne (hs.coresApart G hG) (fun R R' h a ha b hb => (h b hb a ha).symm) hij
      (hR i hi) (hR j hj) _ (ha i hi) _ (ha j hj)
      ((h.sharesCore_iff ht hc len (hx i hi) (hx j hj)).1 share)
  · have hlt := List.idxOf_lt_length_of_mem (ranked hi)
    refine ⟨hlt, ?_⟩
    rw [List.getElem_idxOf hlt, (List.getElem?_eq_some_iff.1 (hR i hi)).2]
    exact room hi

/-- A seating puts the package groups into packages of their own that host them. -/
theorem matchable (h : Seating t free c threads) (ht : t.WellFormed) (hc : c.WellFormed)
    (hs : Shape.Partitions c shape) (len : free.length = t.totalThreads) :
    Matching.Matchable (hostTable t free shape) t.totalPackages
      (Finset.range shape.groups.length) := by
  have led : ∀ g (hg : g < shape.groups.length), ∃ R a x p, R ∈ shape.groups[g].coreGroups ∧
      a ∈ R ∧ threads[a]? = some x ∧ t.packageOf x = .ok p := by
    intro g hg
    obtain ⟨R, hR, a, ha⟩ := hs.inhabited _ (List.getElem_mem hg)
    have hx := List.getElem?_eq_getElem (l := threads) (i := a)
      (by rw [h.size]; exact hs.bounded _ (List.getElem_mem hg) R hR a ha)
    obtain ⟨p, hp⟩ := Topology.exists_packageOf.2 (Topology.exists_coreOf.1 (h.exists_core len hx))
    exact ⟨R, a, _, p, hR, ha, hx, hp⟩
  choose! R a x p hR ha hx hp using led
  refine ⟨p, fun g hg g' hg' heq => ?_, fun g hg => ?_⟩
  · have hg := Finset.mem_range.1 (Finset.mem_coe.1 hg)
    have hg' := Finset.mem_range.1 (Finset.mem_coe.1 hg')
    by_contra hne
    have share : t.SharesPackage (x g) (x g') := ⟨p g, hp g hg, by rw [heq]; exact hp g' hg'⟩
    exact apart_of_ne hs.packagesApart
      (fun G G' h R hR R' hR' a ha b hb => (h R' hR' R hR b hb a ha).symm) hne
      (List.getElem?_eq_getElem hg) (List.getElem?_eq_getElem hg')
      _ (hR g hg) _ (hR g' hg') _ (ha g hg) _ (ha g' hg')
      ((h.sharesPackage_iff ht hc len (hx g hg) (hx g' hg')).1 share)
  · have hg := Finset.mem_range.1 hg
    obtain ⟨k, hk⟩ := h.exists_core len (hx g hg)
    have hlisted := (ht.mem_coresOf k (p g)).2 ⟨x g, hk, hp g hg⟩
    have hlt := Topology.lt_totalPackages_of_mem hlisted
    refine ⟨hlt, fits_hostTable.2 ⟨hlt, _, List.getElem?_eq_getElem hg,
      h.hosts ht hc hs len (List.getElem_mem hg) ?_⟩⟩
    intro R' hR' b hb y hy
    obtain ⟨q, hq, hq'⟩ := (h.sharesPackage_iff ht hc len hy (hx g hg)).2
      (hs.onePackage _ (List.getElem_mem hg) R' hR' _ (hR g hg) b hb _ (ha g hg))
    rw [hq, ← hq', hp g hg]

end Seating

/-- The search is exact. -/
theorem find_isSome_iff (ht : t.WellFormed) (hc : c.WellFormed)
    (len : free.length = t.totalThreads) :
    (∃ threads, find t free (Shape.ofClass c) = some threads) ↔
      ∃ threads, Seating t free c threads := by
  constructor
  · rintro ⟨threads, h⟩
    exact ⟨threads, seating_of_find ht hc h⟩
  · rintro ⟨threads, h⟩
    have hs := Shape.partitions_ofClass hc
    obtain ⟨owner, howner⟩ := Option.isSome_iff_exists.1
      ((Matching.complete_isSome_iff _ _ _).2 (h.matchable ht hc hs len))
    have hcomplete := Matching.complete_eq_some howner
    obtain ⟨found, hfound⟩ := exists_inRoleOrder fun a ha => exists_seat hs hcomplete ha
    refine ⟨found, find_eq_some.2 ⟨?_, owner, howner, hfound⟩⟩
    rw [hs.roles, ← h.size]
    exact length_le_countFree h.distinct h.free

end Litmus.Placement
