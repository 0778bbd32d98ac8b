import Litmus.Proofs.Class.WellFormed
import Litmus.Proofs.Placement.FreeSet
import Litmus.Proofs.Placement.Matching
import Litmus.Proofs.Topology.WellFormed

/-!
Seatings: what a placement of a class on free threads has to be. A package can seat the core groups
of a package group exactly if the largest group fits the core with the most free threads, the next
group the next core, and so on.
-/
namespace Litmus

/-- Two threads of one core. -/
def Topology.SharesCore (t : Topology) (x y : Nat) : Prop :=
  ∃ k, t.coreOf x = .ok k ∧ t.coreOf y = .ok k

def Topology.SharesPackage (t : Topology) (x y : Nat) : Prop :=
  ∃ p, t.packageOf x = .ok p ∧ t.packageOf y = .ok p

/-- Whether two threads lie to each other as an affinity asks for. -/
def Topology.Honours (t : Topology) (x y : Nat) : Affinity → Prop
  | .sameCore => t.SharesCore x y
  | .samePackage => t.SharesPackage x y ∧ ¬ t.SharesCore x y
  | .apart => ∃ p q, t.packageOf x = .ok p ∧ t.packageOf y = .ok q ∧ p ≠ q

namespace Placement

/-- A free thread for each role, no thread twice, such that any two roles lie to each other as the
class says. -/
structure Seating (t : Topology) (free : FreeSet) (c : Class) (seats : List Nat) : Prop where
  size : seats.length = c.size
  free : ∀ x ∈ seats, isFree free x = true
  distinct : seats.Nodup
  honours : ∀ (a b x y : Nat), a ≠ b → seats[a]? = some x → seats[b]? = some y →
    ∃ relation, c.relation a b = .ok relation ∧ t.Honours x y relation

/-! ### Sizes from the largest down -/

theorem getElem_le_of_sorted {sizes : List Nat} (h : sizes.Pairwise fun m n => n ≤ m) {i j : Nat}
    (hij : i ≤ j) (hj : j < sizes.length) : sizes[j] ≤ sizes[i] := by
  rcases Nat.eq_or_lt_of_le hij with rfl | hlt
  · exact Nat.le_refl _
  · exact List.pairwise_iff_getElem.1 h i j (by omega) hj hlt

/-- If demands fit capacities one to one in any way, they do so from the largest down: the first
`i + 1` demands need as many capacities that are no smaller than the last of them, and those come
first. -/
theorem sorted_fit {demands capacities : List Nat} (hd : demands.Pairwise fun m n => n ≤ m)
    (hc : capacities.Pairwise fun m n => n ≤ m) (place : Nat → Nat)
    (inj : ∀ i j, i < demands.length → j < demands.length → place i = place j → i = j)
    (fit : ∀ i (hi : i < demands.length), ∃ h : place i < capacities.length,
      demands[i] ≤ capacities[place i]) (i : Nat) (hi : i < demands.length) :
    ∃ h : i < capacities.length, demands[i] ≤ capacities[i] := by
  by_contra hnot
  have early : ∀ j ∈ Finset.range (i + 1), place j ∈ Finset.range i := by
    intro j hj
    have hji : j ≤ i := Nat.lt_succ_iff.1 (Finset.mem_range.1 hj)
    obtain ⟨hlt, hfit⟩ := fit j (by omega)
    rw [Finset.mem_range]
    refine Nat.lt_of_not_le fun hle => hnot ⟨by omega, ?_⟩
    have hdemand := getElem_le_of_sorted hd hji hi
    have hcapacity := getElem_le_of_sorted hc hle hlt
    omega
  have hinj : Set.InjOn place (Finset.range (i + 1)) := by
    intro j hj k hk heq
    have hj := Finset.mem_range.1 (Finset.mem_coe.1 hj)
    have hk := Finset.mem_range.1 (Finset.mem_coe.1 hk)
    exact inj j k (by omega) (by omega) heq
  have := Finset.card_le_card_of_injOn place early hinj
  simp only [Finset.card_range] at this
  omega

theorem hosts_iff {cores : List (List Nat)} {G : PackageGroup} :
    hosts cores G = true ↔ ∀ i (hi : i < G.coreGroups.length), ∃ h : i < cores.length,
      G.coreGroups[i].length ≤ cores[i].length := by
  simp only [hosts, Bool.and_eq_true, decide_eq_true_eq, List.all_eq_true]
  constructor
  · rintro ⟨hlen, hall⟩ i hi
    refine ⟨by omega, hall (G.coreGroups[i], cores[i]) (List.mem_iff_getElem.2 ⟨i, ?_, ?_⟩)⟩
    · simp
      omega
    · simp
  · intro h
    refine ⟨Nat.le_of_not_lt fun hlt => ?_, ?_⟩
    · obtain ⟨hself, -⟩ := h cores.length hlt
      omega
    · rintro ⟨R, L⟩ hmem
      obtain ⟨i, hi, heq⟩ := List.mem_iff_getElem.1 hmem
      simp only [List.length_zip] at hi
      simp only [List.getElem_zip, Prod.mk.injEq] at heq
      obtain ⟨rfl, rfl⟩ := heq
      exact (h i (by omega)).2

/-- A package hosts a group if its core groups have cores of their own with enough free threads. -/
theorem hosts_of_injection {cores : List (List Nat)} {G : PackageGroup}
    (hG : G.coreGroups.Pairwise fun R R' => R'.length ≤ R.length)
    (hcores : cores.Pairwise fun L L' => L'.length ≤ L.length) (place : Nat → Nat)
    (inj : ∀ i j, i < G.coreGroups.length → j < G.coreGroups.length → place i = place j → i = j)
    (fit : ∀ i (hi : i < G.coreGroups.length), ∃ h : place i < cores.length,
      G.coreGroups[i].length ≤ cores[place i].length) : hosts cores G = true := by
  refine hosts_iff.2 fun i hi => ?_
  have demands : (G.coreGroups.map List.length).Pairwise fun m n => n ≤ m :=
    List.pairwise_map.2 hG
  have capacities : (cores.map List.length).Pairwise fun m n => n ≤ m :=
    List.pairwise_map.2 hcores
  have hfit := sorted_fit demands capacities place (by simpa using inj) (by simpa using fit) i
    (by simpa using hi)
  simpa using hfit

end Placement
end Litmus
