import Litmus.Proofs.Class.Enumeration
import Litmus.Proofs.Scheduler.Custody
import Litmus.Runner.Bench

/-!
Questions about idle threads: which classes could be placed if nothing were taken. The answers
depend on the machine and on the owned threads only, the list of classes and the check for one class
agree, and a class that some state of the scheduler grants passes the check in every other.
-/
namespace Litmus

open Placement

/-- Some of the given threads can be the seats of a class: a thread for each role, no thread twice,
such that any two roles lie to each other as the class says. -/
def Topology.CanSeat (t : Topology) (threads : List Nat) (c : Class) : Prop :=
  ∃ seats : List Nat, seats.length = c.size ∧ seats ⊆ threads ∧ seats.Nodup ∧
    ∀ (a b x y : Nat), a ≠ b → seats[a]? = some x → seats[b]? = some y →
      ∃ relation, c.relation a b = .ok relation ∧ t.Honours x y relation

namespace Topology.CanSeat

variable {t : Topology} {threads threads' : List Nat} {c : Class}

theorem mono (h : t.CanSeat threads c) (inside : threads ⊆ threads') : t.CanSeat threads' c := by
  obtain ⟨seats, size, taken, distinct, honours⟩ := h
  exact ⟨seats, size, List.Subset.trans taken inside, distinct, honours⟩

theorem size_le (h : t.CanSeat threads c) : c.size ≤ threads.length := by
  obtain ⟨seats, size, taken, distinct, -⟩ := h
  exact size ▸ (distinct.subperm taken).length_le

theorem iff_seating {free : FreeSet} :
    t.CanSeat (freeThreads free) c ↔ ∃ seats, Seating t free c seats := by
  constructor
  · rintro ⟨seats, size, taken, distinct, honours⟩
    exact ⟨seats, size, fun x hx => mem_freeThreads.1 (taken hx), distinct, honours⟩
  · rintro ⟨seats, h⟩
    exact ⟨seats, h.size, fun x hx => mem_freeThreads.2 (h.free x hx), h.distinct, h.honours⟩

end Topology.CanSeat

namespace Scheduler

variable {s s' : Scheduler} {c : Class} {roles limit : Nat}

theorem mem_freeThreads_poolOf {t : Topology} {threads : List Nat}
    (inside : ∀ x ∈ threads, x < t.totalThreads) {x : Nat} :
    x ∈ freeThreads (poolOf t threads) ↔ x ∈ threads := by
  rw [mem_freeThreads, isFree_poolOf]
  exact and_iff_left_of_imp (inside x)

/-- The search over idle threads finds a place exactly for the classes that they can seat. -/
theorem Balanced.find_idlePool (h : s.Balanced) (hc : c.WellFormed) (limit : Nat) :
    (find s.topology (s.idlePool limit) (Shape.ofClass c)).isSome = true ↔
      s.topology.CanSeat (s.owned.take limit) c := by
  have inside : ∀ x ∈ s.owned.take limit, x < s.topology.totalThreads :=
    fun x hx => h.owned_inside x (List.mem_of_mem_take hx)
  rw [idlePool, Option.isSome_iff_exists, find_isSome_iff h.machine hc (length_poolOf ..),
    ← Topology.CanSeat.iff_seating]
  constructor
  · exact fun seats => seats.mono fun x => (mem_freeThreads_poolOf inside).1
  · exact fun seats => seats.mono fun x => (mem_freeThreads_poolOf inside).2

/-- The list is what the search alone would leave of all classes: it answers at once only where
there are too few threads for any of them. -/
theorem Balanced.localAffinity_eq (h : s.Balanced) (roles limit : Nat) :
    s.localAffinity roles limit = (Class.enumerate roles).filter fun c =>
      (find s.topology (s.idlePool (min limit s.maxThreads)) (Shape.ofClass c)).isSome := by
  simp only [localAffinity]
  split
  case isTrue few =>
    refine (List.filter_eq_nil_iff.2 fun c listed found => ?_).symm
    have formed := (Class.mem_enumerate_iff_formed.1 listed).1.wellFormed
    have size := (Class.mem_enumerate_iff_formed.1 listed).2
    have seats := ((h.find_idlePool formed _).1 found).size_le
    rw [List.length_take, size] at seats
    have some : 0 < roles := size ▸ List.length_pos_of_ne_nil formed.roles
    omega
  case isFalse => rfl

theorem Balanced.mem_localAffinity (h : s.Balanced) : c ∈ s.localAffinity roles limit ↔
    (c.Formed ∧ c.size = roles) ∧
      s.topology.CanSeat (s.owned.take (min limit s.maxThreads)) c := by
  rw [h.localAffinity_eq, List.mem_filter, ← Class.mem_enumerate_iff_formed]
  refine and_congr_right fun listed => ?_
  exact h.find_idlePool (Class.mem_enumerate_iff_formed.1 listed).1.wellFormed _

theorem Balanced.fitsIdle_iff_canSeat (h : s.Balanced) (formed : c.Formed) :
    s.fitsIdle c = true ↔ s.topology.CanSeat s.owned c := by
  have found := h.find_idlePool formed.wellFormed s.maxThreads
  rw [maxThreads, List.take_length] at found
  rw [fitsIdle, Bool.and_eq_true, decide_eq_true_eq, maxThreads, found]
  exact and_iff_right_of_imp Topology.CanSeat.size_le

theorem Balanced.localAffinity_sublist (h : s.Balanced) {limit' : Nat} (wider : limit ≤ limit') :
    (s.localAffinity roles limit).Sublist (s.localAffinity roles limit') := by
  have inside : s.owned.take (min limit s.maxThreads) ⊆ s.owned.take (min limit' s.maxThreads) :=
    List.take_subset_take_left _ (by omega)
  have narrowed : s.localAffinity roles limit = (s.localAffinity roles limit').filter fun c =>
      (find s.topology (s.idlePool (min limit s.maxThreads)) (Shape.ofClass c)).isSome := by
    rw [h.localAffinity_eq, h.localAffinity_eq, List.filter_filter]
    refine List.filter_congr fun c listed => ?_
    have formed := (Class.mem_enumerate_iff_formed.1 listed).1.wellFormed
    rw [Bool.eq_iff_iff, Bool.and_eq_true, h.find_idlePool formed, h.find_idlePool formed]
    exact (and_iff_left_of_imp fun seats => seats.mono inside).symm
  rw [narrowed]
  exact List.filter_sublist

theorem Balanced.canSeat_of_grants (h : s.Balanced) (formed : c.Formed)
    (grants : ∃ s' g, s.tryAcquire c = (s', .ok (some g))) : s.topology.CanSeat s.owned c := by
  have seats := Topology.CanSeat.iff_seating.2 ((h.grants_iff formed.wellFormed).1 grants)
  exact seats.mono fun x hx => h.conserved.mem_iff.1 (List.mem_append_left _ hx)

theorem Fixed.localAffinity_eq (h : Fixed s s') (roles limit : Nat) :
    s'.localAffinity roles limit = s.localAffinity roles limit := by
  have pool : s'.idlePool = s.idlePool := by
    funext limit
    rw [idlePool, idlePool, h.topology, h.owned]
  have size : s'.maxThreads = s.maxThreads := congrArg List.length h.owned
  simp only [localAffinity, h.topology, pool, size]

/-! ### Agreement -/

/-- What a scheduler answers when it is asked for the classes that would fit some idle threads. -/
structure ListingRule (s : Scheduler) (roles limit : Nat) : Prop where
  ordered : (s.localAffinity roles limit).Sublist (Class.enumerate roles)
  once : (s.localAffinity roles limit).Nodup
  exact : ∀ c, c ∈ s.localAffinity roles limit ↔ (c.Formed ∧ c.size = roles) ∧
    s.topology.CanSeat (s.owned.take (min limit s.maxThreads)) c
  widening : (s.localAffinity roles limit).Sublist (s.localAffinity roles (limit + 1))

theorem Balanced.listingRule (h : s.Balanced) (roles limit : Nat) : ListingRule s roles limit := by
  have ordered : (s.localAffinity roles limit).Sublist (Class.enumerate roles) := by
    rw [h.localAffinity_eq]
    exact List.filter_sublist
  exact ⟨ordered, (Class.nodup_enumerate roles).sublist ordered, fun c => h.mem_localAffinity,
    h.localAffinity_sublist (Nat.le_succ limit)⟩

/-- What two states of one scheduler, in any order, have in common: the answers about idle threads.
A class that one of them grants is never refused at once by the other. -/
structure Agreement (s s' : Scheduler) : Prop where
  listing : ∀ roles limit, s'.localAffinity roles limit = s.localAffinity roles limit
  granted : ∀ c : Class, c.Formed → (∃ after g, s'.tryAcquire c = (after, .ok (some g))) →
    s.fitsIdle c = true
  waits : ∀ c : Class, c.Formed → (∃ after g, s'.tryAcquire c = (after, .ok (some g))) →
    ∀ (ω : Type) (others : Others ω) (b : Bench ω), b.scheduler = s →
      b.acquire others c = Bench.attempt others c others.patience 0 b

theorem Balanced.agreement (h : s.Balanced) (h' : s'.Balanced) (fixed : Fixed s s') :
    Agreement s s' := by
  have fits (c : Class) (formed : c.Formed)
      (grants : ∃ after g, s'.tryAcquire c = (after, .ok (some g))) : s.fitsIdle c = true := by
    have seats := h'.canSeat_of_grants formed grants
    rw [fixed.topology, fixed.owned] at seats
    exact (h.fitsIdle_iff_canSeat formed).2 seats
  refine ⟨fixed.localAffinity_eq, fits, fun c formed grants ω others b own => ?_⟩
  rw [Bench.acquire, own, if_pos (fits c formed grants)]

/-- In every state of a scheduler the listed classes are those that the idle threads can seat, the
check for one class looks it up in that list, and no other state of the scheduler lists or grants
anything else. -/
theorem idle_queries_exact (reachable : s.Reachable) :
    (∀ roles limit, ListingRule s roles limit) ∧
      (∀ c : Class, c.Formed →
        (s.fitsIdle c = true ↔ c ∈ s.localAffinity c.size s.maxThreads)) ∧
      ∀ s' : Scheduler, s'.Reachable → Fixed s s' → Agreement s s' := by
  have h := reachable.balanced
  refine ⟨h.listingRule, fun c formed => ?_, fun s' reachable' => h.agreement reachable'.balanced⟩
  rw [h.fitsIdle_iff_canSeat formed, h.mem_localAffinity, Nat.min_self, maxThreads,
    List.take_length]
  exact (and_iff_right ⟨formed, rfl⟩).symm

/-- The lopsided machine with a thread taken. -/
def lopsidedTaken : Scheduler :=
  (lopsidedIdle.tryAcquire ⟨[0], [0]⟩).1

/-- With a thread of its larger core taken, a scheduler still says that two threads of that core are
within the owned ones, but not within the first two. -/
theorem idle_queries_exact_lopsided :
    lopsidedTaken.Reachable ∧ Fixed lopsidedTaken lopsidedIdle ∧
      lopsidedTaken.localAffinity 2 2 = [⟨[0, 1], [0, 1]⟩] ∧
      ¬ lopsided.CanSeat [0, 2] ⟨[0, 0], [0, 0]⟩ ∧
      (lopsidedTaken.tryAcquire ⟨[0, 0], [0, 0]⟩).2 = .ok none ∧
      lopsidedTaken.fitsIdle ⟨[0, 0], [0, 0]⟩ = true ∧
      ⟨[0, 0], [0, 0]⟩ ∈ lopsidedTaken.localAffinity 2 3 := by
  have described : lopsided.Described := .records lopsided.threads (by cbv)
  have started : start? 0 lopsided 3 = some lopsidedIdle := by cbv
  have idle : lopsidedIdle.Reachable := .start described started
  have taken : lopsidedTaken.Reachable := idle.tryAcquire (.made [0] [0] (by cbv))
  have core : (⟨[0, 0], [0, 0]⟩ : Class).Formed := .made [5, 5] [2, 2] (by cbv)
  have fixed : Fixed lopsidedTaken lopsidedIdle := ⟨by cbv, by cbv, by cbv⟩
  have granted : (lopsidedIdle.tryAcquire ⟨[0, 0], [0, 0]⟩).2 =
      .ok (some (Grant.issue 0 0 ⟨[0, 0], [0, 0]⟩ [0, 1])) := by cbv
  have listed : lopsidedTaken.localAffinity 2 2 = [⟨[0, 1], [0, 1]⟩] := by cbv
  obtain ⟨listing, checked, agree⟩ := idle_queries_exact taken
  have fits := (agree lopsidedIdle idle fixed).granted _ core ⟨_, _, Prod.ext rfl granted⟩
  have all : lopsidedTaken.maxThreads = 3 := by cbv
  have member := (checked _ core).1 fits
  rw [all] at member
  refine ⟨taken, fixed, listed, fun seats => ?_, by cbv, fits, member⟩
  have machine : lopsidedTaken.topology = lopsided := by cbv
  have pool : lopsidedTaken.owned.take (min 2 lopsidedTaken.maxThreads) = [0, 2] := by cbv
  rw [← machine, ← pool] at seats
  have within := ((listing 2 2).exact ⟨[0, 0], [0, 0]⟩).2 ⟨⟨core, rfl⟩, seats⟩
  simp [listed] at within

end Scheduler
end Litmus
