import Litmus.Proofs.Scheduler.Refusals

/-!
Custody of grants: a grant that is used properly is handed back at most once, to be released or to
be set aside for good. The outstanding entries are then those of the grants in hand and of those set
aside; once the grants in hand are released, all owned threads are free but those set aside.
-/
namespace Litmus

open Placement

/-- How a table lists a grant. -/
def Grant.entry (g : Grant) : Nat × List Nat := (g.ticket, g.threads)

namespace Scheduler

/-- A scheduler in use with the grants that are in hand and those that were set aside. A grant of
another scheduler may be handed to it by mistake. -/
inductive Custody : Scheduler → List Grant → List Grant → Prop where
  | start {id maxThreads : Nat} {t : Topology} {s : Scheduler} (described : t.Described)
      (h : start? id t maxThreads = some s) : Custody s [] []
  | enableDebug {s : Scheduler} {hand kept : List Grant} (h : Custody s hand kept) :
      Custody s.enableDebug hand kept
  | granted {s : Scheduler} {hand kept : List Grant} (h : Custody s hand kept) {c : Class}
      (formed : c.Formed) {g : Grant} (called : (s.tryAcquire c).2 = .ok (some g)) :
      Custody (s.tryAcquire c).1 (g :: hand) kept
  | declined {s : Scheduler} {hand kept : List Grant} (h : Custody s hand kept) {c : Class}
      (formed : c.Formed) (called : (s.tryAcquire c).2 = .ok none) :
      Custody (s.tryAcquire c).1 hand kept
  | released {s : Scheduler} {hand kept : List Grant} (h : Custody s hand kept) {g : Grant}
      (held : g ∈ hand) : Custody (s.release g).1 (hand.erase g) kept
  | quarantined {s : Scheduler} {hand kept : List Grant} (h : Custody s hand kept) {g : Grant}
      (held : g ∈ hand) : Custody (s.quarantine g).1 (hand.erase g) (g :: kept)
  | releasedElsewhere {s : Scheduler} {hand kept : List Grant} (h : Custody s hand kept)
      {g : Grant} (foreign : g.issuer ≠ s.id) : Custody (s.release g).1 hand kept
  | quarantinedElsewhere {s : Scheduler} {hand kept : List Grant} (h : Custody s hand kept)
      {g : Grant} (foreign : g.issuer ≠ s.id) : Custody (s.quarantine g).1 hand kept

variable {s : Scheduler} {hand kept : List Grant} {c : Class} {g : Grant}

theorem Custody.reachable (h : Custody s hand kept) : s.Reachable := by
  induction h with
  | start described h => exact .start described h
  | enableDebug _ ih => exact ih.enableDebug
  | granted _ formed _ ih | declined _ formed _ ih => exact ih.tryAcquire formed
  | released _ _ ih | releasedElsewhere _ _ ih => exact ih.release _
  | quarantined _ _ ih | quarantinedElsewhere _ _ ih => exact ih.quarantine _

theorem Custody.balanced (h : Custody s hand kept) : s.Balanced :=
  h.reachable.balanced

/-! ### What is listed -/

/-- The table lists the grants in hand and those set aside, and nothing else. -/
structure Lists (s : Scheduler) (hand kept : List Grant) : Prop where
  own : ∀ g ∈ hand ++ kept, g.issuer = s.id
  listed : s.outstanding.Perm ((hand ++ kept).map Grant.entry)

namespace Lists

theorem known (h : Lists s hand kept) (hs : s.Balanced) (held : g ∈ hand) :
    s.outstanding.lookup g.ticket = some g.threads := by
  have hmem : g.entry ∈ s.outstanding :=
    h.listed.mem_iff.2 (List.mem_map_of_mem (List.mem_append_left _ held))
  exact (lookup_eq_some_iff hs.tickets).2 hmem

theorem granted (h : Lists s hand kept) (hs : s.Balanced) (hc : c.WellFormed)
    (called : (s.tryAcquire c).2 = .ok (some g)) :
    Lists (s.tryAcquire c).1 (g :: hand) kept := by
  have answer : s.tryAcquire c = ((s.tryAcquire c).1, .ok (some g)) := Prod.ext rfl called
  obtain ⟨seats, -, heq, rfl⟩ := hs.seats_of_grant hc answer
  rw [heq]
  exact ⟨List.forall_mem_cons.2 ⟨rfl, h.own⟩, h.listed.cons _⟩

theorem declined (h : Lists s hand kept) (hs : s.Balanced) (hc : c.WellFormed)
    (called : (s.tryAcquire c).2 = .ok none) : Lists (s.tryAcquire c).1 hand kept := by
  cases found : find s.topology s.free (Shape.ofClass c) with
  | some seats => simp [hs.tryAcquire_some hc found] at called
  | none =>
      rcases hs.tryAcquire_none found with heq | heq <;> rw [heq]
      · exact h
      · exact ⟨h.own, h.listed⟩

/-- A grant in hand can be released, and is then listed no more. -/
theorem released (h : Lists s hand kept) (hs : s.Balanced) (held : g ∈ hand) :
    (s.release g).2 = .ok () ∧ Lists (s.release g).1 (hand.erase g) kept := by
  have known := h.known hs held
  have parted : (hand ++ kept).Perm (g :: (hand.erase g ++ kept)) :=
    (List.perm_cons_erase held).append_right kept
  rw [hs.release_known (h.own g (List.mem_append_left _ held)) known]
  refine ⟨rfl, fun g' hg' => h.own g' (parted.mem_iff.2 (List.mem_cons_of_mem _ hg')), ?_⟩
  have before := perm_of_lookup hs.tickets known
  have after := h.listed.trans (parted.map Grant.entry)
  exact (before.symm.trans after).cons_inv

theorem quarantined (h : Lists s hand kept) (hs : s.Balanced) (held : g ∈ hand) :
    Lists (s.quarantine g).1 (hand.erase g) (g :: kept) := by
  have moved : (hand ++ kept).Perm (hand.erase g ++ g :: kept) :=
    ((List.perm_cons_erase held).append_right kept).trans List.perm_middle.symm
  rw [quarantine_known (h.own g (List.mem_append_left _ held)) (by simp [h.known hs held])]
  exact ⟨fun g' hg' => h.own g' (moved.mem_iff.2 hg'), h.listed.trans (moved.map _)⟩

end Lists

theorem outstanding_of_start {id maxThreads : Nat} {t : Topology}
    (h : start? id t maxThreads = some s) : s.outstanding = [] := by
  obtain ⟨-, rfl⟩ := start?_eq_some.1 h
  rfl

theorem Custody.lists (h : Custody s hand kept) : Lists s hand kept := by
  induction h with
  | start _ h => exact ⟨by simp, by simp [outstanding_of_start h]⟩
  | enableDebug _ ih => exact ⟨ih.own, ih.listed⟩
  | granted h formed called ih => exact ih.granted h.balanced formed.wellFormed called
  | declined h formed called ih => exact ih.declined h.balanced formed.wellFormed called
  | released h held ih => exact (ih.released h.balanced held).2
  | quarantined h held ih => exact ih.quarantined h.balanced held
  | releasedElsewhere _ foreign ih => rwa [release_unknown fun own => foreign own.1]
  | quarantinedElsewhere _ foreign ih => rwa [quarantine_unknown fun own => foreign own.1]

/-! ### When all grants are back -/

/-- The calls that release some grants one after the other. -/
def handBack (grants : List Grant) : List Call :=
  grants.map .release

theorem formed_of_mem_handBack {grants : List Grant} {k : Call} (h : k ∈ handBack grants) :
    k.Formed := by
  obtain ⟨g, -, rfl⟩ := List.mem_map.1 h
  trivial

/-- The grants in hand can be released in any order. -/
theorem Custody.of_handBack (h : Custody s hand kept) {order : List Grant}
    (perm : order.Perm hand) :
    Custody (s.session (handBack order)).1 [] kept ∧
      ∀ a ∈ (s.session (handBack order)).2, a = .settled (.ok ()) := by
  induction order generalizing s hand with
  | nil =>
      obtain rfl := perm.nil_eq
      exact ⟨h, by simp [handBack, session]⟩
  | cons g order ih =>
      have held : g ∈ hand := perm.mem_iff.1 List.mem_cons_self
      -- What is left of the order is what is left in hand.
      have rest : order.Perm (hand.erase g) := (perm.trans (List.perm_cons_erase held)).cons_inv
      obtain ⟨last, answers⟩ := ih (h.released held) rest
      have settled : (s.call (.release g)).2 = .settled (.ok ()) :=
        congrArg Answer.settled (h.lists.released h.balanced held).1
      exact ⟨last, List.forall_mem_cons.2 ⟨settled, answers⟩⟩

/-- The owned threads that none of some grants holds. -/
def ownedBut (s : Scheduler) (kept : List Grant) : List Nat :=
  s.owned.filter fun x => kept.all fun g => x ∉ g.threads

/-- The free threads if only some grants are outstanding. -/
def poolBut (s : Scheduler) (kept : List Grant) : FreeSet :=
  poolOf s.topology (s.ownedBut kept)

theorem mem_ownedBut {x : Nat} :
    x ∈ s.ownedBut kept ↔ x ∈ s.owned ∧ ∀ g ∈ kept, x ∉ g.threads := by
  simp [ownedBut]

theorem isFree_poolOf {t : Topology} {xs : List Nat} {x : Nat} :
    isFree (poolOf t xs) x = true ↔ x ∈ xs ∧ x < t.totalThreads := by
  rw [poolOf, isFree_mark]
  simp

theorem length_poolOf (t : Topology) (xs : List Nat) : (poolOf t xs).length = t.totalThreads := by
  simp [poolOf]

theorem idlePool_eq (s : Scheduler) : s.idlePool s.maxThreads = s.poolBut [] := by
  simp [idlePool, poolBut, ownedBut, maxThreads]

theorem freeSet_ext {free free' : FreeSet} (size : free.length = free'.length)
    (same : ∀ x, isFree free x = true ↔ isFree free' x = true) : free = free' := by
  refine List.ext_getElem size fun x hx hx' => ?_
  have := same x
  simp only [isFree, List.getElem?_eq_getElem hx, List.getElem?_eq_getElem hx'] at this
  exact Bool.eq_iff_iff.2 this

theorem Lists.free_eq (h : Lists s [] kept) (hs : s.Balanced) : s.free = s.poolBut kept := by
  refine freeSet_ext (hs.mask.trans (length_poolOf ..).symm) fun x => ?_
  have hheld : x ∈ s.held ↔ ∃ g ∈ kept, x ∈ g.threads := by
    rw [held, (h.listed.flatMap_right _).mem_iff]
    simp [Grant.entry]
  rw [poolBut, isFree_poolOf, mem_ownedBut, ← hs.conserved.mem_iff, List.mem_append,
    mem_freeThreads]
  constructor
  · intro hfree
    have hnot : x ∉ s.held := fun hx => by simp [hs.not_free_of_held hx] at hfree
    refine ⟨⟨.inl hfree, fun g hg hx => hnot (hheld.2 ⟨g, hg, hx⟩)⟩, ?_⟩
    rw [← hs.mask]
    exact lt_of_isFree hfree
  · rintro ⟨⟨hfree | hx, spare⟩, -⟩
    · exact hfree
    · obtain ⟨g, hg, hx⟩ := hheld.1 hx
      exact absurd hx (spare g hg)

theorem Fixed.poolBut_eq {s' : Scheduler} (h : Fixed s s') (kept : List Grant) :
    s'.poolBut kept = s.poolBut kept := by
  rw [poolBut, poolBut, ownedBut, ownedBut, h.topology, h.owned]

/-- The check before a wait answers whether the owned threads can seat a class. -/
theorem Balanced.fitsIdle_iff (h : s.Balanced) (hc : c.WellFormed) :
    s.fitsIdle c = true ↔ ∃ seats, Seating s.topology (s.poolBut []) c seats := by
  have found := find_isSome_iff h.machine hc (length_poolOf s.topology (s.ownedBut []))
  rw [fitsIdle, idlePool_eq, Bool.and_eq_true, decide_eq_true_eq, Option.isSome_iff_exists]
  refine ⟨fun fits => found.1 fits.2, fun seated => ⟨?_, found.2 seated⟩⟩
  obtain ⟨seats, seating⟩ := seated
  have inside : ∀ x ∈ seats, x ∈ s.owned := fun x hx =>
    (mem_ownedBut.1 (isFree_poolOf.1 (seating.free x hx)).1).1
  rw [← seating.size]
  exact (seating.distinct.subperm inside).length_le

/-- Once the grants in hand are released, a class is granted exactly if it fits the owned threads
that were not set aside. -/
theorem Custody.grants_iff (h : Custody s hand kept) (formed : c.Formed) {order : List Grant}
    (perm : order.Perm hand) :
    (∃ s' g, (s.session (handBack order)).1.tryAcquire c = (s', .ok (some g))) ↔
      ∃ seats, Seating s.topology (s.poolBut kept) c seats := by
  have back := (h.of_handBack perm).1
  have calls : ∀ k ∈ handBack order, k.Formed := fun _ => formed_of_mem_handBack
  have fixed := (h.balanced.orderly calls).fixed
  rw [back.balanced.grants_iff formed.wellFormed, back.lists.free_eq back.balanced,
    fixed.topology, fixed.poolBut_eq kept]

end Scheduler
end Litmus
