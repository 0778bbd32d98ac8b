import Litmus.Proofs.Placement.Digest
import Litmus.Proofs.Scheduler.Sessions

/-!
The shape table of a scheduler: whatever was asked of the scheduler, each entry is a class as it can
be made with its digest, and no class has two.
-/
namespace Litmus.Scheduler

variable {s s' : Scheduler} {c : Class} {k : Call} {a : Answer}

/-- The keys of the shape table are classes as they can be made, each listed once. -/
structure Remembers (s : Scheduler) : Prop where
  formed : ∀ e ∈ s.shapes, e.1.Formed
  once : (s.shapes.map (·.1)).Nodup

theorem Remembers.cachedFor (h : s.Remembers) (formed : c.Formed) : (s.cachedFor c).Remembers := by
  cases known : s.shapes.lookup c with
  | some shape =>
      have same : (s.cachedFor c).shapes = s.shapes := by
        simp [Scheduler.cachedFor, shapeFor, known]
      exact ⟨same ▸ h.formed, same ▸ h.once⟩
  | none =>
      have added : (s.cachedFor c).shapes = (c, Shape.ofClass c) :: s.shapes := by
        simp [Scheduler.cachedFor, shapeFor, known]
      have new : c ∉ s.shapes.map (·.1) := by
        rw [← isSome_lookup_iff, known]
        simp
      exact ⟨added ▸ List.forall_mem_cons.2 ⟨formed, h.formed⟩,
        added ▸ List.nodup_cons.2 ⟨new, h.once⟩⟩

theorem Happens.remembers (h : Happens s k s' a) (formed : k.Formed) (hs : s.Remembers) :
    s'.Remembers := by
  cases h with
  | declined _ table =>
      rcases table with rfl | rfl
      · exact hs
      · exact hs.cachedFor formed
  | granted =>
      have h := hs.cachedFor formed
      exact ⟨h.formed, h.once⟩
  | returned | withheld => exact ⟨hs.formed, hs.once⟩
  | notReturned | notWithheld => exact hs

theorem Reachable.remembers (h : s.Reachable) : s.Remembers := by
  induction h with
  | start _ h =>
      obtain ⟨-, rfl⟩ := start?_eq_some.1 h
      exact ⟨by simp [fresh], by simp [fresh]⟩
  | enableDebug _ ih => exact ⟨ih.formed, ih.once⟩
  | tryAcquire h formed ih =>
      exact (h.balanced.happens (k := .acquire _) formed).remembers formed ih
  | release h g ih => exact (h.balanced.happens (k := .release g) trivial).remembers trivial ih
  | quarantine h g ih =>
      exact (h.balanced.happens (k := .quarantine g) trivial).remembers trivial ih

/-- The digest of a class as it can be made meets no missing entry; it is the shape of the class,
whose groups divide the roles as the class says, in order. The shape table of a scheduler in use
holds such digests. -/
theorem shapes_digested :
    (∀ c : Class, c.Formed →
      Shape.digest c = .ok (Shape.ofClass c) ∧ Shape.Digested c (Shape.ofClass c)) ∧
    ∀ s : Scheduler, s.Reachable →
      (s.shapes.map (·.1)).Nodup ∧
      ∀ e ∈ s.shapes, e.1.Formed ∧ e.2 = Shape.ofClass e.1 ∧ Shape.digest e.1 = .ok e.2 := by
  have digests {c : Class} (formed : c.Formed) := Shape.digest_eq_ok formed.wellFormed
  refine ⟨fun c formed => ⟨digests formed, Shape.digested_ofClass formed.wellFormed⟩,
    fun s reachable => ⟨reachable.remembers.once, fun e he => ?_⟩⟩
  have formed := reachable.remembers.formed e he
  have cached := reachable.balanced.cached e he
  exact ⟨formed, cached, cached ▸ digests formed⟩

/-- Three roles in one package, two of them on one core, and a fourth apart; and the table after a
class of two roles was asked for. -/
theorem shapes_digested_four :
    Shape.digest ⟨[0, 0, 0, 1], [0, 1, 1, 2]⟩ = .ok ⟨[⟨[[1, 2], [0]], 3⟩, ⟨[[3]], 1⟩], 4⟩ ∧
      Shape.Digested ⟨[0, 0, 0, 1], [0, 1, 1, 2]⟩ ⟨[⟨[[1, 2], [0]], 3⟩, ⟨[[3]], 1⟩], 4⟩ ∧
      (⟨[0, 1], [0, 1]⟩, ⟨[⟨[[0]], 1⟩, ⟨[[1]], 1⟩], 2⟩) ∈
        (lopsidedIdle.tryAcquire ⟨[0, 1], [0, 1]⟩).1.shapes ∧
      Shape.digest ⟨[0, 1], [0, 1]⟩ = .ok ⟨[⟨[[0]], 1⟩, ⟨[[1]], 1⟩], 2⟩ := by
  obtain ⟨digests, table⟩ := shapes_digested
  have four := digests ⟨[0, 0, 0, 1], [0, 1, 1, 2]⟩ (.made [7, 7, 7, 3] [4, 2, 2, 9] (by cbv))
  have shape : Shape.ofClass ⟨[0, 0, 0, 1], [0, 1, 1, 2]⟩ =
      ⟨[⟨[[1, 2], [0]], 3⟩, ⟨[[3]], 1⟩], 4⟩ := by cbv
  rw [shape] at four
  have described : lopsided.Described := .records lopsided.threads (by cbv)
  have started : start? 0 lopsided 3 = some lopsidedIdle := by cbv
  have idle : lopsidedIdle.Reachable := .start described started
  have reachable := idle.tryAcquire (c := ⟨[0, 1], [0, 1]⟩) (.made [0, 1] [0, 1] (by cbv))
  have shapes : (lopsidedIdle.tryAcquire ⟨[0, 1], [0, 1]⟩).1.shapes =
      [(⟨[0, 1], [0, 1]⟩, ⟨[⟨[[0]], 1⟩, ⟨[[1]], 1⟩], 2⟩)] := by cbv
  have listed : (⟨[0, 1], [0, 1]⟩, ⟨[⟨[[0]], 1⟩, ⟨[[1]], 1⟩], 2⟩) ∈
      (lopsidedIdle.tryAcquire ⟨[0, 1], [0, 1]⟩).1.shapes := by
    rw [shapes]
    exact List.mem_singleton_self _
  exact ⟨four.1, four.2, listed, ((table _ reachable).2 _ listed).2.2⟩

end Litmus.Scheduler
