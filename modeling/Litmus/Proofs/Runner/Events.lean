import Litmus.Proofs.Scheduler.Holdings
import Litmus.Runner.Basic

/-!
Events of a run: the calls that it makes of the scheduler, those that others make meanwhile, and the
ends of its iterations. A table is followed through them, and what the calls of others alone come to
is told apart from what the run does itself.
-/
namespace Litmus

open Placement Scheduler

inductive RunEvent where
  | own (call : Call)
  | other (call : Call)
  | ended (e : IterationEnd)

namespace Scheduler

/-- The table after some events. -/
def follow (s : Scheduler) : List RunEvent → Scheduler
  | [] => s
  | .own k :: es | .other k :: es => (s.call k).1.follow es
  | .ended _ :: es => s.follow es

/-- The calls that a run makes itself, with their answers. -/
def ownCalls (s : Scheduler) : List RunEvent → List (Call × Answer)
  | [] => []
  | .own k :: es => (k, (s.call k).2) :: (s.call k).1.ownCalls es
  | .other k :: es => (s.call k).1.ownCalls es
  | .ended _ :: es => s.ownCalls es

/-- What holdings come to if only the calls of others count, with the answers that they get. -/
def shadow (s : Scheduler) (h : Holdings) : List RunEvent → Holdings
  | [] => h
  | .own k :: es => (s.call k).1.shadow h es
  | .other k :: es => (s.call k).1.shadow (h.effect k (s.call k).2) es
  | .ended _ :: es => s.shadow h es

end Scheduler

/-- Events in which a run makes no call itself. -/
def RunEvent.Foreign : RunEvent → Prop
  | .own _ => False
  | .other k => k.Formed
  | .ended _ => True

/-- Events in which nobody else hands a grant back. -/
def RunEvent.Spares (g : Grant) : RunEvent → Prop
  | .other k => k.Spares g
  | .own _ | .ended _ => True

variable {s : Scheduler} {es es' : List RunEvent} {c : Class} {g : Grant} {h : Holdings}

theorem follow_append : s.follow (es ++ es') = (s.follow es).follow es' := by
  induction es generalizing s with
  | nil => rfl
  | cons e es ih => cases e <;> exact ih

theorem ownCalls_append :
    s.ownCalls (es ++ es') = s.ownCalls es ++ (s.follow es).ownCalls es' := by
  induction es generalizing s with
  | nil => rfl
  | cons e es ih =>
      cases e with
      | own k => exact congrArg (_ :: ·) ih
      | other k => exact ih
      | ended e => exact ih

theorem shadow_append : s.shadow h (es ++ es') = (s.follow es).shadow (s.shadow h es) es' := by
  induction es generalizing s h with
  | nil => rfl
  | cons e es ih => cases e <;> exact ih

theorem follow_other (calls : List Call) :
    s.follow (calls.map .other) = (s.session calls).1 := by
  induction calls generalizing s with
  | nil => rfl
  | cons k calls ih => exact ih

/-! ### Waiting, holding, leaving -/

/-- Events in which a run is granted nothing, so that only others change what the table holds. -/
structure Waits (c : Class) (s : Scheduler) (es : List RunEvent) : Prop where
  balanced : (s.follow es).Balanced
  holdings : (s.follow es).holdings = s.shadow s.holdings es
  declined : ∀ call ∈ s.ownCalls es, call = (.acquire c, .acquired (.ok none))

/-- Events in which a run is granted one placement and keeps it: without it the table holds what
others have made of it. -/
structure Stays (c : Class) (g : Grant) (s : Scheduler) (es : List RunEvent) : Prop where
  balanced : (s.follow es).Balanced
  holds : (s.follow es).Holds g
  holdings : ((s.follow es).returned g).holdings = s.shadow s.holdings es
  calls : ∃ declined : List (Call × Answer),
    (∀ call ∈ declined, call = (.acquire c, .acquired (.ok none))) ∧
      s.ownCalls es = declined ++ [(.acquire c, .acquired (.ok (some g)))]

theorem Waits.start (hs : s.Balanced) : Waits c s [] :=
  ⟨hs, rfl, by simp [ownCalls]⟩

theorem Waits.append (h : Waits c s es) (h' : Waits c (s.follow es) es') :
    Waits c s (es ++ es') where
  balanced := follow_append ▸ h'.balanced
  holdings := by rw [follow_append, shadow_append, h'.holdings, h.holdings]
  declined := by
    rw [ownCalls_append]
    exact List.forall_mem_append.2 ⟨h.declined, h'.declined⟩

theorem Waits.stays (h : Waits c s es) (h' : Stays c g (s.follow es) es') :
    Stays c g s (es ++ es') where
  balanced := follow_append ▸ h'.balanced
  holds := follow_append ▸ h'.holds
  holdings := by rw [follow_append, shadow_append, h'.holdings, h.holdings]
  calls := by
    obtain ⟨declined, all, heq⟩ := h'.calls
    refine ⟨s.ownCalls es ++ declined, List.forall_mem_append.2 ⟨h.declined, all⟩, ?_⟩
    rw [ownCalls_append, heq, List.append_assoc]

/-- Others do not grant the run anything. -/
theorem Waits.foreign (hs : s.Balanced) (foreign : ∀ e ∈ es, e.Foreign) : Waits c s es := by
  induction es generalizing s with
  | nil => exact .start hs
  | cons e es ih =>
      obtain ⟨first, rest⟩ := List.forall_mem_cons.1 foreign
      cases e with
      | own k => exact first.elim
      | other k =>
          have happens := hs.happens first
          have one : Waits c s [.other k] :=
            ⟨happens.balanced hs, happens.holdings, by simp [ownCalls]⟩
          exact one.append (ih one.balanced rest)
      | ended e =>
          have one : Waits c s [.ended e] := ⟨hs, rfl, by simp [ownCalls]⟩
          exact one.append (ih hs rest)

theorem Stays.ended (h : Stays c g s es) (e : IterationEnd) : Stays c g s (es ++ [.ended e]) where
  balanced := follow_append ▸ h.balanced
  holds := follow_append ▸ h.holds
  holdings := by
    rw [follow_append, shadow_append, ← h.holdings]
    rfl
  calls := by
    rw [ownCalls_append]
    exact (List.append_nil (s.ownCalls es)).symm ▸ h.calls

/-- What others do while a grant is held does not touch it. -/
theorem Stays.other (h : Stays c g s es) {k : Call} (formed : k.Formed) (spares : k.Spares g) :
    Stays c g s (es ++ [.other k]) := by
  have happens := h.balanced.happens formed
  refine ⟨?_, ?_, ?_, ?_⟩
  · rw [follow_append]
    exact happens.balanced h.balanced
  · rw [follow_append]
    exact happens.holds h.balanced h.holds spares
  · rw [follow_append, shadow_append, ← h.holdings]
    exact happens.frame h.balanced h.holds spares
  · rw [ownCalls_append]
    exact (List.append_nil (s.ownCalls es)).symm ▸ h.calls

theorem Stays.foreign (h : Stays c g s es) (foreign : ∀ e ∈ es', e.Foreign)
    (spares : ∀ e ∈ es', e.Spares g) : Stays c g s (es ++ es') := by
  induction es' generalizing es with
  | nil => rwa [List.append_nil]
  | cons e es' ih =>
      obtain ⟨first, rest⟩ := List.forall_mem_cons.1 foreign
      obtain ⟨spare, spareRest⟩ := List.forall_mem_cons.1 spares
      rw [List.append_cons]
      cases e with
      | own k => exact first.elim
      | other k => exact ih (h.other first spare) rest spareRest
      | ended e => exact ih (h.ended e) rest spareRest

theorem Waits.declined_acquire (hs : s.Balanced) (formed : c.Formed)
    (called : (s.tryAcquire c).2 = .ok none) : Waits c s [.own (.acquire c)] := by
  have happens : Happens s (.acquire c) (s.tryAcquire c).1 (.acquired (s.tryAcquire c).2) :=
    hs.happens formed
  rw [called] at happens
  refine ⟨happens.balanced hs, happens.holdings, ?_⟩
  simp [ownCalls, call, called]

theorem Stays.granted_acquire (hs : s.Balanced) (formed : c.Formed)
    (called : (s.tryAcquire c).2 = .ok (some g)) : Stays c g s [.own (.acquire c)] := by
  have answer : s.tryAcquire c = ((s.tryAcquire c).1, .ok (some g)) := Prod.ext rfl called
  obtain ⟨seats, seating, table, rfl⟩ := hs.seats_of_grant formed.wellFormed answer
  obtain ⟨holds, holdings⟩ := hs.holds_granted seating
  refine ⟨?_, ?_, ?_, [], by simp, ?_⟩
  · exact (hs.tryAcquire formed.wellFormed)
  · change (s.tryAcquire c).1.Holds _
    rwa [table]
  · change ((s.tryAcquire c).1.returned _).holdings = _
    rwa [table]
  · simp [ownCalls, call, called]

/-! ### What a run leaves behind -/

/-- What a run asks of a scheduler: it asks for a class until that is granted, and hands the grant
back once. -/
inductive Tenancy (c : Class) : List (Call × Answer) → Prop where
  | idle : Tenancy c []
  | declined {calls : List (Call × Answer)} (rest : Tenancy c calls) :
      Tenancy c ((.acquire c, .acquired (.ok none)) :: calls)
  | released (g : Grant) : Tenancy c
      [(.acquire c, .acquired (.ok (some g))), (.release g, .settled (.ok ()))]
  | setAside (g : Grant) : Tenancy c
      [(.acquire c, .acquired (.ok (some g))), (.quarantine g, .settled (.ok ()))]

/-- The table holds what others have made of it. -/
structure Restores (c : Class) (s : Scheduler) (es : List RunEvent) : Prop where
  holdings : (s.follow es).holdings = s.shadow s.holdings es
  tenancy : Tenancy c (s.ownCalls es)

/-- The table holds what others have made of it and one grant more, that of the run, which is set
aside. -/
structure Forfeits (c : Class) (g : Grant) (s : Scheduler) (es : List RunEvent) : Prop where
  granted : (.acquire c, .acquired (.ok (some g))) ∈ s.ownCalls es
  tenancy : Tenancy c (s.ownCalls es)
  outstanding : (s.follow es).outstanding.Perm (g.entry :: (s.shadow s.holdings es).outstanding)
  free : (s.follow es).free = mark (s.shadow s.holdings es).free false g.threads
  freeCount : (s.follow es).freeCount + g.threads.length = (s.shadow s.holdings es).freeCount
  quarantined : (s.follow es).quarantined = (s.shadow s.holdings es).quarantined + 1

theorem Tenancy.of_declined {declined calls : List (Call × Answer)}
    (all : ∀ call ∈ declined, call = (.acquire c, .acquired (.ok none))) (rest : Tenancy c calls) :
    Tenancy c (declined ++ calls) := by
  induction declined with
  | nil => exact rest
  | cons call declined ih =>
      obtain ⟨rfl, others⟩ := List.forall_mem_cons.1 all
      exact .declined (ih others)

/-- A grant that is given back leaves nothing behind. -/
theorem Stays.release (h : Stays c g s es) : Restores c s (es ++ [.own (.release g)]) := by
  have accepted := h.balanced.release_known h.holds.own h.holds.known
  obtain ⟨declined, all, calls⟩ := h.calls
  constructor
  · rw [follow_append, shadow_append, ← h.holdings]
    change ((s.follow es).release g).1.holdings = _
    rw [accepted]
    rfl
  · rw [ownCalls_append, calls, List.append_assoc]
    have handed : (s.follow es).ownCalls [.own (.release g)] =
        [(.release g, .settled (.ok ()))] := by simp [ownCalls, call, accepted]
    rw [handed]
    exact .of_declined all (.released g)

/-- A grant that is set aside stays behind, and nothing else. -/
theorem Stays.quarantine (h : Stays c g s es) : Forfeits c g s (es ++ [.own (.quarantine g)]) := by
  have accepted := quarantine_known h.holds.own (by simp [h.holds.known])
  obtain ⟨declined, all, calls⟩ := h.calls
  have returns := h.balanced.returns h.holds.known
  have handed : (s.follow es).ownCalls [.own (.quarantine g)] =
      [(.quarantine g, .settled (.ok ()))] := by simp [ownCalls, call, accepted]
  have after : s.follow (es ++ [.own (.quarantine g)]) = (s.follow es).withheld := by
    rw [follow_append]
    exact congrArg Prod.fst accepted
  have shadow : s.shadow s.holdings (es ++ [.own (.quarantine g)]) =
      ((s.follow es).returned g).holdings := by
    rw [shadow_append, ← h.holdings]
    rfl
  refine ⟨?_, ?_, ?_, ?_, ?_, ?_⟩
  · rw [ownCalls_append, calls]
    simp
  · rw [ownCalls_append, calls, handed, List.append_assoc]
    exact .of_declined all (.setAside g)
  all_goals rw [after, shadow]
  · exact returns.outstanding
  · exact (mark_mark _ false (fun _ => .rfl) returns.taken).symm
  · rfl
  · rfl

end Litmus
