import Litmus.Proofs.Scheduler.Holdings

/-!
Grants that are set aside are so for good. Whatever calls follow, as long as every grant is handed
back at most once, a grant that was set aside stays listed, its threads never become free again, and
no later grant has any of them.
-/
namespace Litmus.Scheduler

open Placement

/-! ### Careful use -/

/-- A call hands back, if anything, a grant in hand, or by mistake one of another scheduler. -/
def Call.Allowed (id : Nat) (hand : List Grant) : Call → Prop
  | .acquire c => c.Formed
  | .release g | .quarantine g => g ∈ hand ∨ g.issuer ≠ id

/-- The grants in hand after a call that got an answer. -/
def Call.handAfter (hand : List Grant) : Call → Answer → List Grant
  | .acquire _, .acquired (.ok (some g)) => g :: hand
  | .acquire _, _ => hand
  | .release g, _ | .quarantine g, _ => hand.erase g

/-- Calls of which none hands back a grant that an earlier one has handed back. -/
def Careful (s : Scheduler) (hand : List Grant) : List Call → Prop
  | [] => True
  | k :: ks => k.Allowed s.id hand ∧ Careful (s.call k).1 (k.handAfter hand (s.call k).2) ks

/-- The grants of its own that a scheduler is told to set aside. -/
def setAside (id : Nat) (ks : List Call) : List Grant :=
  ks.filterMap fun
    | .quarantine g => if g.issuer = id then some g else none
    | .acquire _ | .release _ => none

variable {s s' : Scheduler} {hand kept : List Grant} {g : Grant} {k : Call} {ks : List Call}
  {a : Answer}

theorem setAside_cons (id : Nat) (k : Call) (ks : List Call) :
    setAside id (k :: ks) = setAside id [k] ++ setAside id ks :=
  List.filterMap_append (l := [k])

theorem Call.Allowed.formed {id : Nat} (h : k.Allowed id hand) : k.Formed := by
  cases k with
  | acquire => exact h
  | release | quarantine => trivial

theorem Custody.erase_foreign (h : Custody s hand kept) (foreign : g.issuer ≠ s.id) :
    hand.erase g = hand :=
  List.erase_of_not_mem fun mem => foreign (h.lists.own g (List.mem_append_left _ mem))

/-- An allowed call keeps custody, and adds what it sets aside to the grants set aside. -/
theorem Custody.call (h : Custody s hand kept) (allowed : k.Allowed s.id hand) :
    Custody (s.call k).1 (k.handAfter hand (s.call k).2)
      ((setAside s.id [k]).reverse ++ kept) := by
  cases k with
  | acquire c =>
      change Custody (s.tryAcquire c).1 (Call.handAfter hand _ (.acquired (s.tryAcquire c).2)) kept
      obtain ⟨result, called⟩ := h.balanced.tryAcquire_ok allowed
      rw [called]
      cases result with
      | none => exact h.declined allowed called
      | some g => exact h.granted allowed called
  | release g =>
      change Custody (s.release g).1 (hand.erase g) kept
      cases allowed with
      | inl held => exact h.released held
      | inr foreign =>
          rw [h.erase_foreign foreign]
          exact h.releasedElsewhere foreign
  | quarantine g =>
      change Custody (s.quarantine g).1 (hand.erase g) _
      cases allowed with
      | inl held =>
          have own := h.lists.own g (List.mem_append_left _ held)
          simpa [setAside, own] using h.quarantined held
      | inr foreign =>
          rw [h.erase_foreign foreign]
          simpa [setAside, foreign] using h.quarantinedElsewhere foreign

theorem Custody.session (h : Custody s hand kept) {before after : List Call}
    (careful : Careful s hand (before ++ after)) :
    ∃ hand', Custody (s.session before).1 hand' ((setAside s.id before).reverse ++ kept) ∧
      Careful (s.session before).1 hand' after := by
  induction before generalizing s hand kept with
  | nil => exact ⟨hand, h, careful⟩
  | cons k before ih =>
      obtain ⟨allowed, later⟩ := careful
      have next := h.call allowed
      have same : (s.call k).1.id = s.id := (h.balanced.happens allowed.formed).fixed.id
      obtain ⟨hand', custody, careful⟩ := ih next later
      rw [same] at custody
      rw [setAside_cons, List.reverse_append, List.append_assoc]
      exact ⟨hand', custody, careful⟩

/-! ### The counter -/

theorem quarantined_of_start {id maxThreads : Nat} {t : Topology}
    (h : start? id t maxThreads = some s) : s.quarantined = 0 := by
  obtain ⟨-, rfl⟩ := start?_eq_some.1 h
  rfl

theorem Happens.quarantined_eq (h : Happens s k s' a) (other : ∀ g, k ≠ .quarantine g) :
    s'.quarantined = s.quarantined := by
  cases h with
  | declined _ table => rcases table with rfl | rfl <;> rfl
  | granted | returned | notReturned => rfl
  | withheld | notWithheld => exact absurd rfl (other _)

/-- The counter counts the grants set aside. -/
theorem Custody.quarantined_eq (h : Custody s hand kept) : s.quarantined = kept.length := by
  induction h with
  | start _ started => exact quarantined_of_start started
  | enableDebug _ ih => exact ih
  | @granted s _ _ h c formed _ _ ih | @declined s _ _ h c formed _ ih =>
      have happens := h.balanced.happens (k := .acquire c) formed
      exact (happens.quarantined_eq fun _ => nofun).trans ih
  | @released s _ _ h g _ ih | @releasedElsewhere s _ _ h g _ ih =>
      have happens := h.balanced.happens (k := .release g) trivial
      exact (happens.quarantined_eq fun _ => nofun).trans ih
  | quarantined h held ih =>
      have own := h.lists.own _ (List.mem_append_left _ held)
      rw [quarantine_known own (by simp [h.lists.known h.balanced held])]
      exact congrArg (· + 1) ih
  | quarantinedElsewhere _ foreign ih => rwa [quarantine_unknown fun own => foreign own.1]

theorem Lists.length_le (h : Lists s hand kept) : kept.length ≤ s.outstanding.length := by
  rw [h.listed.length_eq, List.length_map, List.length_append]
  exact Nat.le_add_left _ _

/-! ### The threads -/

/-- After some more calls a grant is still listed, none of its threads is free, and none was granted
by these calls. -/
structure StaysOut (s : Scheduler) (g : Grant) (ks : List Call) : Prop where
  listed : (g.ticket, g.threads) ∈ (s.session ks).1.outstanding
  taken : ∀ x ∈ g.threads, isFree (s.session ks).1.free x = false
  apart : ∀ g', .acquired (.ok (some g')) ∈ (s.session ks).2 → g'.threads.Disjoint g.threads

theorem Custody.listed (h : Custody s hand kept) (mem : g ∈ kept) :
    (g.ticket, g.threads) ∈ s.outstanding :=
  h.lists.listed.mem_iff.2 (List.mem_map_of_mem (List.mem_append_right _ mem))

theorem Custody.taken (h : Custody s hand kept) (mem : g ∈ kept) {x : Nat} (hx : x ∈ g.threads) :
    isFree s.free x = false :=
  h.balanced.not_free_of_held (List.mem_flatMap.2 ⟨_, h.listed mem, hx⟩)

theorem Happens.free_of_grant {g : Grant} (h : Happens s k s' (.acquired (.ok (some g)))) {x : Nat}
    (hx : x ∈ g.threads) : isFree s.free x = true := by
  cases h with
  | granted seating => exact seating.free x (mem_nextGrant_threads.1 hx)

theorem Custody.staysOut (h : Custody s hand kept) (careful : Careful s hand ks) (mem : g ∈ kept) :
    StaysOut s g ks := by
  induction ks generalizing s hand kept with
  | nil => exact ⟨h.listed mem, fun x hx => h.taken mem hx, by simp [Scheduler.session]⟩
  | cons k ks ih =>
      obtain ⟨allowed, later⟩ := careful
      have happens := h.balanced.happens allowed.formed
      have rest := ih (h.call allowed) later (List.mem_append_right _ mem)
      refine ⟨rest.listed, rest.taken, fun g' granted => ?_⟩
      rw [session_cons] at granted
      rcases List.mem_cons.1 granted with now | afterwards
      · rw [← now] at happens
        intro x hx hx'
        have free := happens.free_of_grant hx
        rw [h.taken mem hx'] at free
        exact Bool.noConfusion free
      · exact rest.apart g' afterwards

/-- What holds of the grants set aside after some careful calls, whether they were set aside before
or by one of the calls. -/
structure ForGood (s : Scheduler) (kept : List Grant) (ks : List Call) : Prop where
  counted : (s.session ks).1.quarantined = kept.length + (setAside s.id ks).length
  bounded : (s.session ks).1.quarantined ≤ (s.session ks).1.outstanding.length
  goesOn : ∃ hand, Custody (s.session ks).1 hand ((setAside s.id ks).reverse ++ kept)
  before : ∀ g ∈ kept, StaysOut s g ks
  during : ∀ earlier g later, ks = earlier ++ .quarantine g :: later → g.issuer = s.id →
    StaysOut (s.session (earlier ++ [.quarantine g])).1 g later

/-- A grant that is set aside stays so whatever careful calls follow: it is counted and listed, and
its threads are neither free nor granted again. -/
theorem quarantine_permanent (custody : Custody s hand kept) (careful : Careful s hand ks) :
    ForGood s kept ks := by
  have whole : Careful s hand (ks ++ []) := (List.append_nil ks).symm ▸ careful
  obtain ⟨last, atEnd, -⟩ := custody.session whole
  refine ⟨?_, ?_, ⟨last, atEnd⟩, fun g mem => custody.staysOut careful mem, ?_⟩
  · rw [atEnd.quarantined_eq, List.length_append, List.length_reverse, Nat.add_comm]
  · exact atEnd.quarantined_eq ▸ atEnd.lists.length_le
  · rintro earlier g later rfl own
    rw [List.append_cons] at careful
    obtain ⟨hand', aside, careful⟩ := custody.session careful
    refine aside.staysOut careful (List.mem_append_left _ ?_)
    simp [setAside, own]

/-- A session on the lopsided machine in which two of its threads are set aside, and after that a
grant of another scheduler by mistake; the third thread is granted and returned. -/
def asideSession : List Call :=
  [.acquire lopsidedGrant.shape, .quarantine lopsidedGrant,
    .acquire ⟨[0], [0]⟩, .quarantine { lopsidedGrant with issuer := 1 },
    .release ⟨0, 1, ⟨[0], [0]⟩, [1], [1]⟩, .acquire ⟨[0], [0]⟩]

theorem quarantine_permanent_lopsided :
    Careful lopsidedIdle [] asideSession ∧
      (lopsidedIdle.session asideSession).1.quarantined = 1 ∧
      (lopsidedIdle.session asideSession).1.outstanding = [(2, [1]), (0, [0, 2])] ∧
      StaysOut (lopsidedIdle.session (asideSession.take 2)).1 lopsidedGrant
        (asideSession.drop 2) := by
  have described : lopsided.Described := .records lopsided.threads (by cbv)
  have started : start? 0 lopsided 3 = some lopsidedIdle := by cbv
  have pair : lopsidedGrant.shape.Formed := .made [5, 3] [2, 9] (by cbv)
  have one : (⟨[0], [0]⟩ : Class).Formed := .made [0] [0] (by cbv)
  have careful : Careful lopsidedIdle [] asideSession :=
    ⟨pair, .inl (by cbv; exact .head _), one, .inr (by cbv), .inl (by cbv; exact .head _), one,
      trivial⟩
  have kept : ForGood lopsidedIdle [] asideSession :=
    quarantine_permanent (.start described started) careful
  exact ⟨careful, kept.counted.trans (by cbv), by cbv,
    kept.during [.acquire lopsidedGrant.shape] lopsidedGrant _ rfl rfl⟩

end Litmus.Scheduler
