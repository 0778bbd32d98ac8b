import Litmus.Proofs.Scheduler.Exactness

/-!
Sessions: any calls one after the other, with grants that may be stale, forged or foreign. After
each call every owned thread is free or held by one grant, and no other thread is either; so an
audit finds nothing, and a session answers in debug mode as it does without.
-/
namespace Litmus.Scheduler

open Placement

inductive Call where
  | acquire (c : Class)
  | release (g : Grant)
  | quarantine (g : Grant)
deriving DecidableEq

/-- The classes that are asked for are classes; the grants that are handed back may be anything. -/
def Call.Formed : Call → Prop
  | .acquire c => c.Formed
  | .release _ | .quarantine _ => True

inductive Answer where
  | acquired (result : Except Refusal (Option Grant))
  | settled (result : Except Refusal Unit)

def Answer.refusal? : Answer → Option Refusal
  | .acquired (.error e) | .settled (.error e) => some e
  | .acquired (.ok _) | .settled (.ok _) => none

def call (s : Scheduler) : Call → Scheduler × Answer
  | .acquire c => ((s.tryAcquire c).1, .acquired (s.tryAcquire c).2)
  | .release g => ((s.release g).1, .settled (s.release g).2)
  | .quarantine g => ((s.quarantine g).1, .settled (s.quarantine g).2)

/-- The table after some calls, and their answers; a refused call does not end the session. -/
def session (s : Scheduler) : List Call → Scheduler × List Answer
  | [] => (s, [])
  | k :: ks =>
      let (next, answer) := s.call k
      let (last, answers) := next.session ks
      (last, answer :: answers)

variable {s s' : Scheduler} {k : Call} {ks : List Call} {a : Answer}

theorem session_cons (s : Scheduler) (k : Call) (ks : List Call) : s.session (k :: ks) =
    (((s.call k).1.session ks).1, (s.call k).2 :: ((s.call k).1.session ks).2) :=
  rfl

/-! ### One call -/

/-- All that a call of a balanced table can do. -/
inductive Happens (s : Scheduler) : Call → Scheduler → Answer → Prop where
  | declined {c : Class} {s' : Scheduler}
      (stuck : find s.topology s.free (Shape.ofClass c) = none)
      (table : s' = s ∨ s' = s.cachedFor c) :
      Happens s (.acquire c) s' (.acquired (.ok none))
  | granted {c : Class} {seats : List Nat} (seating : Seating s.topology s.free c seats) :
      Happens s (.acquire c) (s.granted c seats) (.acquired (.ok (some (s.nextGrant c seats))))
  | returned {g : Grant} (own : g.issuer = s.id)
      (known : s.outstanding.lookup g.ticket = some g.threads) :
      Happens s (.release g) (s.returned g) (.settled (.ok ()))
  | notReturned {g : Grant}
      (unknown : ¬ (g.issuer = s.id ∧ s.outstanding.lookup g.ticket = some g.threads)) :
      Happens s (.release g) s (.settled (.error (s.releaseFault g)))
  | withheld {g : Grant} (own : g.issuer = s.id)
      (known : (s.outstanding.lookup g.ticket).isSome) :
      Happens s (.quarantine g) s.withheld (.settled (.ok ()))
  | notWithheld {g : Grant}
      (unknown : ¬ (g.issuer = s.id ∧ (s.outstanding.lookup g.ticket).isSome)) :
      Happens s (.quarantine g) s (.settled (.error (s.quarantineFault g)))

theorem Balanced.happens (h : s.Balanced) (formed : k.Formed) :
    Happens s k (s.call k).1 (s.call k).2 := by
  cases k with
  | acquire c =>
      change Happens s _ (s.tryAcquire c).1 (.acquired (s.tryAcquire c).2)
      cases found : find s.topology s.free (Shape.ofClass c) with
      | none =>
          rcases h.tryAcquire_none found with heq | heq
          · rw [heq]
            exact .declined found (.inl rfl)
          · rw [heq]
            exact .declined found (.inr rfl)
      | some seats =>
          rw [h.tryAcquire_some formed.wellFormed found]
          exact .granted (seating_of_find h.machine formed.wellFormed found)
  | release g =>
      change Happens s _ (s.release g).1 (.settled (s.release g).2)
      by_cases hknown : g.issuer = s.id ∧ s.outstanding.lookup g.ticket = some g.threads
      · rw [h.release_known hknown.1 hknown.2]
        exact .returned hknown.1 hknown.2
      · rw [release_unknown hknown]
        exact .notReturned hknown
  | quarantine g =>
      change Happens s _ (s.quarantine g).1 (.settled (s.quarantine g).2)
      by_cases hknown : g.issuer = s.id ∧ (s.outstanding.lookup g.ticket).isSome
      · rw [quarantine_known hknown.1 hknown.2]
        exact .withheld hknown.1 hknown.2
      · rw [quarantine_unknown hknown]
        exact .notWithheld hknown

/-- What no call changes. -/
structure Fixed (s s' : Scheduler) : Prop where
  id : s'.id = s.id
  topology : s'.topology = s.topology
  owned : s'.owned = s.owned

namespace Fixed

theorem refl (s : Scheduler) : Fixed s s := ⟨rfl, rfl, rfl⟩

theorem trans {s'' : Scheduler} (h : Fixed s s') (h' : Fixed s' s'') : Fixed s s'' :=
  ⟨h'.id.trans h.id, h'.topology.trans h.topology, h'.owned.trans h.owned⟩

end Fixed

namespace Happens

theorem fixed (h : Happens s k s' a) : Fixed s s' := by
  cases h with
  | declined _ table => rcases table with rfl | rfl <;> exact ⟨rfl, rfl, rfl⟩
  | granted | returned | withheld => exact ⟨rfl, rfl, rfl⟩
  | notReturned | notWithheld => exact Fixed.refl s

theorem balanced (h : Happens s k s' a) (hs : s.Balanced) : s'.Balanced := by
  cases h with
  | declined _ table =>
      rcases table with rfl | rfl
      · exact hs
      · exact hs.cachedFor _
  | granted seating => exact hs.granted seating
  | returned _ known => exact hs.returned known
  | withheld => exact { hs with }
  | notReturned | notWithheld => exact hs

theorem quiet (h : Happens s k s' a) (e : Imbalance) : a.refusal? ≠ some (.imbalance e) := by
  cases h with
  | declined | granted | returned | withheld => simp [Answer.refusal?]
  | notReturned =>
      simp only [Answer.refusal?, releaseFault]
      split
      · simp
      · split <;> simp
  | notWithheld =>
      simp only [Answer.refusal?, quarantineFault]
      split <;> simp

theorem mem_held_of_grant {g : Grant} (h : Happens s k s' (.acquired (.ok (some g)))) {x : Nat}
    (hx : x ∈ g.threads) : x ∈ s'.held := by
  cases h with
  | granted => exact List.mem_append_left _ hx

end Happens

/-! ### Debug mode -/

section Debug

variable {c : Class}

theorem Balanced.tryAcquire_enableDebug (h : s.Balanced) (hc : c.WellFormed) :
    s.enableDebug.tryAcquire c = ((s.tryAcquire c).1.enableDebug, (s.tryAcquire c).2) := by
  cases found : find s.topology s.free (Shape.ofClass c) with
  | some seats =>
      rw [h.tryAcquire_some hc found, h.enableDebug.tryAcquire_some hc found]
      rfl
  | none =>
      have found' : find s.enableDebug.topology s.enableDebug.free (Shape.ofClass c) = none := found
      rw [tryAcquire_eq, tryAcquire_eq, h.shapeFor_eq, h.enableDebug.shapeFor_eq, found, found']
      by_cases few : s.freeCount < c.size
      · rw [if_pos few, if_pos (show s.enableDebug.freeCount < c.size from few)]
      · rw [if_neg few, if_neg (show ¬ s.enableDebug.freeCount < c.size from few)]
        rfl

theorem Balanced.release_enableDebug (h : s.Balanced) (g : Grant) :
    s.enableDebug.release g = ((s.release g).1.enableDebug, (s.release g).2) := by
  by_cases hknown : g.issuer = s.id ∧ s.outstanding.lookup g.ticket = some g.threads
  · rw [h.release_known hknown.1 hknown.2, h.enableDebug.release_known hknown.1 hknown.2]
    rfl
  · rw [release_unknown hknown, release_unknown (s := s.enableDebug) hknown]
    rfl

theorem quarantine_enableDebug (s : Scheduler) (g : Grant) :
    s.enableDebug.quarantine g = ((s.quarantine g).1.enableDebug, (s.quarantine g).2) := by
  by_cases hknown : g.issuer = s.id ∧ (s.outstanding.lookup g.ticket).isSome
  · rw [quarantine_known hknown.1 hknown.2, quarantine_known (s := s.enableDebug) hknown.1 hknown.2]
    rfl
  · rw [quarantine_unknown hknown, quarantine_unknown (s := s.enableDebug) hknown]
    rfl

theorem Balanced.call_enableDebug (h : s.Balanced) (formed : k.Formed) :
    s.enableDebug.call k = ((s.call k).1.enableDebug, (s.call k).2) := by
  cases k with
  | acquire c => simp only [call, h.tryAcquire_enableDebug formed.wellFormed]
  | release g => simp only [call, h.release_enableDebug g]
  | quarantine g => simp only [call, quarantine_enableDebug s g]

theorem Balanced.session_enableDebug (h : s.Balanced) (formed : ∀ k ∈ ks, k.Formed) :
    s.enableDebug.session ks = ((s.session ks).1.enableDebug, (s.session ks).2) := by
  induction ks generalizing s with
  | nil => rfl
  | cons k ks ih =>
      obtain ⟨hk, hks⟩ := List.forall_mem_cons.1 formed
      have next := ih ((h.happens hk).balanced h) hks
      rw [session_cons, session_cons, h.call_enableDebug hk, next]

end Debug

/-! ### Whole sessions -/

/-- What a session leaves behind and what it answers. -/
structure Orderly (s : Scheduler) (ks : List Call) : Prop where
  balanced : (s.session ks).1.Balanced
  fixed : Fixed s (s.session ks).1
  quiet : ∀ a ∈ (s.session ks).2, ∀ e, a.refusal? ≠ some (.imbalance e)
  inside : ∀ g, .acquired (.ok (some g)) ∈ (s.session ks).2 → ∀ x ∈ g.threads, x ∈ s.owned

theorem Balanced.orderly (h : s.Balanced) (formed : ∀ k ∈ ks, k.Formed) : Orderly s ks := by
  induction ks generalizing s with
  | nil =>
      exact ⟨h, Fixed.refl s, by simp [session], by simp [session]⟩
  | cons k ks ih =>
      obtain ⟨hk, hks⟩ := List.forall_mem_cons.1 formed
      have first := h.happens hk
      have next := first.balanced h
      have rest := ih next hks
      refine ⟨rest.balanced, first.fixed.trans rest.fixed, ?_, fun g hg x hx => ?_⟩
      · rw [session_cons]
        exact List.forall_mem_cons.2 ⟨first.quiet, rest.quiet⟩
      · rw [← first.fixed.owned]
        rw [session_cons] at hg
        rcases List.mem_cons.1 hg with heq | hg
        · rw [← heq] at first
          exact next.conserved.mem_iff.1 (List.mem_append_right _ (first.mem_held_of_grant hx))
        · exact rest.inside g hg x hx

/-- A table that accounts for some threads: each of them is free or held by one grant, and no other
thread is. -/
structure AccountsFor (s : Scheduler) (owned : List Nat) : Prop where
  counted : s.freeCount = (freeThreads s.free).length
  ascending : ∀ e ∈ s.outstanding, e.2.Pairwise (· < ·)
  disjoint : s.outstanding.Pairwise fun e e' => e.2.Disjoint e'.2
  taken : ∀ e ∈ s.outstanding, ∀ x ∈ e.2, x ∉ freeThreads s.free
  complete : ∀ x, x ∈ owned ↔ x ∈ freeThreads s.free ∨ ∃ e ∈ s.outstanding, x ∈ e.2
  tickets : (s.outstanding.map (·.1)).Nodup
  issued : ∀ e ∈ s.outstanding, e.1 < s.nextTicket
  audited : s.audit = .ok ()

theorem Balanced.accountsFor (h : s.Balanced) : s.AccountsFor s.owned where
  counted := h.counted.trans (length_freeThreads _).symm
  ascending := h.ascending
  disjoint := (List.nodup_flatMap.1 h.nodup_held).2
  taken := fun e he x hx hfree =>
    List.disjoint_of_nodup_append h.nodup_accounts hfree (List.mem_flatMap.2 ⟨e, he, hx⟩)
  complete := fun x => by
    rw [← h.conserved.mem_iff, List.mem_append, held, List.mem_flatMap]
  tickets := h.tickets
  issued := h.issued
  audited := h.audit_eq_ok

/-- The audits of debug mode show in nothing that a session answers. -/
structure Transparent (s : Scheduler) (ks : List Call) : Prop where
  answers : (s.enableDebug.session ks).2 = (s.session ks).2
  table : (s.enableDebug.session ks).1 = (s.session ks).1.enableDebug
  quiet : ∀ a ∈ (s.enableDebug.session ks).2, ∀ e, a.refusal? ≠ some (.imbalance e)

theorem Balanced.transparent (h : s.Balanced) (formed : ∀ k ∈ ks, k.Formed) : Transparent s ks where
  answers := by rw [h.session_enableDebug formed]
  table := by rw [h.session_enableDebug formed]
  quiet := (h.enableDebug.orderly formed).quiet

theorem exists_start {t : Topology} (ht : t.WellFormed) {maxThreads : Nat} (room : 0 < maxThreads)
    (id : Nat) : ∃ s, start? id t maxThreads = some s ∧ s.Balanced ∧
      s.owned.length = min maxThreads t.totalThreads := by
  have started : start? id t maxThreads = some (fresh id t maxThreads) :=
    start?_eq_some.2 ⟨room, rfl⟩
  exact ⟨_, started, balanced_of_start ht started, ht.length_spreadOrder_min room⟩

/-- A scheduler that may own a thread starts, and after any calls each thread that it owns is free
or held by one grant; grants lie inside the owned threads, and debug mode changes no answer. -/
theorem session_accounts {t : Topology} (described : t.Described) {maxThreads : Nat}
    (room : 0 < maxThreads) (id : Nat) :
    ∃ s, start? id t maxThreads = some s ∧ s.owned.Nodup ∧
      s.owned.length = min maxThreads t.totalThreads ∧
      ∀ ks : List Call, (∀ k ∈ ks, k.Formed) →
        (s.session ks).1.AccountsFor s.owned ∧
        (∀ g, .acquired (.ok (some g)) ∈ (s.session ks).2 → ∀ x ∈ g.threads, x ∈ s.owned) ∧
        ∀ later : List Call, (∀ k ∈ later, k.Formed) → Transparent (s.session ks).1 later := by
  obtain ⟨s, started, h, size⟩ := exists_start described.wellFormed room id
  refine ⟨s, started, h.owned_nodup, size, fun ks formed => ?_⟩
  have orderly := h.orderly formed
  have accounts := orderly.balanced.accountsFor
  rw [orderly.fixed.owned] at accounts
  exact ⟨accounts, orderly.inside, fun later hlater => orderly.balanced.transparent hlater⟩

/-- The scheduler that owns two threads of the lopsided machine, one of each package. -/
def lopsidedPair : Scheduler :=
  { lopsidedIdle with owned := [0, 2], free := [true, false, true], freeCount := 2 }

/-- What it grants first to two roles that must lie apart. -/
def lopsidedGrant : Grant :=
  { issuer := 0, ticket := 0, shape := ⟨[0, 1], [0, 1]⟩, seats := [2, 0], threads := [0, 2] }

/-- A session in which that grant is given back twice before the next class is asked for. -/
def twiceReturned : List Call :=
  [.acquire lopsidedGrant.shape, .release lopsidedGrant, .release lopsidedGrant,
    .acquire ⟨[0], [0]⟩]

theorem session_accounts_lopsided :
    start? 0 lopsided 2 = some lopsidedPair ∧
      (lopsidedPair.session twiceReturned).1.outstanding = [(1, [0])] ∧
      (lopsidedPair.session twiceReturned).1.AccountsFor [0, 2] := by
  have described : lopsided.Described := .records lopsided.threads (by cbv)
  have pair : lopsidedGrant.shape.Formed := .made [5, 3] [2, 9] (by cbv)
  have one : (⟨[0], [0]⟩ : Class).Formed := .made [0] [0] (by cbv)
  have started : start? 0 lopsided 2 = some lopsidedPair := by cbv
  obtain ⟨s, hs, -, -, run⟩ := session_accounts described (by decide : 0 < 2) 0
  obtain rfl : lopsidedPair = s := Option.some.inj (started.symm.trans hs)
  refine ⟨started, by cbv, (run twiceReturned ?_).1⟩
  simp [twiceReturned, Call.Formed, pair, one]

end Litmus.Scheduler
