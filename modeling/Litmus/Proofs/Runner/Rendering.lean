import Litmus.Proofs.Runner.Grading

/-!
Reports of what was observed. A report lists each outcome that was seen once, in the order of its
values, and no two outcomes under one text; so what is expected of a text is expected of one
outcome.
-/
namespace Litmus

/-- A report of outcomes of which each was seen a number of times. -/
structure Renders (seen : Outcome → Nat) (states : List (String × Nat)) : Prop where
  listed : ∀ text n, (text, n) ∈ states ↔ ∃ o, o.render = text ∧ 0 < n ∧ seen o = n
  distinct : (states.map (·.1)).Nodup
  ascending : states.Pairwise fun a b =>
    ∀ o o' : Outcome, o.render = a.1 → o'.render = b.1 → o.values < o'.values

namespace Outcome

theorem values_lt {a b : Outcome} (before : a.precedes b = true) (differ : a ≠ b) :
    a.values < b.values :=
  List.not_le.1 fun after => differ (precedes_antisymm before (valuesPrecede_iff.2 after))

end Outcome

namespace Tally

open Runner

variable {x : Tally Outcome}

theorem WellFormed.ascending (h : x.WellFormed) :
    (x.sorted Outcome.precedes).Pairwise fun a b => a.1.values < b.1.values := by
  have distinct : ((x.sorted Outcome.precedes).map (·.1)).Nodup :=
    ((StressTest.perm_sorted x).map _).nodup_iff.2 h.distinct
  exact ((StressTest.pairwise_sorted x).and (List.pairwise_map.1 distinct)).imp
    fun ⟨before, differ⟩ => Outcome.values_lt before differ

theorem WellFormed.renders (h : x.WellFormed) : Renders x.count (render x) where
  listed _ _ := StressTest.mem_render_iff h
  distinct := StressTest.nodup_render h
  ascending := List.pairwise_map.2 <| h.ascending.imp fun before o o' first second => by
    rwa [Outcome.render_injective first, Outcome.render_injective second]

theorem sum_render (x : Tally Outcome) : Word.sum ((render x).map (·.2)) = x.total := by
  rw [render, List.map_map]
  exact total_congr (a := ⟨x.sorted Outcome.precedes⟩) (StressTest.perm_sorted x)

end Tally

namespace StressTest

variable {ω σ : Type}

/-- A test of which one more outcome is expected, before all others. -/
def expecting (t : StressTest ω σ) (o : Outcome) (expect : Expect) (description : String) :
    StressTest ω σ :=
  { t with expectations := ⟨o.render, expect, description⟩ :: t.expectations }

/-- What is expected of the text of an outcome is expected of that outcome alone. -/
theorem judge_expecting (t : StressTest ω σ) (o o' : Outcome) (expect : Expect)
    (description : String) :
    (t.expecting o expect description).judge o'.render =
      if o' = o then expect else t.judge o'.render := by
  by_cases same : o' = o
  · simp [judge, expecting, same]
  · have texts : o.render ≠ o'.render := fun equal => same (Outcome.render_injective equal).symm
    simp [judge, expecting, same, texts]

/-- A tally that can be made is reported with each outcome that was seen, once, in strictly
ascending order and under a text of its own, and with counts that sum to its total. No two outcomes
have one text, so an expectation decides on one outcome and on no other. -/
theorem render_faithful (t : StressTest ω σ) {x : Tally Outcome} (reachable : x.Reachable) :
    Function.Injective Outcome.render ∧
      Renders x.count (Runner.render x) ∧
      Word.sum ((Runner.render x).map (·.2)) = x.total ∧
      (∀ e ∈ t.expectations, ∀ o o' : Outcome,
        e.outcome = o.render → e.outcome = o'.render → o = o') ∧
      ∀ (o o' : Outcome) (expect : Expect) (description : String),
        (t.expecting o expect description).judge o'.render =
          if o' = o then expect else t.judge o'.render := by
  obtain ⟨obs, gathers⟩ := reachable
  refine ⟨Outcome.render_injective, gathers.counts.1.renders, x.sum_render,
    fun e _ o o' first second => ?_, t.judge_expecting⟩
  exact Outcome.render_injective (first.symm.trans second)

theorem render_faithful_graded :
    (⟨[(⟨[0, 0]⟩, 2), (⟨[0, -1]⟩, 1)]⟩ : Tally Outcome).Reachable ∧
      ("0, -1", 1) ∈ Runner.render ⟨[(⟨[0, 0]⟩, 2), (⟨[0, -1]⟩, 1)]⟩ ∧
      (gradedTest.expecting ⟨[0, 0]⟩ .forbidden "").judge "0, -1" = .interesting := by
  have made : Tally.ofList [⟨[0, 0]⟩, ⟨[0, -1]⟩, ⟨[0, 0]⟩] =
      .ok (⟨[(⟨[0, 0]⟩, 2), (⟨[0, -1]⟩, 1)]⟩ : Tally Outcome) := rfl
  have reachable : (⟨[(⟨[0, 0]⟩, 2), (⟨[0, -1]⟩, 1)]⟩ : Tally Outcome).Reachable :=
    ⟨_, .ofList made⟩
  obtain ⟨-, renders, -, -, judged⟩ := render_faithful gradedTest reachable
  have text : (⟨[0, -1]⟩ : Outcome).render = "0, -1" := by cbv
  refine ⟨reachable, (renders.listed _ _).2 ⟨⟨[0, -1]⟩, text, by decide, rfl⟩, ?_⟩
  rw [← text, judged, if_neg (by decide)]
  cbv

end StressTest
end Litmus
