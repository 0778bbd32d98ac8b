import Litmus.Proofs.Outcome
import Litmus.Proofs.Tally.Laws
import Litmus.Runner.Basic

/-!
Gradings of what was observed. What a grading says depends on how often each outcome was observed
and on nothing else, so the observations may be kept in any parts; the verdict on them is the worst
of the verdicts on the parts.
-/
namespace Litmus

namespace Verdict

/-- The worse a verdict, the higher its rank. -/
def rank : Verdict → Nat
  | .passed => 0
  | .interesting => 1
  | .failed => 2

theorem rank_injective : Function.Injective rank := by
  intro v w
  cases v <;> cases w <;> simp [rank]

instance : LinearOrder Verdict := LinearOrder.lift' rank rank_injective

theorem passed_le (v : Verdict) : .passed ≤ v := Nat.zero_le v.rank

theorem le_failed (v : Verdict) : v ≤ .failed := by
  cases v <;> decide

end Verdict

/-- The verdict that an outcome calls for when it is seen. -/
def Expect.verdict : Expect → Verdict
  | .acceptable => .passed
  | .interesting => .interesting
  | .forbidden => .failed

namespace Grading

theorem saw_eq_true {details : List Detail} {expect : Expect} :
    saw details expect = true ↔ ∃ d ∈ details, d.expect = expect ∧ 0 < d.count := by
  simp [saw]

/-- The verdict of a run that ended well is the worst that its outcomes call for. -/
theorem verdictOf_le_iff {details : List Detail} {v : Verdict} :
    verdictOf .normal details ≤ v ↔ ∀ d ∈ details, 0 < d.count → d.expect.verdict ≤ v := by
  unfold verdictOf
  by_cases forbidden : saw details .forbidden = true
  · obtain ⟨d, mem, expect, seen⟩ := saw_eq_true.1 forbidden
    rw [if_pos (by simp [forbidden])]
    refine ⟨fun worst _ _ _ => (Verdict.le_failed _).trans worst, fun all => ?_⟩
    simpa [expect, Expect.verdict] using all d mem seen
  · rw [if_neg (by simp [forbidden])]
    by_cases interesting : saw details .interesting = true
    · obtain ⟨d, mem, expect, seen⟩ := saw_eq_true.1 interesting
      rw [if_pos interesting]
      refine ⟨fun worst d' mem' seen' => le_trans ?_ worst, fun all => ?_⟩
      · cases expect' : d'.expect with
        | acceptable => exact Verdict.passed_le _
        | interesting => exact le_refl _
        | forbidden => exact absurd (saw_eq_true.2 ⟨d', mem', expect', seen'⟩) forbidden
      · simpa [expect, Expect.verdict] using all d mem seen
    · rw [if_neg interesting]
      refine ⟨fun _ d mem seen => ?_, fun _ => Verdict.passed_le v⟩
      cases expect : d.expect with
      | acceptable => exact Verdict.passed_le v
      | interesting => exact absurd (saw_eq_true.2 ⟨d, mem, expect, seen⟩) interesting
      | forbidden => exact absurd (saw_eq_true.2 ⟨d, mem, expect, seen⟩) forbidden

/-- The texts of the outcomes that a grading lists. -/
def texts (g : Grading) : List String := g.details.map Detail.outcome

/-- How often an outcome was seen, by its text. -/
def countOf (g : Grading) (text : String) : Nat :=
  (g.details.find? fun d => d.outcome = text).elim 0 Detail.count

/-- A grading of what two other ones are about. -/
structure Combines (left right whole : Grading) : Prop where
  verdict : whole.verdict = max left.verdict right.verdict
  once : whole.texts.Nodup
  texts : ∀ text, text ∈ whole.texts ↔ text ∈ left.texts ∨ text ∈ right.texts
  counts : ∀ d ∈ whole.details, d.count = left.countOf d.outcome + right.countOf d.outcome
  judgements : ∀ d ∈ whole.details, ∀ e ∈ left.details ++ right.details,
    e.outcome = d.outcome → e.expect = d.expect

end Grading

namespace StressTest

open Runner

variable {ω σ : Type} {t : StressTest ω σ} {x y a b m : Tally Outcome} {o : Outcome} {d : Detail}

/-- The grading of what was observed, when a run ends well. -/
def gradingOf (t : StressTest ω σ) (x : Tally Outcome) : Grading :=
  grade .normal (render x) t.judge

theorem perm_sorted (x : Tally Outcome) : (x.sorted Outcome.precedes).Perm x.entries :=
  List.mergeSort_perm ..

theorem mem_render_iff (h : x.WellFormed) {text : String} {n : Nat} :
    (text, n) ∈ render x ↔ ∃ o, o.render = text ∧ 0 < n ∧ x.count o = n := by
  simp only [render, List.mem_map, (perm_sorted x).mem_iff, Prod.exists, h.mem_entries_iff,
    Prod.mk.injEq]
  constructor
  · rintro ⟨o, m, seen, rfl, rfl⟩
    exact ⟨o, rfl, seen⟩
  · rintro ⟨o, rfl, seen⟩
    exact ⟨o, n, seen, rfl, rfl⟩

/-- What a report lists stands under different texts. -/
theorem nodup_render (h : x.WellFormed) : ((render x).map (·.1)).Nodup := by
  have once := h.distinct.map Outcome.render_injective
  rw [List.map_map] at once
  rw [render, List.map_map]
  exact ((perm_sorted x).map _).nodup_iff.2 once

theorem mem_details_iff (h : x.WellFormed) : d ∈ (t.gradingOf x).details ↔
    ∃ o, 0 < x.count o ∧ d = ⟨o.render, x.count o, t.judge o.render⟩ := by
  simp only [gradingOf, grade, List.mem_map, Prod.exists, mem_render_iff h]
  constructor
  · rintro ⟨_, n, ⟨o, rfl, seen, rfl⟩, rfl⟩
    exact ⟨o, seen, rfl⟩
  · rintro ⟨o, seen, rfl⟩
    exact ⟨_, _, ⟨o, rfl, seen, rfl⟩, rfl⟩

theorem verdict_le_iff (h : x.WellFormed) {v : Verdict} : (t.gradingOf x).verdict ≤ v ↔
    ∀ o, 0 < x.count o → (t.judge o.render).verdict ≤ v := by
  refine Grading.verdictOf_le_iff.trans ⟨fun all o seen => ?_, fun all d mem _ => ?_⟩
  · exact all _ ((mem_details_iff h).2 ⟨o, seen, rfl⟩) seen
  · obtain ⟨o, seen, rfl⟩ := (mem_details_iff h).1 mem
    exact all o seen

theorem nodup_texts (h : x.WellFormed) : (t.gradingOf x).texts.Nodup := by
  have texts : (t.gradingOf x).texts = (render x).map (·.1) := by
    simp [Grading.texts, gradingOf, grade]
  exact texts ▸ nodup_render h

theorem mem_texts_iff (h : x.WellFormed) {text : String} : text ∈ (t.gradingOf x).texts ↔
    ∃ o, 0 < x.count o ∧ o.render = text := by
  simp only [Grading.texts, List.mem_map, mem_details_iff h]
  constructor
  · rintro ⟨_, ⟨o, seen, rfl⟩, rfl⟩
    exact ⟨o, seen, rfl⟩
  · rintro ⟨o, seen, rfl⟩
    exact ⟨_, ⟨o, seen, rfl⟩, rfl⟩

/-- No two outcomes have one text, so what is listed under a text is one outcome's count. -/
theorem countOf_render (h : x.WellFormed) (o : Outcome) :
    (t.gradingOf x).countOf o.render = x.count o := by
  unfold Grading.countOf
  cases found : (t.gradingOf x).details.find? fun d => d.outcome = o.render with
  | none =>
      have absent : o.render ∉ (t.gradingOf x).texts := by
        simpa [Grading.texts] using found
      refine (Nat.eq_zero_of_not_pos fun seen => absent ?_).symm
      exact (mem_texts_iff h).2 ⟨o, seen, rfl⟩
  | some d =>
      obtain ⟨o', seen, rfl⟩ := (mem_details_iff h).1 (List.mem_of_find?_eq_some found)
      have same : o'.render = o.render := by simpa using List.find?_some found
      exact congrArg x.count (Outcome.render_injective same)

theorem combines (ha : a.WellFormed) (hb : b.WellFormed) (hm : m.WellFormed)
    (counts : ∀ o, m.count o = a.count o + b.count o) :
    Grading.Combines (t.gradingOf a) (t.gradingOf b) (t.gradingOf m) where
  verdict := by
    refine eq_of_forall_ge_iff fun v => ?_
    rw [max_le_iff, verdict_le_iff ha, verdict_le_iff hb, verdict_le_iff hm, ← forall_and]
    refine forall_congr' fun o => ?_
    rw [← or_imp, counts, Nat.add_pos_iff_pos_or_pos]
  once := nodup_texts hm
  texts text := by
    simp only [mem_texts_iff ha, mem_texts_iff hb, mem_texts_iff hm, counts,
      Nat.add_pos_iff_pos_or_pos, or_and_right, exists_or]
  counts d mem := by
    obtain ⟨o, -, rfl⟩ := (mem_details_iff hm).1 mem
    exact (counts o).trans (by rw [countOf_render ha, countOf_render hb])
  judgements d mem e mem' same := by
    obtain ⟨o, -, rfl⟩ := (mem_details_iff hm).1 mem
    rcases List.mem_append.1 mem' with mem' | mem'
    · obtain ⟨o', -, rfl⟩ := (mem_details_iff ha).1 mem'
      exact congrArg t.judge same
    · obtain ⟨o', -, rfl⟩ := (mem_details_iff hb).1 mem'
      exact congrArg t.judge same

theorem pairwise_sorted (x : Tally Outcome) :
    (x.sorted Outcome.precedes).Pairwise fun e₁ e₂ => e₁.1.precedes e₂.1 = true := by
  have trans (e₁ e₂ e₃ : Outcome × Nat) : e₁.1.precedes e₂.1 = true →
      e₂.1.precedes e₃.1 = true → e₁.1.precedes e₃.1 = true := Outcome.precedes_trans
  have total (e₁ e₂ : Outcome × Nat) : (e₁.1.precedes e₂.1 || e₂.1.precedes e₁.1) = true :=
    Outcome.precedes_total _ _
  exact List.pairwise_mergeSort trans total x.entries

/-- Tallies with the same entries are sorted alike, since the order of outcomes is total. -/
theorem sorted_congr (h : x.WellFormed) (order : x.entries.Perm y.entries) :
    x.sorted Outcome.precedes = y.sorted Outcome.precedes := by
  refine List.Perm.eq_of_pairwise (fun e e' mem mem' before after => ?_) (pairwise_sorted x)
    (pairwise_sorted y) ((perm_sorted x).trans (order.trans (perm_sorted y).symm))
  have inX := (perm_sorted x).mem_iff.1 mem
  have inY := order.mem_iff.2 ((perm_sorted y).mem_iff.1 mem')
  exact List.inj_on_of_nodup_map h.distinct inX inY (Outcome.precedes_antisymm before after)

theorem gradingOf_congr (hx : x.WellFormed) (hy : y.WellFormed)
    (alike : ∀ o, x.count o = y.count o) : t.gradingOf x = t.gradingOf y := by
  rw [gradingOf, gradingOf, render, render, sorted_congr hx ((hx.perm_iff hy).2 alike)]

theorem verdict_mono (hx : x.WellFormed) (hy : y.WellFormed)
    (more : ∀ o, 0 < x.count o → 0 < y.count o) :
    (t.gradingOf x).verdict ≤ (t.gradingOf y).verdict :=
  (verdict_le_iff hx).2 fun o seen => (verdict_le_iff hy).1 (le_refl _) o (more o seen)

/-- What the grading of a run says does not depend on how its observations are kept: put together,
two tallies are graded by the worse of their verdicts and the sums of their counts. So a tally is
graded alike in whatever order and in whatever parts its observations were counted, and further
observations never make a verdict better. -/
theorem verdict_of_merged (t : StressTest ω σ) :
    (∀ a b m : Tally Outcome, a.Reachable → b.Reachable → a.merge b = .ok m →
      Grading.Combines (t.gradingOf a) (t.gradingOf b) (t.gradingOf m)) ∧
    t.gradingOf .empty = ⟨.passed, []⟩ ∧
    (∀ (obs obs' : List Outcome) (x y : Tally Outcome), x.Gathers obs → y.Gathers obs' →
      (obs.Perm obs' → t.gradingOf x = t.gradingOf y) ∧
      (obs ⊆ obs' → (t.gradingOf x).verdict ≤ (t.gradingOf y).verdict)) := by
  refine ⟨fun a b m ha hb made => ?_, ?_, fun obs obs' x y hx hy => ?_⟩
  · obtain ⟨_, ha⟩ := ha
    obtain ⟨_, hb⟩ := hb
    obtain ⟨hm, counts⟩ := (made ▸ Tally.yields_merge ha.counts.1 hb.counts.1).of_ok
    exact combines ha.counts.1 hb.counts.1 hm counts
  · rw [gradingOf, render, Tally.sorted, Tally.empty, List.mergeSort_nil]
    rfl
  · obtain ⟨wellX, countsX⟩ := hx.counts
    obtain ⟨wellY, countsY⟩ := hy.counts
    refine ⟨fun order => gradingOf_congr wellX wellY fun o => ?_,
      fun more => verdict_mono wellX wellY fun o => ?_⟩
    · rw [countsX, countsY, order.count_eq]
    · rw [countsX, countsY, List.count_pos_iff, List.count_pos_iff]
      exact fun seen => more seen

/-- A test that names one outcome twice; only the first time counts. -/
def gradedTest : StressTest Unit Unit :=
  { name := "graded"
    actors := []
    fresh := fun w => (w, .ok ())
    slots := 2
    pairBytes := 8
    expectations := [⟨"0, -1", .interesting, ""⟩, ⟨"0, -1", .acceptable, ""⟩]
    otherwise := .acceptable }

theorem verdict_of_merged_graded : ∃ a b m : Tally Outcome,
    Tally.ofList [⟨[0, 0]⟩, ⟨[0, -1]⟩] = .ok a ∧ Tally.ofList [⟨[0, 0]⟩] = .ok b ∧
      b.merge a = .ok m ∧ (gradedTest.gradingOf b).verdict = .passed ∧
        (gradedTest.gradingOf m).verdict = .interesting := by
  have madeA : Tally.ofList [⟨[0, 0]⟩, ⟨[0, -1]⟩] =
      .ok (⟨[(⟨[0, 0]⟩, 1), (⟨[0, -1]⟩, 1)]⟩ : Tally Outcome) := rfl
  have madeB : Tally.ofList [⟨[0, 0]⟩] = .ok (⟨[(⟨[0, 0]⟩, 1)]⟩ : Tally Outcome) := rfl
  have merged : Tally.merge ⟨[(⟨[0, 0]⟩, 1)]⟩ ⟨[(⟨[0, 0]⟩, 1), (⟨[0, -1]⟩, 1)]⟩ =
      .ok (⟨[(⟨[0, 0]⟩, 2), (⟨[0, -1]⟩, 1)]⟩ : Tally Outcome) := rfl
  have combines := (verdict_of_merged gradedTest).1 _ _ _ ⟨_, .ofList madeB⟩ ⟨_, .ofList madeA⟩
    merged
  have passed : (gradedTest.gradingOf ⟨[(⟨[0, 0]⟩, 1)]⟩).verdict = .passed := by cbv
  have interesting : (gradedTest.gradingOf ⟨[(⟨[0, 0]⟩, 1), (⟨[0, -1]⟩, 1)]⟩).verdict =
      .interesting := by cbv
  refine ⟨_, _, _, madeA, madeB, merged, passed, ?_⟩
  rw [combines.verdict, passed, interesting]
  rfl

end StressTest
end Litmus
