import Litmus.Outcome
import Litmus.Proofs.Text.Listed

/-!
Outcomes in reports: their order is that of lists of numbers, and no two outcomes have one text.
-/
namespace Litmus

namespace Outcome

theorem valuesPrecede_iff {as bs : List Int64} : valuesPrecede as bs = true ↔ as ≤ bs := by
  induction as generalizing bs with
  | nil => simp [valuesPrecede]
  | cons a as ih =>
      cases bs with
      | nil => simp [valuesPrecede]
      | cons b bs => simp [valuesPrecede, List.cons_le_cons_iff, ih]

variable {a b c : Outcome}

theorem precedes_trans (h : a.precedes b = true) (h' : b.precedes c = true) :
    a.precedes c = true :=
  valuesPrecede_iff.2 (List.le_trans (valuesPrecede_iff.1 h) (valuesPrecede_iff.1 h'))

theorem precedes_total (a b : Outcome) : (a.precedes b || b.precedes a) = true := by
  rw [Bool.or_eq_true]
  exact (List.le_total a.values b.values).imp valuesPrecede_iff.2 valuesPrecede_iff.2

theorem precedes_antisymm (h : a.precedes b = true) (h' : b.precedes a = true) : a = b := by
  cases a
  cases b
  exact congrArg _ (List.le_antisymm (valuesPrecede_iff.1 h) (valuesPrecede_iff.1 h'))

/-- No two outcomes have one text. -/
theorem render_injective : Function.Injective render := by
  intro a b h
  have items (o : Outcome) : ∀ x ∈ o.values.map fun v => s!"{v.toInt}", Text.IsItem x :=
    List.forall_mem_map.2 fun v _ => Text.isItem_int v.toInt
  have texts := Text.listed_inj (items a) (items b) h
  have inj : Function.Injective fun v : Int64 => s!"{v.toInt}" := fun v w same =>
    Int64.toInt_inj.1 (Int.repr_inj.1 same)
  cases a
  cases b
  exact congrArg _ (inj.list_map texts)

end Outcome
end Litmus
