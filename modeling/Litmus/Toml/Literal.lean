import Litmus.Settings.Value
import Litmus.Toml.Moment

/-!
Literals: what is written for a value, before anyone reads it. Keys may come twice in a table and a
date may be none of the calendar; that is found when the literal is read.
-/
namespace Litmus.Toml

inductive Literal where
  /-- A text, a number or a truth value. -/
  | plain (v : Value)
  /-- A date or a time as it is written. -/
  | moment (written : List Char)
  | list (items : List Literal)
  /-- The pairs of a table on one line, or of one that dotted keys name on their way. -/
  | table (dotted : Bool) (pairs : List (String × Literal))
deriving Inhabited

namespace Literal

abbrev Pairs := List (String × Literal)

/-- The pairs with a literal assigned to a dotted key. What is named on the way is new, or was
named so before. -/
def assign (l : Literal) : List String → Pairs → Option Pairs
  | [], _ => none
  | [k], ps => some (ps ++ [(k, l)])
  | k :: ks, ps =>
      match ps.lookup k with
      | none => (assign l ks []).map fun sub => ps ++ [(k, .table true sub)]
      | some (.table true sub) =>
          (assign l ks sub).map fun sub => Value.put k (.table true sub) ps
      | some _ => none

/-- A table whose first key is this one stands for a moment; its other keys do not count. -/
def momentKey : String := "$__toml_private_datetime"

/-- The moment that is written in a text. -/
def momentOf? (written : List Char) : Option Value := (moment? written).map .text

/-- The value of the moment key: only a text will do. -/
def marked? : Literal → Option Value
  | .plain (.text s) => momentOf? s.toList
  | _ => none

/-- The value of the moment key, if that key comes before all others: `es` are the entries that a
table has already, and `pairs` those that come next. -/
def mark? (es : Value.Entries) (pairs : Pairs) : Option Literal :=
  match es, pairs with
  | [], (k, l) :: _ => if k = momentKey then some l else none
  | _, _ => none

mutual

/-- The value of a literal. No key of a table may come twice. -/
def value? : Literal → Option Value
  | .plain v => some v
  | .moment written => momentOf? written
  | .list items => (values? items).map .list
  | .table _ pairs => tableValue? pairs

def values? : List Literal → Option (List Value)
  | [] => some []
  | l :: rest => do
      let v ← value? l
      return v :: (← values? rest)

def tableValue? : List (String × Literal) → Option Value
  | [] => some (.table [])
  | (k, l) :: rest =>
      if k = momentKey then marked? l
      else do
        let v ← value? l
        return .table (← more? [(k, v)] rest)

/-- The entries of a table with those of more pairs. -/
def more? (es : Value.Entries) : List (String × Literal) → Option Value.Entries
  | [] => some es
  | (k, l) :: rest =>
      if (es.lookup k).isSome then none
      else do
        let v ← value? l
        more? (es ++ [(k, v)]) rest

end

end Literal
end Litmus.Toml
