import Litmus.Decimal.Shortest

/-!
Values of settings as they stand in a file or in the environment, before a field gives them a
type.
-/
namespace Litmus

inductive Value where
  /-- The place of a list to which nothing was assigned. -/
  | absent
  | boolean (b : Bool)
  | integer (i : Int)
  | float (x : Binary)
  | text (s : String)
  | list (items : List Value)
  /-- Keys are distinct. -/
  | table (entries : List (String × Value))
deriving Repr, Inhabited

namespace Value

abbrev Entries := List (String × Value)

/-- The entries with the first one of a key replaced, or with a new one at the end. -/
def put {α : Type} (key : String) (value : α) : List (String × α) → List (String × α)
  | [] => [(key, value)]
  | (k, v) :: rest => if k = key then (key, value) :: rest else (k, v) :: put key value rest

def entries : Value → Entries
  | .table es => es
  | _ => []

def items : Value → List Value
  | .list vs => vs
  | _ => []

end Value
end Litmus
