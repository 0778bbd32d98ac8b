import Litmus.Decimal.Reading
import Litmus.Fault
import Litmus.Settings.Value
import Litmus.Toml.Text

/-!
Places in a tree of settings: a name, then names of entries and numbers of elements below it, as in
`a.b[0][-1].c`. What stands on the way to a place and is not of the needed kind gives way to an
empty table or list, and a list grows up to the element that is named.
-/
namespace Litmus

namespace Value

mutual

/-- Puts a value under a key. A table merges into the table that is there; a value that is no
table gives way to one only if the table has entries. -/
def set (root : Value) (key : String) : Value → Value
  | .table incoming =>
      let target := (root.entries.lookup key).getD (.table [])
      .table (put key (setAll target incoming) root.entries)
  | v => .table (put key v root.entries)

/-- Puts all entries of a table into a value. -/
def setAll (root : Value) : List (String × Value) → Value
  | [] => root
  | (k, v) :: rest => setAll (set root k v) rest

end

/-- How many bytes a list needs for an element. -/
def elementBytes : Nat := 96

/-- The position that a number names in a list; a negative number counts from the end. The least
signed number has no opposite. -/
def position (i : Int) (size : Nat) : Except Fault Nat :=
  if 0 ≤ i then .ok i.toNat
  else if i.natAbs = Word.signedBound then .error .negOverflow
  else if size < i.natAbs then .error .subOverflow
  else .ok (size - i.natAbs)

/-- The list with every position up to `n`. -/
def reaching (n : Nat) (vs : List Value) : Except Fault (List Value) :=
  if n < vs.length then .ok vs
  else do
    Word.reserve (n + 1) elementBytes
    return vs ++ List.replicate (n + 1 - vs.length) .absent

end Value

/-- A step from a value into it. -/
inductive Step where
  | entry (name : String)
  | element (i : Int)
deriving DecidableEq, Repr

/-- The steps that lead from the root of a tree to a place in it. -/
abbrev Place := List Step

namespace Place

/-! ### Reading -/

/-- A character of a name. -/
def isNameChar (c : Char) : Bool := Toml.isWordChar c || c = ' '

/-- A name of at least one character. -/
def name? (cs : List Char) : Option (String × List Char) :=
  let name := cs.takeWhile isNameChar
  if name.isEmpty then none else some (String.ofList name, cs.dropWhile isNameChar)

/-- The number of an element after its opening bracket, with blanks around it. -/
def number? (cs : List Char) : Option (Int × List Char) :=
  let (sign, cs) := match Toml.skipBlanks cs with
    | '-' :: rest => (['-'], rest)
    | rest => ([], rest)
  match Toml.skipBlanks (cs.dropWhile Binary.isDigit) with
  | ']' :: rest => (Text.integer? (sign ++ cs.takeWhile Binary.isDigit)).map (·, rest)
  | _ => none

/-- What follows a name: more names after points, and numbers in brackets. -/
def steps? : Nat → List Char → Option Place
  | 0, _ => none
  | _ + 1, [] => some []
  | fuel + 1, '.' :: rest => do
      let (name, rest) ← name? rest
      return .entry name :: (← steps? fuel rest)
  | fuel + 1, '[' :: rest => do
      let (i, rest) ← number? rest
      return .element i :: (← steps? fuel rest)
  | _ + 1, _ :: _ => none

/-- The place that a text names, if it names one. -/
def ofText? (text : String) : Option Place := do
  let (name, rest) ← name? text.toList
  return .entry name :: (← steps? (rest.length + 1) rest)

/-! ### Assignment -/

/-- Puts a value at a place. An entry is merged with what is there; an element is replaced. -/
def assign (v : Value) : Place → Value → Except Fault Value
  | [], _ => .ok v
  | [.entry name], root => .ok (root.set name v)
  | .entry name :: rest, root => do
      let sub ← assign v rest ((root.entries.lookup name).getD .absent)
      return .table (Value.put name sub root.entries)
  | .element i :: rest, root => do
      let n ← Value.position i root.items.length
      let vs ← Value.reaching n root.items
      let sub ← assign v rest (vs[n]?.getD .absent)
      return .list (vs.set n sub)

end Place
end Litmus
