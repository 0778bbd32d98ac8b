import Litmus.Toml.Expression

/-!
Sections of a document: a header, and the assignments below it up to the next header.
-/
namespace Litmus.Toml

inductive Statement where
  | assignment (keys : List String) (l : Literal)
  /-- A header in single brackets, or in double brackets for a new element of a list. -/
  | header (element : Bool) (keys : List String)

/-- A header after its first bracket. -/
def header? (cs : List Char) : Option (Statement × List Char) := do
  let (element, rest) := match cs with
    | '[' :: rest => (true, rest)
    | _ => (false, cs)
  let (keys, rest) ← dottedKey? (rest.length + 1) (skipBlanks rest)
  let rest ← expect? ']' (skipBlanks rest)
  let rest ← if element then expect? ']' rest else some rest
  let rest ← lineEnd? rest
  return (.header element keys, rest)

def assignment? (cs : List Char) : Option (Statement × List Char) := do
  let (keys, rest) ← dottedKey? (cs.length + 1) cs
  let rest ← expect? '=' (skipBlanks rest)
  let (l, rest) ← literal? (2 * rest.length + 2) (skipBlanks rest)
  let rest ← lineEnd? rest
  return (.assignment keys l, rest)

/-- The statements of a text, one a line. -/
def statements? : Nat → List Char → Option (List Statement)
  | 0, _ => none
  | fuel + 1, cs => do
      let cs ← skipLines cs.length cs
      match cs with
      | [] => return []
      | '[' :: rest =>
          let (s, rest) ← header? rest
          return s :: (← statements? fuel rest)
      | _ =>
          let (s, rest) ← assignment? cs
          return s :: (← statements? fuel rest)

structure Section where
  /-- No names stand for the document itself. -/
  header : List String
  /-- Whether the header opens a new element of a list. -/
  element : Bool
  /-- What is assigned below the header, unless it is read already. -/
  pairs : Option Literal.Pairs

namespace Section

/-- The section of the document itself, before any statement. -/
def first : Section := ⟨[], false, some []⟩

/-- Adds a statement to the sections so far, of which the last one comes first. -/
def add? : Statement → List Section → Option (List Section)
  | .header element keys, ss => some (⟨keys, element, some []⟩ :: ss)
  | .assignment keys l, s :: ss =>
      (l.assign keys (s.pairs.getD [])).map fun ps => { s with pairs := some ps } :: ss
  | .assignment .., [] => none

def headerAt (ss : List Section) (i : Nat) : List String := (ss[i]?.map header).getD []

/-- Whether section `i` opens an element of the list whose path has a given length. -/
def opensElement (ss : List Section) (i depth : Nat) : Bool :=
  ss[i]?.any fun s => s.element && s.header.length = depth

/-- The sections after one of them is read. -/
def read (i : Nat) (ss : List Section) : List Section :=
  ss.modify i fun s => { s with pairs := none }

end Section

/-- The sections of a text. -/
def sections? (cs : List Char) : Option (List Section) := do
  let statements ← statements? (cs.length + 1) cs
  return (← statements.foldlM (fun ss s => Section.add? s ss) [Section.first]).reverse

end Litmus.Toml
