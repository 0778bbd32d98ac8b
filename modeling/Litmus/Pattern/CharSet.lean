import Litmus.Pattern.Atom

/-!
Sets of characters in square brackets: members, ranges, named classes, sets in sets, and operators
between them.
-/
namespace Litmus.Pattern

/-- A set that is open. -/
structure OpenSet where
  /-- What stands after the last operator. -/
  members : Row := {}
  /-- How deeply what stands before it is nested. -/
  before : Option Nat := none
  /-- Whether nothing but minus signs has come yet. -/
  leading : Bool := true
deriving DecidableEq, Repr

namespace OpenSet

def add (s : OpenSet) (depth : Nat) : OpenSet :=
  { s with members := s.members.add depth, leading := false }

def nesting (s : OpenSet) : Nat :=
  match s.before with
  | none => s.members.nesting
  | some depth => Nat.max depth s.members.nesting + 1

/-- The set after an operator. -/
def operator (s : OpenSet) : OpenSet := ⟨{}, some s.nesting, false⟩

end OpenSet

def classNames : List String :=
  ["alnum", "alpha", "ascii", "blank", "cntrl", "digit", "graph", "lower", "print", "punct",
    "space", "upper", "word", "xdigit"]

/-- A named class after its first bracket, and whether it is negated. -/
def namedClass? : List Char → Option (Bool × List Char)
  | ':' :: cs =>
      let negated := cs.head? = some '^'
      let cs := if negated then cs.drop 1 else cs
      match cs.dropWhile (· ≠ ':') with
      | ':' :: ']' :: rest =>
          if classNames.contains (String.ofList (cs.takeWhile (· ≠ ':'))) then
            some (negated, rest)
          else none
      | _ => none
  | _ => none

/-- Whether a class can be built. All bytes but some of ASCII make no text. -/
def Mode.allowsClass (m : Mode) (negated : Bool) : Bool :=
  if m.unicode then !m.caseless else !negated

/-- The text of a set after its first bracket and the sign that negates it. -/
def opened? (m : Mode) (cs : List Char) : Option (List Char) :=
  match m.skip cs with
  | '^' :: rest => if m.unicode then some rest else none
  | rest => some rest

/-- A member or a range. A minus before the end of the set or before another one makes no range. -/
def range? (m : Mode) (cs : List Char) : Option (List Char) := do
  let (first, rest) ← member? m cs
  if !m.allowsMember first then none
  match m.skip rest with
  | '-' :: rest =>
      if m.peek? rest = some ']' ∨ m.peek? rest = some '-' then some ('-' :: rest)
      else
        match first, ← member? m (m.skip rest) with
        | .letter a _, (.letter b coded, rest) =>
            if a ≤ b ∧ m.allowsMember (.letter b coded) then some rest else none
        | _, _ => none
  | rest => some rest

/-- The rest of the set that is open, and of those around it; and how deeply the outermost one is
nested. -/
def setFrom? (m : Mode) : Nat → OpenSet → List OpenSet → List Char → Option (Nat × List Char)
  | 0, _, _, _ => none
  | fuel + 1, s, outer, cs => do
      match m.skip cs with
      | '[' :: rest =>
          match namedClass? rest with
          | some (negated, rest) =>
              if m.allowsClass negated then setFrom? m fuel (s.add 0) outer rest else none
          | none => setFrom? m fuel {} (s :: outer) (← opened? m rest)
      | ']' :: rest =>
          if s.leading ∧ s.members.count = 0 then
            if m.allowsMember (.letter ']' false) then setFrom? m fuel (s.add 0) outer rest
            else none
          else
            match outer with
            | [] => some (s.nesting + 1, rest)
            | parent :: outer => setFrom? m fuel (parent.add (s.nesting + 1)) outer rest
      | cs =>
          if s.leading ∧ cs.head? = some '-' then
            if m.allowsMember (.letter '-' false) then
              setFrom? m fuel { s.add 0 with leading := true } outer (cs.drop 1)
            else none
          else if ["&&".toList, "--".toList, "~~".toList].contains (cs.take 2) then
            setFrom? m fuel s.operator outer (cs.drop 2)
          else setFrom? m fuel (s.add 0) outer (← range? m cs)

/-- A set after its first bracket. -/
def set? (m : Mode) (cs : List Char) : Option (Nat × List Char) := do
  setFrom? m (cs.length + 1) {} [] (← opened? m cs)

end Litmus.Pattern
