import Litmus.Text.Blank

/-!
Patterns: regular expressions that texts are compared with. Nothing is compared here; a pattern is
read to see whether one can be built from it. There are no tables of the classes and the cases of
Unicode, so what needs them is refused.
-/
namespace Litmus.Pattern

/-- Why no pattern can be built. -/
inductive Refusal where
  | malformed
  /-- It asks for the boundaries of words of all scripts. -/
  | wordBoundary
deriving DecidableEq, Repr

def Refusal.message : Refusal → String
  | .malformed => "error building NFA"
  | .wordBoundary =>
      "unsupported regex feature for DFAs: cannot build DFAs for regexes with Unicode word " ++
        "boundaries; switch to ASCII word boundaries, or heuristically enable Unicode word " ++
        "boundaries or use a different regex engine"

/-- What is switched on at a place of a pattern. -/
structure Mode where
  /-- A letter stands for both its cases. -/
  caseless : Bool := false
  /-- Characters are those of Unicode; otherwise they are bytes, of which only those of ASCII make
  a text. -/
  unicode : Bool := true
  /-- Blanks and comments are not read. -/
  spaced : Bool := false
deriving DecidableEq, Repr

namespace Mode

/-- The text after blanks and comments; a comment runs from a hash to the end of its line. -/
def dropSpace (comment : Bool) : List Char → List Char
  | [] => []
  | c :: cs =>
      if comment then dropSpace (c ≠ '\n') cs
      else if Text.isBlank c then dropSpace false cs
      else if c = '#' then dropSpace true cs
      else c :: cs

/-- The text from the next character on that is read. -/
def skip (m : Mode) (cs : List Char) : List Char :=
  if m.spaced then dropSpace false cs else cs

/-- The next character but for blanks and one hash. -/
def peek? (m : Mode) (cs : List Char) : Option Char :=
  if m.spaced then
    match cs.dropWhile Text.isBlank with
    | '#' :: rest => (rest.dropWhile Text.isBlank).head?
    | rest => rest.head?
  else cs.head?

/-- Whether switches, of which those after a minus are switched off, say something of one. -/
def switchOf? (switches : List Char) (name : Char) : Option Bool :=
  if (switches.takeWhile (· ≠ '-')).contains name then some true
  else if switches.contains name then some false
  else none

def set (m : Mode) (switches : List Char) : Mode :=
  { caseless := (switchOf? switches 'i').getD m.caseless
    unicode := (switchOf? switches 'u').getD m.unicode
    spaced := (switchOf? switches 'x').getD m.spaced }

end Mode

/-- Parts side by side: their number, and how deeply the deepest of them is nested. -/
structure Row where
  count : Nat := 0
  depth : Nat := 0
deriving DecidableEq, Repr

namespace Row

def add (r : Row) (depth : Nat) : Row := ⟨r.count + 1, Nat.max r.depth depth⟩

/-- How deeply the row is nested: two parts or more lie one deeper than a single one. -/
def nesting (r : Row) : Nat := if r.count ≤ 1 then r.depth else r.depth + 1

end Row

/-- How deeply the parts of a pattern may be nested. -/
def nestingLimit : Nat := 250

end Litmus.Pattern
