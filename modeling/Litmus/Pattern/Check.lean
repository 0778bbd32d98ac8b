import Litmus.Pattern.CharSet
import Litmus.Text.Alphabetic

/-!
Reading a whole pattern: atoms, sets, groups, bars between branches, and repetitions. What is
switched on inside a group ends with it.
-/
namespace Litmus.Pattern

/-- A group that is open, or the pattern itself. -/
structure Level where
  /-- What was switched on where the group began. -/
  outside : Mode := {}
  /-- The branches that came before. -/
  branches : Row := {}
  /-- The parts of this branch. -/
  parts : Row := {}
  /-- How deeply the last part is nested, if it can be repeated. -/
  last : Option Nat := none
deriving DecidableEq, Repr

namespace Level

def add (l : Level) (depth : Nat) : Level :=
  { l with parts := l.parts.add depth, last := some depth }

/-- Switches take the place of a part, but cannot be repeated. -/
def addSwitches (l : Level) : Level :=
  { l with parts := l.parts.add 0, last := none }

/-- The last part is repeated. -/
def repeated? (l : Level) : Option Level :=
  l.last.map fun depth =>
    { l with parts := { l.parts with depth := Nat.max l.parts.depth (depth + 1) }
             last := some (depth + 1) }

/-- The next branch. -/
def branch (l : Level) : Level :=
  { l with branches := l.branches.add l.parts.nesting, parts := {}, last := none }

def nesting (l : Level) : Nat := (l.branches.add l.parts.nesting).nesting

end Level

/-- A pattern that is read in part. -/
structure Progress where
  mode : Mode := {}
  level : Level := {}
  /-- The levels around this one, the innermost first. -/
  outer : List Level := []
  /-- The names of groups. -/
  names : List (List Char) := []
  /-- Whether it asks for a boundary between words of all scripts. -/
  boundary : Bool := false
deriving DecidableEq, Repr

namespace Progress

/-- Opens a group in which some switches are set. -/
def enter (p : Progress) (switches : List Char) : Progress :=
  { p with
    mode := p.mode.set switches
    level := { outside := p.mode }
    outer := p.level :: p.outer }

/-- Closes a group. -/
def leave? (p : Progress) : Option Progress :=
  match p.outer with
  | [] => none
  | parent :: outer =>
      some { p with
        mode := p.level.outside
        level := parent.add (p.level.nesting + 1)
        outer }

def addAtom? (p : Progress) (a : Atom) : Option Progress :=
  if p.mode.allows a then
    some { p with
      level := p.level.add 0
      boundary := p.boundary || (a = .boundary && p.mode.unicode) }
  else none

end Progress

/-- Whether a text can name a group. -/
def isGroupName : List Char → Bool
  | [] => false
  | c :: cs =>
      (c = '_' || Text.isAlphabetic c) &&
        cs.all fun c => ['_', '.', '[', ']'].contains c || Text.isAlphanumeric c

/-- The name of a group up to its end; no two groups have one name. -/
def named? (p : Progress) (cs : List Char) : Option (Progress × List Char) :=
  let name := cs.takeWhile (· ≠ '>')
  match cs.dropWhile (· ≠ '>') with
  | [] => none
  | _ :: rest =>
      if isGroupName name ∧ name ∉ p.names then
        some ({ p with names := name :: p.names }.enter [], rest)
      else none

/-- Whether switches are known, come once each, and stand before or after one minus that some of
them follow. -/
def areSwitches (cs : List Char) : Bool :=
  cs.all (['i', 's', 'm', 'U', 'u', 'R', 'x', '-'].contains ·) && decide cs.Nodup &&
    cs.getLast? ≠ some '-'

/-- Switches, for a group or for the rest of this one. -/
def switches? (p : Progress) (cs : List Char) : Option (Progress × List Char) :=
  let names := cs.takeWhile fun c => c ≠ ':' && c ≠ ')'
  if !areSwitches names then none
  else
    match cs.drop names.length with
    | ':' :: rest => some (p.enter names, rest)
    | ')' :: rest =>
        if names.isEmpty then none
        else some ({ p with mode := p.mode.set names, level := p.level.addSwitches }, rest)
    | _ => none

/-- A group after its first bracket. Nothing looks ahead or behind. -/
def group? (p : Progress) (cs : List Char) : Option (Progress × List Char) :=
  match p.mode.skip cs with
  | '?' :: 'P' :: '<' :: rest => named? p rest
  | '?' :: '<' :: rest =>
      if rest.head? = some '=' ∨ rest.head? = some '!' then none else named? p rest
  | '?' :: rest => switches? p rest
  | rest => some (p.enter [], rest)

/-- A mark that asks for as few repetitions as will do. -/
def dropLazy : List Char → List Char
  | '?' :: rest => rest
  | cs => cs

/-- Reads one more part. No brace is closed, so that none may be opened. -/
def step? (p : Progress) : List Char → Option (Progress × List Char)
  | [] => none
  | '(' :: rest => group? p rest
  | ')' :: rest => p.leave?.map (·, rest)
  | '|' :: rest => some ({ p with level := p.level.branch }, rest)
  | '[' :: rest =>
      (set? p.mode rest).map fun (depth, rest) => ({ p with level := p.level.add depth }, rest)
  | '\x7b' :: _ => none
  | c :: rest =>
      if ['?', '*', '+'].contains c then
        p.level.repeated?.map fun level => ({ p with level }, dropLazy rest)
      else do
        let (a, rest) ← atom? p.mode (c :: rest)
        return (← p.addAtom? a, rest)

/-- Reads a pattern to its end, by parts of at least one character. -/
def readFrom? : Nat → Progress → List Char → Option Progress
  | 0, _, _ => none
  | fuel + 1, p, cs =>
      match p.mode.skip cs with
      | [] => if p.outer.isEmpty then some p else none
      | cs => (step? p cs).bind fun (p, rest) => readFrom? fuel p rest

/-- Whether a pattern can be built from a text without a closing brace. -/
def check (cs : List Char) : Except Refusal Unit :=
  match readFrom? (cs.length + 1) {} cs with
  | none => .error .malformed
  | some p =>
      if nestingLimit < p.level.nesting then .error .malformed
      else if p.boundary then .error .wordBoundary
      else .ok ()

end Litmus.Pattern
