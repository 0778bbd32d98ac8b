import Litmus.Pattern.Basic
import Litmus.Text.Numeral

/-!
The smallest parts of a pattern: characters, and what a backslash makes of the character after it.
-/
namespace Litmus.Pattern

inductive Atom where
  /-- A character; a coded one is given as a byte in two hexadecimal digits. -/
  | letter (c : Char) (coded : Bool)
  /-- Any character. -/
  | any
  /-- The digits, the blanks or the characters of words, or all others. -/
  | kind (negated : Bool)
  /-- The start or the end of a line or of the text. -/
  | edge
  /-- A place at which a word does or does not start or end. -/
  | boundary
deriving DecidableEq, Repr

def isAscii (c : Char) : Bool := c ≤ '\x7f'

/-- Whether an atom can be built outside of sets. -/
def Mode.allows (m : Mode) : Atom → Bool
  | .letter c coded => if m.unicode then !m.caseless else !coded || isAscii c
  | .any => m.unicode
  | .kind negated => !m.unicode && !negated
  | .edge | .boundary => true

/-- Whether an atom can be built as a member of a set. -/
def Mode.allowsMember (m : Mode) : Atom → Bool
  | .letter c _ => if m.unicode then !m.caseless else isAscii c
  | .kind negated => !m.unicode && !negated
  | .any | .edge | .boundary => false

/-- The number that `count` hexadecimal digits stand for, continuing from `acc`. -/
def hexDigits? (m : Mode) : Nat → Nat → List Char → Option (Nat × List Char)
  | 0, acc, cs => some (acc, cs)
  | count + 1, acc, cs =>
      match m.skip cs with
      | [] => none
      | c :: rest => (Text.digit? 16 c).bind fun d => hexDigits? m count (acc * 16 + d) rest

/-- A character by its code point, in so many hexadecimal digits. -/
def coded? (m : Mode) (count : Nat) (cs : List Char) : Option (Atom × List Char) :=
  (hexDigits? m count 0 cs).bind fun (n, rest) =>
    if n.isValidChar then some (.letter (Char.ofNat n) (count = 2), rest) else none

/-- The characters that a backslash and a letter name. -/
def named : List (Char × Char) :=
  [('a', '\x07'), ('t', '\t'), ('n', '\n'), ('v', '\x0b'), ('f', '\x0c'), ('r', '\r')]

/-- What follows a backslash. All signs of ASCII stand for themselves, but letters only if they
have a meaning. Properties of Unicode need tables. -/
def escape? (m : Mode) : List Char → Option (Atom × List Char)
  | [] => none
  | c :: rest =>
      if c = 'x' then coded? m 2 rest
      else if c = 'u' then coded? m 4 rest
      else if c = 'U' then coded? m 8 rest
      else if ['d', 's', 'w'].contains c then some (.kind false, rest)
      else if ['D', 'S', 'W'].contains c then some (.kind true, rest)
      else if ['A', 'z'].contains c then some (.edge, rest)
      else if ['b', 'B', '<', '>'].contains c then some (.boundary, rest)
      else if isAscii c && !c.isAlphanum then some (.letter c false, rest)
      else (named.lookup c).map fun meant => (.letter meant false, rest)

/-- An atom outside of sets. -/
def atom? (m : Mode) : List Char → Option (Atom × List Char)
  | [] => none
  | c :: rest =>
      if c = '\\' then escape? m rest
      else if c = '.' then some (.any, rest)
      else if c = '^' ∨ c = '$' then some (.edge, rest)
      else some (.letter c false, rest)

/-- A member of a set. -/
def member? (m : Mode) : List Char → Option (Atom × List Char)
  | [] => none
  | c :: rest => if c = '\\' then escape? m rest else some (.letter c false, rest)

end Litmus.Pattern
