import Litmus.Toml.Number

/-!
What stands after an equals sign: a text, a number, a truth value, a moment, a list over any number
of lines, or a table on one line.
-/
namespace Litmus.Toml

/-- Blanks, comments and line ends between the items of a list. -/
def skipLines : Nat → List Char → Option (List Char)
  | 0, cs => some cs
  | fuel + 1, cs =>
      match skipBlanks cs with
      | '\n' :: rest => skipLines fuel rest
      | '#' :: rest => (lineEnd? ('#' :: rest)).bind (skipLines fuel)
      | cs => some cs

/-- A number or moment after its first word, or one of the two truth values. -/
def scalar? (cs : List Char) : Option (Literal × List Char) :=
  match cs with
  | '+' :: rest => (word? rest).bind fun (w, rest) => number? w rest
  | _ =>
      match word? cs with
      | none => (string? cs).map fun ((_, s), rest) => (.plain (.text (String.ofList s)), rest)
      | some (w, rest) =>
          if w = "true".toList then some (.plain (.boolean true), rest)
          else if w = "false".toList then some (.plain (.boolean false), rest)
          else if w = "inf".toList ∨ w = "nan".toList then numberOrMoment? w rest
          else
            match w with
            | c :: _ =>
                if c = '-' ∨ ('0' ≤ c ∧ c ≤ '9') then numberOrMoment? w rest else none
            | [] => none

mutual

/-- A literal. Every literal, item and pair uses up fuel. -/
def literal? : Nat → List Char → Option (Literal × List Char)
  | 0, _ => none
  | fuel + 1, cs =>
      match cs with
      | '[' :: rest => do
          let (ls, rest) ← items? fuel rest
          return (.list ls, rest)
      | '\x7b' :: rest =>
          match skipBlanks rest with
          | '\x7d' :: rest => some (.table false [], rest)
          | rest => do
              let (ps, rest) ← inlinePairs? fuel [] rest
              return (.table false ps, rest)
      | _ => scalar? cs

/-- The items of a list up to its end. -/
def items? : Nat → List Char → Option (List Literal × List Char)
  | 0, _ => none
  | fuel + 1, cs => do
      let cs ← skipLines cs.length cs
      match cs with
      | ']' :: rest => return ([], rest)
      | _ =>
          let (l, rest) ← literal? fuel cs
          let rest ← skipLines rest.length rest
          match rest with
          | ',' :: rest => do
              let (ls, rest) ← items? fuel rest
              return (l :: ls, rest)
          | ']' :: rest => return ([l], rest)
          | _ => none

/-- The pairs of a table on one line up to its end; at least one must follow. -/
def inlinePairs? : Nat → Literal.Pairs → List Char → Option (Literal.Pairs × List Char)
  | 0, _, _ => none
  | fuel + 1, ps, cs => do
      let (keys, rest) ← dottedKey? (cs.length + 1) cs
      let rest ← expect? '=' (skipBlanks rest)
      let (l, rest) ← literal? fuel (skipBlanks rest)
      let ps ← l.assign keys ps
      match skipBlanks rest with
      | '\x7d' :: rest => return (ps, rest)
      | ',' :: rest => inlinePairs? fuel ps (skipBlanks rest)
      | _ => none

end

end Litmus.Toml
