import Litmus.Text.Numeral

/-!
Strings and keys of a settings file. A string stands between quotes, single or tripled; in double
quotes a backslash starts an escape. A tripled quote lets the string run over several lines.
-/
namespace Litmus.Toml

/-- A reader takes what it reads from the front of the text and returns the rest. -/
abbrev Reader (α : Type) := List Char → Option (α × List Char)

def isBlankChar (c : Char) : Bool := c = ' ' || c = '\t'

def skipBlanks (cs : List Char) : List Char := cs.dropWhile isBlankChar

/-- A character that may stand in a string. -/
def isTextChar (c : Char) : Bool := c = '\t' || (' ' ≤ c && c ≠ '\x7f')

/-- A character of a bare word: a key, a number or a date. -/
def isWordChar (c : Char) : Bool :=
  ('a' ≤ c && c ≤ 'z') || ('A' ≤ c && c ≤ 'Z') || ('0' ≤ c && c ≤ '9') || c = '-' || c = '_'

/-- A bare word of at least one character. -/
def word? (cs : List Char) : Option (List Char × List Char) :=
  let w := cs.takeWhile isWordChar
  if w.isEmpty then none else some (w, cs.dropWhile isWordChar)

/-- One character from its front, if it is the expected one. -/
def expect? (c : Char) : List Char → Option (List Char)
  | d :: rest => if d = c then some rest else none
  | [] => none

/-- A carriage return before a line feed is dropped. -/
def foldLineEnds : List Char → List Char
  | [] => []
  | '\r' :: '\n' :: rest => '\n' :: foldLineEnds rest
  | c :: rest => c :: foldLineEnds rest

/-- A comment up to the end of its line, if one starts here. -/
def skipComment : List Char → List Char
  | '#' :: rest => rest.dropWhile fun c => c = '\t' || ' ' ≤ c
  | cs => cs

/-- The rest after blanks, a comment and the end of a line or of the text. -/
def lineEnd? (cs : List Char) : Option (List Char) :=
  match skipComment (skipBlanks cs) with
  | [] => some []
  | '\n' :: rest => some rest
  | _ => none

/-- A character given by exactly `count` hexadecimal digits. -/
def hexChar? (count : Nat) (cs : List Char) : Option (Char × List Char) :=
  let ds := cs.take count
  if ds.length < count then none
  else
    (ds.foldlM (fun acc c => (Text.digit? 16 c).map (acc * 16 + ·)) 0).bind fun n =>
      if h : n.isValidChar then some (⟨UInt32.ofNat n, by
        have : n < UInt32.size := by rcases h with h | h <;> simp [UInt32.size] <;> omega
        simpa [UInt32.isValidChar, UInt32.toNat_ofNat_of_lt' this] using h⟩, cs.drop count)
      else none

/-- The blanks up to the end of the line after an escape that ends it, and those of the next
lines. -/
def foldLine? (cs : List Char) : Option (List Char) :=
  let isSpace (c : Char) : Bool := isBlankChar c || c = '\n'
  match skipBlanks cs with
  | [] => some []
  | '\n' :: rest => some (rest.dropWhile isSpace)
  | _ => none

/-- What follows a backslash: the characters that it stands for. -/
def escape? (lines : Bool) : Reader (List Char)
  | '"' :: rest => some (['"'], rest)
  | '\\' :: rest => some (['\\'], rest)
  | 'b' :: rest => some (['\x08'], rest)
  | 'f' :: rest => some (['\x0c'], rest)
  | 'n' :: rest => some (['\n'], rest)
  | 'r' :: rest => some (['\r'], rest)
  | 't' :: rest => some (['\t'], rest)
  | 'u' :: rest => (hexChar? 4 rest).map fun (c, rest) => ([c], rest)
  | 'U' :: rest => (hexChar? 8 rest).map fun (c, rest) => ([c], rest)
  | c :: rest =>
      if lines && (isBlankChar c || c = '\n') then
        (foldLine? (c :: rest)).map fun rest => ([], rest)
      else none
  | [] => none

/-- The rest of a string on one line. Reading stops after `fuel` characters or escapes. -/
def lineBody? (quote : Char) : Nat → Reader (List Char)
  | 0, _ => none
  | _ + 1, [] => none
  | fuel + 1, c :: rest =>
      if c = quote then some ([], rest)
      else if c = '\\' ∧ quote = '"' then do
        let (cs, rest) ← escape? false rest
        let (more, rest) ← lineBody? quote fuel rest
        return (cs ++ more, rest)
      else if isTextChar c then do
        let (more, rest) ← lineBody? quote fuel rest
        return (c :: more, rest)
      else none

/-- The rest of a string over several lines. Up to two quotes may stand before the three that end
it. -/
def linesBody? (quote : Char) : Nat → Reader (List Char)
  | 0, _ => none
  | _ + 1, [] => none
  | fuel + 1, c :: rest =>
      if c = quote then
        let quotes := (c :: rest).takeWhile (· = quote)
        let after := (c :: rest).dropWhile (· = quote)
        if quotes.length < 3 then do
          let (more, rest) ← linesBody? quote fuel after
          return (quotes ++ more, rest)
        else
          let kept := min (quotes.length - 3) 2
          some (List.replicate kept quote, (c :: rest).drop (kept + 3))
      else if c = '\\' ∧ quote = '"' then do
        let (cs, rest) ← escape? true rest
        let (more, rest) ← linesBody? quote fuel rest
        return (cs ++ more, rest)
      else if isTextChar c || c = '\n' then do
        let (more, rest) ← linesBody? quote fuel rest
        return (c :: more, rest)
      else none

/-- A string after its first quote; the flag tells whether its quotes are tripled. -/
def afterQuote? (quote : Char) (cs : List Char) : Option ((Bool × List Char) × List Char) :=
  match cs with
  | c :: rest =>
      if c = quote then
        match rest with
        | d :: body =>
            if d = quote then
              let body := match body with
                | '\n' :: b => b
                | _ => body
              (linesBody? quote (body.length + 1) body).map fun (s, rest) => ((true, s), rest)
            else some ((false, []), rest)
        | [] => some ((false, []), rest)
      else (lineBody? quote (cs.length + 1) cs).map fun (s, rest) => ((false, s), rest)
  | [] => none

/-- A string with its quotes. -/
def string? (cs : List Char) : Option ((Bool × List Char) × List Char) :=
  match cs with
  | '"' :: rest => afterQuote? '"' rest
  | '\'' :: rest => afterQuote? '\'' rest
  | _ => none

/-- A key: a bare word, or a string whose quotes are not tripled. -/
def key? (cs : List Char) : Option (String × List Char) :=
  match word? cs with
  | some (w, rest) => some (String.ofList w, rest)
  | none =>
      match string? cs with
      | some ((false, s), rest) => some (String.ofList s, rest)
      | _ => none

/-- Keys separated by points, with blanks around them. -/
def dottedKey? : Nat → Reader (List String)
  | 0, _ => none
  | fuel + 1, cs => do
      let (k, rest) ← key? cs
      match skipBlanks rest with
      | '.' :: rest =>
          let (ks, rest) ← dottedKey? fuel (skipBlanks rest)
          return (k :: ks, rest)
      | rest => return ([k], rest)

end Litmus.Toml
