import Litmus.Decimal.Reading
import Litmus.Toml.Literal

/-!
Numbers of a settings file. Digits may be grouped by single underscores; a decimal does not start
with a needless zero; other bases are marked by `0x`, `0o` and `0b`. What does not fit is refused.
-/
namespace Litmus.Toml

/-- The longest run of digits and single underscores from its front, whether it is well formed so
far: no underscore at either end, and a leading zero only where it may stand. -/
structure Run where
  digits : List Char
  rest : List Char

/-- Reads digits, given whether one has been read, whether the first was a zero that must stand
alone, and whether an underscore comes just before. -/
def runFrom? (base : Nat) (zeros : Bool) : (started lone gap : Bool) → List Char → Option Run
  | started, _, gap, [] => if !started || gap then none else some ⟨[], []⟩
  | started, lone, gap, c :: rest =>
      if (Text.digit? base c).isSome then
        if started && lone && !zeros then none
        else
          (runFrom? base zeros true (if started then lone else c = '0') false rest).map fun r =>
            { r with digits := c :: r.digits }
      else if c = '_' && started && !gap then runFrom? base zeros true lone true rest
      else if !started || gap then none
      else some ⟨[], c :: rest⟩

/-- A run of digits that may have a sign. -/
def signedRun? (zeros : Bool) (cs : List Char) : Option Run :=
  match cs with
  | '-' :: rest =>
      (runFrom? 10 zeros false false false rest).map fun r => { r with digits := '-' :: r.digits }
  | '+' :: rest => runFrom? 10 zeros false false false rest
  | _ => runFrom? 10 zeros false false false cs

/-- A whole word of digits in a base other than ten. -/
def based? (base : Nat) (cs : List Char) : Option Literal :=
  (runFrom? base true false false false cs).bind fun r =>
    if r.rest.isEmpty then
      ((Text.digits? base r.digits).filter (· < Word.signedBound)).map fun n => .plain (.integer n)
    else none

/-- The number in a text of digits, point and exponent, if it is finite. -/
def float? (cs : List Char) : Option Literal :=
  ((Binary.ofText? cs).filter Binary.isFinite).map fun x => .plain (.float x)

/-- An exponent after the digits `digits`: `suffix` is what their word has left, and a plus sign
ends a word. -/
def exponent? (digits suffix cs : List Char) : Option (Literal × List Char) :=
  match suffix with
  | [] => (float? digits).map (·, cs)
  | e :: more =>
      if e = 'e' ∨ e = 'E' then
        let run := match more with
          | [] =>
              let cs := match cs with
                | '+' :: rest => rest
                | _ => cs
              (word? cs).bind fun (w, cs) => (runFrom? 10 true false false false w).map (·, cs)
          | _ => (signedRun? true more).map (·, cs)
        run.bind fun (r, cs) =>
          if r.rest.isEmpty then (float? (digits ++ 'e' :: r.digits)).map (·, cs) else none
      else none

/-- A number that starts with a given word. -/
def number? (w cs : List Char) : Option (Literal × List Char) :=
  match w with
  | '0' :: 'x' :: ds => (based? 16 ds).map (·, cs)
  | '0' :: 'o' :: ds => (based? 8 ds).map (·, cs)
  | '0' :: 'b' :: ds => (based? 2 ds).map (·, cs)
  | _ =>
      if w.any fun c => c = 'e' || c = 'E' then
        (signedRun? false w).bind fun r => exponent? r.digits r.rest cs
      else
        match cs with
        | '.' :: cs => do
            let r ← signedRun? false w
            let (after, cs) ← word? cs
            let f ← runFrom? 10 true false false false after
            if r.rest.isEmpty then exponent? (r.digits ++ '.' :: f.digits) f.rest cs else none
        | _ =>
            if w = "inf".toList then some (.plain (.float (.infinite false)), cs)
            else if w = "-inf".toList then some (.plain (.float (.infinite true)), cs)
            else if w = "nan".toList ∨ w = "-nan".toList then some (.plain (.float .notANumber), cs)
            else
              (signedRun? false w).bind fun r =>
                ((Text.integer? r.digits).filter fun _ => r.rest.isEmpty).map fun i =>
                  (.plain (.integer i), cs)

/-- Takes a mark and the word after it, if the mark stands in front. -/
def markedWord? (mark : Char) (cs : List Char) : Option (List Char × List Char) :=
  match cs with
  | c :: rest =>
      if c = mark then (word? rest).map fun (w, rest) => (mark :: w, rest) else some ([], cs)
  | [] => some ([], cs)

/-- The word after a mark that must be there. -/
def wordAfter? (mark : Char) (cs : List Char) : Option (List Char × List Char) :=
  (expect? mark cs).bind fun rest => (word? rest).map fun (w, rest) => (mark :: w, rest)

/-- What is written for a moment that starts with a given word. One blank may stand between its date
and its time. -/
def momentFrom? (w cs : List Char) : Option (Literal × List Char) := do
  let (hour, cs) := match cs with
    | ' ' :: rest =>
        match word? rest with
        | some (h, rest) => (' ' :: h, rest)
        | none => ([], cs)
    | _ => ([], cs)
  let (time, cs) ← match cs with
    | ':' :: _ => do
        let (minutes, cs) ← wordAfter? ':' cs
        let (seconds, cs) ← wordAfter? ':' cs
        let (part, cs) ← markedWord? '.' cs
        let (zone, cs) ← markedWord? '+' cs
        let (zoneMinutes, cs) ← markedWord? ':' cs
        some (minutes ++ seconds ++ part ++ zone ++ zoneMinutes, cs)
    | _ => some ([], cs)
  return (.moment (w ++ hour ++ time), cs)

/-- Whether a word that starts like a number is a date. -/
def startsDate (w : List Char) : Bool :=
  let hyphen := (w.drop 1).contains '-'
  let negativeExponent := (w.zip (w.drop 1)).any fun (a, b) => (a = 'e' || a = 'E') && b = '-'
  w.any (fun c => c = 'T' || c = 't') || (hyphen && !negativeExponent)

/-- A number or a moment that starts with a given word. -/
def numberOrMoment? (w cs : List Char) : Option (Literal × List Char) :=
  if startsDate w then momentFrom? w cs
  else
    match cs with
    | ':' :: _ => momentFrom? w cs
    | _ => number? w cs

end Litmus.Toml
