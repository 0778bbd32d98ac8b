import Litmus.Toml.Text

/-!
Dates and times of a settings file. They are kept as text, in the form in which they would be
written back.
-/
namespace Litmus.Toml

/-- Two digits, as a number. -/
def twoDigits? (cs : List Char) : Option (Nat × List Char) :=
  match cs with
  | a :: b :: rest => do
      let x ← Text.digit? 10 a
      let y ← Text.digit? 10 b
      return (10 * x + y, rest)
  | _ => none

/-- A number with at least two digits. -/
def padded (n : Nat) : String :=
  if n < 10 then s!"0{n}" else s!"{n}"

/-- A day of the calendar, from `yyyy-mm-dd`. -/
def date? (cs : List Char) : Option (String × List Char) := do
  let (century, rest) ← twoDigits? cs
  let (year, rest) ← twoDigits? rest
  let (month, rest) ← twoDigits? (← expect? '-' rest)
  let (day, rest) ← twoDigits? (← expect? '-' rest)
  if 1 ≤ month ∧ month ≤ 12 ∧ 1 ≤ day ∧ day ≤ 31 then
    some (padded century ++ padded year ++ "-" ++ padded month ++ "-" ++ padded day, rest)
  else none

/-- The digits of a fraction of a second that count: the first nine, without zeros at the end. -/
def fraction (ds : List Char) : String :=
  let kept := ((ds.take 9).reverse.dropWhile (· = '0')).reverse
  if kept.isEmpty then "" else "." ++ String.ofList kept

/-- A time of day, from `hh:mm:ss` with an optional fraction. -/
def clock? (cs : List Char) : Option (String × List Char) := do
  let (hour, rest) ← twoDigits? cs
  let (minute, rest) ← twoDigits? (← expect? ':' rest)
  let (second, rest) ← twoDigits? (← expect? ':' rest)
  if hour ≤ 24 ∧ minute ≤ 59 ∧ second ≤ 59 then
    let shown := padded hour ++ ":" ++ padded minute ++ ":" ++ padded second
    match rest with
    | '.' :: rest =>
        let ds := rest.takeWhile fun c => '0' ≤ c && c ≤ '9'
        if ds.isEmpty then none else some (shown ++ fraction ds, rest.drop ds.length)
    | _ => some (shown, rest)
  else none

/-- An offset from universal time, which may be absent. The sign belongs to the hours, and zero
hours are not negative. -/
def offset? (cs : List Char) : Option (String × List Char) :=
  let signed (sign : String) (rest : List Char) : Option (String × List Char) := do
    let (hours, rest) ← twoDigits? rest
    let (minutes, rest) ← twoDigits? (← expect? ':' rest)
    let sign := if hours = 0 then "+" else sign
    return (sign ++ padded hours ++ ":" ++ padded minutes, rest)
  match cs with
  | [] => some ("", [])
  | 'Z' :: rest => some ("Z", rest)
  | 'z' :: rest => some ("Z", rest)
  | '+' :: rest => signed "+" rest
  | '-' :: rest => signed "-" rest
  | _ => none

/-- The time of day after a date, if a mark says that one follows. -/
def timeOfDay? (cs : List Char) : Option (String × List Char) :=
  match cs with
  | c :: rest =>
      if c = 'T' ∨ c = 't' ∨ c = ' ' then
        (clock? rest).map fun (time, rest) => ("T" ++ time, rest)
      else some ("", cs)
  | [] => some ("", [])

/-- A whole moment: a time of day, or a date, which a time of day and an offset may follow. -/
def moment? (cs : List Char) : Option String :=
  let whole := if cs[2]? = some ':' then clock? cs
    else do
      let (day, rest) ← date? cs
      let (time, rest) ← timeOfDay? rest
      let (zone, rest) ← offset? rest
      return (day ++ time ++ zone, rest)
  whole.bind fun (shown, rest) => if rest.isEmpty then some shown else none

end Litmus.Toml
