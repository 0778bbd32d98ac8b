import Litmus.Decimal.Reading
import Litmus.Log
import Litmus.Pattern.Check
import Litmus.Text.Alphanumeric
import Litmus.Text.Blank
import Litmus.Text.Numeral

/-!
Which lines of the log are shown. A filter is a list of directives between commas. A directive has
a level, and may name the target, a span, and fields of the lines that it speaks of: `level`,
`target`, `target=level`, `target[span{field=value}]=level`. Of the directives that speak of a
line, the most specific one decides.
-/
namespace Litmus

structure Directive where
  /-- The highest rank that is shown; zero shows nothing. -/
  rank : Nat
  target : Option String
  span : Option String
  /-- The names of fields, and whether a value is asked for. -/
  fields : List (String × Bool)
deriving DecidableEq, Repr

/-- Why a directive is refused. -/
inductive DirectiveError where
  | malformed
  | level
  /-- No pattern can be built from the value of a field. -/
  | field (cause : Pattern.Refusal)
deriving DecidableEq, Repr

def DirectiveError.message : DirectiveError → String
  | .malformed => "invalid filter directive"
  | .level =>
      "error parsing level filter: expected one of \"off\", \"error\", \"warn\", \"info\", " ++
        "\"debug\", \"trace\", or a number 0-5"
  | .field cause => "invalid field filter: " ++ cause.message

namespace Directive

/-- What all lines are shown by. -/
def all : Directive := ⟨Level.trace.rank, none, none, []⟩

/-! ### Reading -/

/-- The rank that a text names, as a number or as a word in any case. -/
def rank? (cs : List Char) : Option Nat :=
  let words := ["off", "error", "warn", "info", "debug", "trace"]
  ((Text.count? cs).filter (· < words.length)).or
    (words.idxOf? (String.ofList (Binary.lower cs)))

/-- The rank after an equals sign; nothing there shows all. -/
def rankAfter (cs : List Char) : Except DirectiveError Nat :=
  if cs.isEmpty then .ok Level.trace.rank
  else
    match rank? cs with
    | some rank => .ok rank
    | none => .error .level

/-- A directive without an equals sign is a level or else a target. -/
def bare (cs : List Char) : Directive :=
  match rank? cs with
  | some rank => { all with rank }
  | none => { all with target := some (String.ofList cs) }

/-- What is read, and the place where it began. -/
inductive Reading where
  | start
  | levelOrTarget (begun : Nat)
  | span (begun : Nat)
  | field (begun : Nat)
  | fields
  | target
  | level (begun : Nat)

/-- The characters of a text whose places, in bytes, are from `first` on and before `last`. -/
def cut (text : List (Nat × Char)) (first last : Nat) : List Char :=
  (text.filter fun c => first ≤ c.1 && c.1 < last).map (·.2)

/-- A value of a field is a number or else a pattern. -/
def checkValue (cs : List Char) : Except DirectiveError Unit :=
  if (Binary.ofText? cs).isSome then .ok () else (Pattern.check cs).mapError .field

/-- A field: its name, and whether a value is asked for, which ends before a second equals sign. -/
def fieldOf (cs : List Char) : Except DirectiveError (String × Bool) := do
  let name := String.ofList (cs.takeWhile (· ≠ '='))
  match cs.dropWhile (· ≠ '=') with
  | [] => return (name, false)
  | _ :: rest =>
      checkValue (rest.takeWhile (· ≠ '='))
      return (name, true)

/-- Reads one more character, which stands at place `i`. -/
def read (text : List (Nat × Char)) (d : Directive) (r : Reading) (i : Nat) (c : Char) :
    Except DirectiveError (Directive × Reading) :=
  let part (begun : Nat) : String := String.ofList (cut text begun i)
  match r with
  | .start =>
      if c = '[' then .ok (d, .span (i + 1))
      else if ['-', ':', '_'].contains c || Text.isAlphanumeric c then .ok (d, .levelOrTarget i)
      else .error .malformed
  | .levelOrTarget begun =>
      if c = '=' then .ok ({ d with target := some (part begun) }, .level (i + 1))
      else if c = '[' then .ok ({ d with target := some (part begun) }, .span (i + 1))
      else .ok (d, r)
  | .span begun =>
      if c = ']' then .ok ({ d with span := some (part begun) }, .target)
      else if c = '\x7b' then
        let span := if part begun = "" then none else some (part begun)
        .ok ({ d with span }, .field (i + 1))
      else .ok (d, r)
  | .field begun =>
      if c = '\x7d' then
        let field := cut text begun i
        if field.isEmpty then .error .malformed
        else do return ({ d with fields := d.fields ++ [← fieldOf field] }, .fields)
      else .ok (d, r)
  | .fields => if c = ']' then .ok (d, .target) else .error .malformed
  | .target => if c = '=' then .ok (d, .level (i + 1)) else .error .malformed
  | .level _ => .ok (d, r)

/-- The characters of a text with their places in bytes, of which the first one is `i`. -/
def placed (i : Nat) : List Char → List (Nat × Char)
  | [] => []
  | c :: cs => (i, c) :: placed (i + c.utf8Size) cs

/-- A directive. Blanks at its two ends are not read, but its parts are cut from the whole text by
the places of what is read. -/
def ofText (cs : List Char) : Except DirectiveError Directive := do
  let text := placed 0 cs
  let last := (String.ofList cs).utf8ByteSize
  let (d, r) ← (placed 0 (Text.trim cs)).foldlM (fun (d, r) (i, c) => read text d r i c)
    (all, .start)
  match r with
  | .levelOrTarget begun => return bare (cut text begun last)
  | .level begun => return { d with rank := ← rankAfter (cut text begun last) }
  | .target => return d
  | _ => throw .malformed

/-! ### Lines -/

/-- Lines have no span, and no value is looked at: a directive that asks for one speaks of none. -/
def isPlain (d : Directive) : Bool := d.span.isNone && !d.fields.any (·.2)

/-- Whether a directive speaks of a line. Every line has its message as a field. -/
def covers (d : Directive) (line : LogLine) : Bool :=
  let names := "message" :: line.fields.map (·.1)
  d.isPlain && d.fields.all (fun f => names.contains f.1) &&
    d.target.all fun t => t.toList.isPrefixOf line.writer.target.toList

/-- How specific a directive is: by its target, then by its fields. -/
def weight (d : Directive) : Nat × Nat :=
  (d.target.elim 0 fun t => t.length + 1, d.fields.length)

/-- Whether a directive, which comes first in a filter, decides before another one. -/
def outweighs (d e : Directive) : Bool :=
  let (m, j) := d.weight
  let (n, k) := e.weight
  n < m || (n = m && (k < j || (k = j && e.fields.map (·.1) < d.fields.map (·.1))))

end Directive

structure LogFilter where
  directives : List Directive
  /-- The highest rank that is shown if there is no directive. -/
  otherwise : Nat

namespace LogFilter

/-- The texts of the directives of a filter. -/
def parts (text : String) : List (List Char) :=
  (text.toList.splitOn ',').filter fun cs => !cs.isEmpty

/-- A filter of which every directive must be well formed. Without any, nothing is shown. -/
def strict? (text : String) : Option LogFilter :=
  ((parts text).mapM fun cs => (Directive.ofText cs).toOption).map (⟨·, 0⟩)

/-- A filter without its directives that are not well formed. Without any, errors are shown. -/
def lenient (text : String) : LogFilter :=
  ⟨(parts text).filterMap fun cs => (Directive.ofText cs).toOption, Level.error.rank⟩

/-- What is said about the directives that are left out. -/
def complaints (text : String) : List String :=
  (parts text).filterMap fun cs =>
    match Directive.ofText cs with
    | .ok _ => none
    | .error e => some s!"ignoring `{String.ofList cs}`: {e.message}"

/-- The directive that decides about a line. -/
def decisive? (f : LogFilter) (line : LogLine) : Option Directive :=
  (f.directives.filter (·.covers line)).foldl (fun best d =>
    match best with
    | some b => if b.outweighs d then best else some d
    | none => some d) none

def shows (f : LogFilter) (line : LogLine) : Bool :=
  if f.directives.isEmpty then line.level.rank ≤ f.otherwise
  else (f.decisive? line).any fun d => line.level.rank ≤ d.rank

/-- The variable that sets a filter. -/
def variableName : String := "RUST_LOG"

/-- The filter of a variable, if it is set to one that is well formed, or else of a setting; and
what is said about it. -/
def choose (environment : List (String × String)) (setting : String) : LogFilter × List String :=
  match (environment.lookup variableName).bind strict? with
  | some f => (f, [])
  | none => (lenient setting, complaints setting)

end LogFilter
end Litmus
