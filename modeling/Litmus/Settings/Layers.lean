import Litmus.Settings.Place

/-!
The layers of settings: built-in defaults, then a file, then the environment. The file and the
environment are first laid over each other and then over the defaults. A later layer overrides an
earlier one entry by entry, so a table keeps the entries that the later table does not name.
-/
namespace Litmus.Layers

/-- The place that a key of a layer names. A key that is no place names an entry of its own. -/
def place (key : String) : Place := (Place.ofText? key).getD [.entry key]

/-- The tree with every entry of a layer put at its place. -/
def cover (root : Value) (layer : Value.Entries) : Except Fault Value :=
  layer.foldlM (fun root (key, v) => (place key).assign v root) root

/-- The defaults with all layers over them. -/
def apply (defaults : Value) (layers : List Value.Entries) : Except Fault Value := do
  let given ← layers.foldlM cover (.table [])
  cover defaults given.entries

/-! ### The environment -/

/-- What the names of variables that count start with, in any case. -/
def variableStart : List Char := "stress__".toList

/-- Two underscores separate the names of a path. -/
def separate : List Char → List Char
  | [] => []
  | '_' :: '_' :: rest => '.' :: separate rest
  | c :: rest => c :: separate rest

/-- A variable holds a truth value in any case, else an integer, else a number, else text. -/
def variableValue (s : String) : Value :=
  let cs := s.toList
  let low := Binary.lower cs
  if low = "true".toList then .boolean true
  else if low = "false".toList then .boolean false
  else
    match Text.integer? cs with
    | some i => .integer i
    | none =>
        match Binary.ofText? cs with
        | some x => .float x
        | none => .text s

/-- The entry that a variable adds, if its name counts. -/
def entryOf? (v : String × String) : Option (String × Value) :=
  let name := Binary.lower v.1.toList
  if variableStart.isPrefixOf name then
    some (String.ofList (separate (name.drop variableStart.length)), variableValue v.2)
  else none

def ofEnvironment (environment : List (String × String)) : Value.Entries :=
  environment.filterMap entryOf?

end Litmus.Layers
