import Litmus.Labels
import Litmus.Text.Blank
import Litmus.Text.Numeral
import Litmus.Topology.Basic

/-!
The text in which a system lists its processors. A line is `key : value`; three keys count, and
each processor is a block of such lines. Blocks are separated by blank lines, and a second
processor number starts a block of its own.
-/
namespace Litmus.Cpuinfo

open Text

/-- A key that counts. -/
inductive Key where
  | processor | package | core
deriving DecidableEq, Repr

def Key.name : Key → String
  | .processor => "processor"
  | .package => "physical id"
  | .core => "core id"

def Key.ofName? (name : List Char) : Option Key :=
  [Key.processor, Key.package, Key.core].find? fun k => k.name.toList = name

/-- What a line says. -/
inductive Line where
  | blank
  /-- A line whose key does not count. -/
  | other
  | entry (key : Key) (value : Nat)
deriving DecidableEq, Repr

/-- Reads one line; an error is the reason for which it is malformed. -/
def Line.read (raw : List Char) : Except String Line :=
  let line := trim raw
  if line.isEmpty then .ok .blank
  else if ':' ∉ line then
    .error s!"expected `key : value`, got `{String.ofList line}`"
  else
    match Key.ofName? (trim (line.takeWhile (· ≠ ':'))) with
    | none => .ok .other
    | some key =>
        let value := trim ((line.dropWhile (· ≠ ':')).drop 1)
        match count? value with
        | some n => .ok (.entry key n)
        | none =>
            .error s!"`{key.name}` is not a number: `{String.ofList value}`"

/-- Reads lines in order, counting from `number`, up to the first malformed one. -/
def readLines (number : Nat) : List (List Char) → Except TopologyError (List Line)
  | [] => .ok []
  | raw :: rest =>
      match Line.read raw with
      | .error reason => .error (.malformed number reason)
      | .ok line => (readLines (number + 1) rest).map (line :: ·)

/-- What the lines of one processor say; a later line overrides an earlier one. -/
structure Block where
  processor : Option Nat := none
  package : Option Nat := none
  core : Option Nat := none
deriving DecidableEq, Repr

def Block.set (b : Block) (value : Nat) : Key → Block
  | .processor => { b with processor := some value }
  | .package => { b with package := some value }
  | .core => { b with core := some value }

/-- Groups lines into blocks; `current` is the block that is open. -/
def blocksFrom (current : Option Block) : List Line → List Block
  | [] => current.toList
  | .blank :: rest => current.toList ++ blocksFrom none rest
  | .other :: rest => blocksFrom current rest
  | .entry key value :: rest =>
      let b := current.getD {}
      if key = .processor ∧ b.processor.isSome then
        b :: blocksFrom (some (({} : Block).set value key)) rest
      else blocksFrom (some (b.set value key)) rest

def blocks (lines : List Line) : List Block :=
  blocksFrom none lines

/-- A processor with its package and the number of its core in that package. -/
structure Processor where
  number : Nat
  package : Nat
  core : Nat
deriving DecidableEq, Repr

/-- Where no block has a package or a core, every processor is a core of its own. -/
def Block.resolve (placed : Bool) (position : Nat) (b : Block) :
    Except TopologyError Processor :=
  match b.processor with
  | none => .error (.missing position Key.processor.name)
  | some number =>
      if placed then
        match b.package, b.core with
        | none, _ => .error (.missing number Key.package.name)
        | some _, none => .error (.missing number Key.core.name)
        | some package, some core => .ok ⟨number, package, core⟩
      else .ok ⟨number, 0, number⟩

/-- The first block that lacks a field decides the error. -/
def resolveFrom (placed : Bool) (position : Nat) :
    List Block → Except TopologyError (List Processor)
  | [] => .ok []
  | b :: rest =>
      match b.resolve placed position with
      | .error e => .error e
      | .ok p => (resolveFrom placed (position + 1) rest).map (p :: ·)

/-- Core numbers count only inside their package: cores of the machine are numbered by the first
appearance of package and core. -/
def records (processors : List Processor) : List HardwareThread :=
  let cores := labels (processors.map fun p => (p.package, p.core))
  (processors.zip cores).map fun (p, core) => ⟨p.package, core, p.number⟩

def topology (text : List Char) : Except TopologyError Topology :=
  match readLines 1 (text.splitOn '\n') with
  | .error e => .error e
  | .ok lines =>
      let bs := blocks lines
      if bs.isEmpty then .error .empty
      else
        let placed := bs.any fun b => b.package.isSome || b.core.isSome
        match resolveFrom placed 0 bs with
        | .error e => .error e
        | .ok processors => Topology.build .cpuinfo (records processors)

/-- The topology in a file, given its bytes or the reason for which it cannot be read. -/
def ofFile (path : String) (contents : Except String ByteArray) :
    Except TopologyError Topology :=
  match contents with
  | .error reason => .error (.unreadable s!"{path}: {reason}")
  | .ok bytes =>
      match String.fromUTF8? bytes with
      | none => .error (.unreadable s!"{path}: stream did not contain valid UTF-8")
      | some text => topology text.toList

end Litmus.Cpuinfo
