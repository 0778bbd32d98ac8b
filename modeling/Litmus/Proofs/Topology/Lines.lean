import Litmus.Topology.Cpuinfo
import Mathlib.Data.List.Forall2

/-!
Lines of a list of processors: what a line says, when it is malformed, and that reading lines finds
the first one that is.
-/
namespace Litmus

namespace Text

/-- The number that a row of digits stands for. -/
def decimal (ds : List Char) : Nat :=
  ds.foldl (fun n d => n * 10 + (d.toNat - 48)) 0

/-- At least one digit, perhaps after a plus sign, and a number that is a count. -/
def Numeral (cs : List Char) (n : Nat) : Prop :=
  ∃ ds, (cs = ds ∨ cs = '+' :: ds) ∧ ds ≠ [] ∧ (∀ d ∈ ds, '0' ≤ d ∧ d ≤ '9') ∧
    decimal ds = n ∧ n < Word.bound

variable {cs : List Char} {c : Char} {n d acc : Nat}

theorem digit?_eq_some : digit? 10 c = some d ↔ ('0' ≤ c ∧ c ≤ '9') ∧ d = c.toNat - 48 := by
  have order {a b : Char} : a ≤ b ↔ a.toNat ≤ b.toNat := UInt32.le_iff_toNat_le
  simp only [digit?, order, Option.filter_eq_some_iff, decide_eq_true_eq]
  have low : '0'.toNat = 48 := rfl
  have high : '9'.toNat = 57 := rfl
  have a : 'a'.toNat = 97 := rfl
  have f : 'f'.toNat = 102 := rfl
  have A : 'A'.toNat = 65 := rfl
  have F : 'F'.toNat = 70 := rfl
  split
  · simp; omega
  · split
    · simp; omega
    · split
      · simp; omega
      · simp; omega

theorem digitsFrom?_eq_some : digitsFrom? 10 acc cs = some n ↔
    (∀ d ∈ cs, '0' ≤ d ∧ d ≤ '9') ∧ cs.foldl (fun n d => n * 10 + (d.toNat - 48)) acc = n := by
  induction cs generalizing acc with
  | nil => simp [digitsFrom?]
  | cons c cs ih =>
      simp only [digitsFrom?, Option.bind_eq_some_iff, digit?_eq_some, ih, List.forall_mem_cons,
        List.foldl_cons]
      constructor
      · intro ⟨_, ⟨digit, rfl⟩, rest, value⟩
        exact ⟨⟨digit, rest⟩, value⟩
      · intro ⟨⟨digit, rest⟩, value⟩
        exact ⟨_, ⟨digit, rfl⟩, rest, value⟩

theorem digits?_eq_some : digits? 10 cs = some n ↔
    cs ≠ [] ∧ (∀ d ∈ cs, '0' ≤ d ∧ d ≤ '9') ∧ decimal cs = n := by
  cases cs with
  | nil => simp [digits?]
  | cons c cs => simp [digits?, digitsFrom?_eq_some, decimal]

theorem count?_eq_some : count? cs = some n ↔ Numeral cs n := by
  -- No digit is a plus sign.
  have plus (rest : List Char) : ¬ ∀ d ∈ '+' :: rest, '0' ≤ d ∧ d ≤ '9' :=
    fun digits => absurd (digits '+' List.mem_cons_self) (by decide)
  simp only [count?, Option.filter_eq_some_iff, decide_eq_true_eq]
  split
  case h_1 rest =>
    rw [digits?_eq_some]
    constructor
    · intro ⟨⟨written, digits, value⟩, small⟩
      exact ⟨rest, .inr rfl, written, digits, value, small⟩
    · intro ⟨ds, shape, written, digits, value, small⟩
      cases shape with
      | inl shape => exact absurd (shape ▸ digits) (plus rest)
      | inr shape =>
          obtain rfl := (List.cons.inj shape).2
          exact ⟨⟨written, digits, value⟩, small⟩
  case h_2 unsigned =>
    rw [digits?_eq_some]
    constructor
    · intro ⟨⟨written, digits, value⟩, small⟩
      exact ⟨cs, .inl rfl, written, digits, value, small⟩
    · intro ⟨ds, shape, written, digits, value, small⟩
      cases shape with
      | inl shape => exact ⟨⟨shape ▸ written, shape ▸ digits, shape ▸ value⟩, small⟩
      | inr shape => exact absurd shape (unsigned ds)

end Text

namespace Cpuinfo

open Text

variable {raw value : List Char} {raws : List (List Char)} {key : Key} {line : Line}
  {lines : List Line} {reason : String} {n number : Nat} {e : TopologyError}

/-! ### One line -/

theorem Key.ofName?_eq_some {name : List Char} :
    Key.ofName? name = some key ↔ key.name.toList = name := by
  constructor
  · intro found
    simpa using List.find?_some found
  · intro same
    subst same
    cases key with
    | processor => rfl
    | package => rfl
    | core => rfl

/-- A line that gives a value to a key that counts: what stands before and after its first
colon. -/
def Gives (raw : List Char) (key : Key) (value : List Char) : Prop :=
  ∃ before after, trim raw = before ++ ':' :: after ∧ ':' ∉ before ∧
    trim before = key.name.toList ∧ trim after = value

inductive Means (raw : List Char) : Line → Prop where
  | blank (empty : trim raw = []) : Means raw .blank
  | other (colon : ':' ∈ trim raw) (silent : ∀ key value, ¬ Gives raw key value) : Means raw .other
  | entry {value : List Char} {key : Key} {n : Nat} (gives : Gives raw key value)
      (numeral : Numeral value n) : Means raw (.entry key n)

/-- Why a line is malformed. -/
inductive Offends (raw : List Char) : String → Prop where
  | noColon (text : trim raw ≠ []) (missing : ':' ∉ trim raw) :
      Offends raw s!"expected `key : value`, got `{String.ofList (trim raw)}`"
  | noNumeral {value : List Char} {key : Key} (gives : Gives raw key value)
      (unread : ∀ n, ¬ Numeral value n) :
      Offends raw s!"`{key.name}` is not a number: `{String.ofList value}`"

/-- A line has at most one first colon. -/
theorem split_iff {cs before after : List Char} :
    cs = before ++ ':' :: after ∧ ':' ∉ before ↔
      ':' ∈ cs ∧ before = cs.takeWhile (· ≠ ':') ∧ after = (cs.dropWhile (· ≠ ':')).drop 1 := by
  induction cs generalizing before with
  | nil => simp
  | cons c cs ih =>
      by_cases colon : c = ':'
      · subst colon
        cases before with
        | nil => simp [eq_comm]
        | cons b before => simp +contextual [eq_comm]
      · cases before with
        | nil => simp [colon]
        | cons b before =>
            simp only [List.cons_append, List.cons.injEq, List.mem_cons, Ne.symm colon, false_or,
              List.takeWhile_cons, List.dropWhile_cons, decide_eq_true colon, if_true, ne_eq,
              not_or, ← and_assoc] at ih ⊢
            grind

theorem gives_iff : Gives raw key value ↔ ':' ∈ trim raw ∧
    Key.ofName? (trim ((trim raw).takeWhile (· ≠ ':'))) = some key ∧
      trim (((trim raw).dropWhile (· ≠ ':')).drop 1) = value := by
  rw [Key.ofName?_eq_some]
  constructor
  · intro ⟨before, after, text, first, name, rest⟩
    obtain ⟨colon, rfl, rfl⟩ := split_iff.1 ⟨text, first⟩
    exact ⟨colon, name.symm, rest⟩
  · intro ⟨colon, name, rest⟩
    obtain ⟨text, first⟩ := split_iff.2 ⟨colon, rfl, rfl⟩
    exact ⟨_, _, text, first, name.symm, rest⟩

theorem Line.read_of_means (means : Means raw line) : Line.read raw = .ok line := by
  cases means with
  | blank empty => simp [Line.read, empty]
  | other colon silent =>
      have text : (trim raw).isEmpty = false := by
        simpa using List.ne_nil_of_mem colon
      cases name : Key.ofName? (trim ((trim raw).takeWhile (· ≠ ':'))) with
      | none => simp only [Line.read, text, colon, name]; simp
      | some key => exact absurd (gives_iff.2 ⟨colon, name, rfl⟩) (silent key _)
  | entry gives numeral =>
      obtain ⟨colon, name, rfl⟩ := gives_iff.1 gives
      have text : (trim raw).isEmpty = false := by
        simpa using List.ne_nil_of_mem colon
      simp only [Line.read, text, colon, name, count?_eq_some.2 numeral]; simp

theorem Line.read_of_offends (offends : Offends raw reason) : Line.read raw = .error reason := by
  cases offends with
  | noColon text missing => simp [Line.read, text, missing]
  | noNumeral gives unread =>
      obtain ⟨colon, name, rfl⟩ := gives_iff.1 gives
      have text : (trim raw).isEmpty = false := by
        simpa using List.ne_nil_of_mem colon
      have unread : count? (trim (((trim raw).dropWhile (· ≠ ':')).drop 1)) = none :=
        Option.eq_none_iff_forall_ne_some.2 fun n found => unread n (count?_eq_some.1 found)
      simp only [Line.read, text, colon, name, unread]; simp

theorem means_or_offends (raw : List Char) :
    (∃ line, Means raw line) ∨ ∃ reason, Offends raw reason := by
  by_cases text : trim raw = []
  · exact .inl ⟨_, .blank text⟩
  by_cases colon : ':' ∈ trim raw
  · by_cases silent : ∀ key value, ¬ Gives raw key value
    · exact .inl ⟨_, .other colon silent⟩
    · simp only [not_forall, not_not] at silent
      obtain ⟨key, value, gives⟩ := silent
      by_cases numeral : ∃ n, Numeral value n
      · obtain ⟨n, numeral⟩ := numeral
        exact .inl ⟨_, .entry gives numeral⟩
      · exact .inr ⟨_, .noNumeral gives (not_exists.1 numeral)⟩
  · exact .inr ⟨_, .noColon text colon⟩

theorem Line.read_eq_ok : Line.read raw = .ok line ↔ Means raw line := by
  refine ⟨fun read => ?_, read_of_means⟩
  cases means_or_offends raw with
  | inl means =>
      obtain ⟨line', means⟩ := means
      rw [read_of_means means] at read
      exact Except.ok.inj read ▸ means
  | inr offends =>
      obtain ⟨reason, offends⟩ := offends
      simp [read_of_offends offends] at read

theorem Line.read_eq_error : Line.read raw = .error reason ↔ Offends raw reason := by
  refine ⟨fun read => ?_, read_of_offends⟩
  cases means_or_offends raw with
  | inl means =>
      obtain ⟨line, means⟩ := means
      simp [read_of_means means] at read
  | inr offends =>
      obtain ⟨reason', offends⟩ := offends
      rw [read_of_offends offends] at read
      exact Except.error.inj read ▸ offends

/-! ### All lines -/

/-- The first malformed line, counted from zero, and what is wrong with it. -/
def FirstOffence (raws : List (List Char)) (n : Nat) (reason : String) : Prop :=
  ∃ raw, raws[n]? = some raw ∧ Offends raw reason ∧ ∀ fine ∈ raws.take n, ∃ line, Means fine line

theorem firstOffence_zero : FirstOffence (raw :: raws) 0 reason ↔ Offends raw reason := by
  simp [FirstOffence]

theorem firstOffence_succ : FirstOffence (raw :: raws) (n + 1) reason ↔
    (∃ line, Means raw line) ∧ FirstOffence raws n reason := by
  simp only [FirstOffence, List.getElem?_cons_succ, List.take_succ_cons, List.forall_mem_cons]
  grind

theorem readLines_eq_ok : readLines number raws = .ok lines ↔ List.Forall₂ Means raws lines := by
  induction raws generalizing number lines with
  | nil => simp [readLines, List.forall₂_nil_left_iff, eq_comm]
  | cons raw raws ih =>
      rw [List.forall₂_cons_left_iff, readLines]
      cases read : Line.read raw with
      | error reason =>
          simp only [reduceCtorEq, false_iff]
          intro ⟨line, _, means, _⟩
          simp [Line.read_of_means means] at read
      | ok line =>
          have means := Line.read_eq_ok.1 read
          constructor
          · intro result
            cases rest : readLines (number + 1) raws with
            | error e => simp [rest, Except.map] at result
            | ok rest' =>
                simp only [rest, Except.map, Except.ok.injEq] at result
                exact ⟨line, rest', means, ih.1 rest, result.symm⟩
          · intro ⟨line', rest, means', result, heq⟩
            rw [Line.read_of_means means', Except.ok.injEq] at read
            rw [ih.2 result, heq, ← read]
            rfl

theorem readLines_eq_error : readLines number raws = .error e ↔
    ∃ n reason, FirstOffence raws n reason ∧ e = .malformed (number + n) reason := by
  induction raws generalizing number with
  | nil => simp [readLines, FirstOffence]
  | cons raw raws ih =>
      rw [readLines]
      cases read : Line.read raw with
      | error reason =>
          have offends := Line.read_eq_error.1 read
          constructor
          · intro result
            exact ⟨0, reason, firstOffence_zero.2 offends, (Except.error.inj result).symm⟩
          · intro ⟨n, reason', first, heq⟩
            cases n with
            | zero =>
                rw [Line.read_of_offends (firstOffence_zero.1 first), Except.error.injEq] at read
                rw [heq, read]
                rfl
            | succ n =>
                obtain ⟨line, means⟩ := (firstOffence_succ.1 first).1
                simp [Line.read_of_means means] at read
      | ok line =>
          have means := Line.read_eq_ok.1 read
          have later : (readLines (number + 1) raws).map (line :: ·) = .error e ↔
              readLines (number + 1) raws = .error e := by
            cases readLines (number + 1) raws with
            | error e' => simp [Except.map]
            | ok rest => simp [Except.map]
          rw [later, ih]
          constructor
          · intro ⟨n, reason, first, heq⟩
            refine ⟨n + 1, reason, firstOffence_succ.2 ⟨⟨line, means⟩, first⟩, ?_⟩
            rw [heq, Nat.add_right_comm, Nat.add_assoc]
          · intro ⟨n, reason, first, heq⟩
            cases n with
            | zero => simp [Line.read_of_offends (firstOffence_zero.1 first)] at read
            | succ n =>
                refine ⟨n, reason, (firstOffence_succ.1 first).2, ?_⟩
                rw [heq, Nat.add_right_comm, Nat.add_assoc]

end Cpuinfo
end Litmus
