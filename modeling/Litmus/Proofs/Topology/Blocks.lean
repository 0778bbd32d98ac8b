import Litmus.Topology.Cpuinfo
import Mathlib.Data.List.Basic
import Mathlib.Data.List.Chain

/-!
Blocks of a list of processors: the entries between blank lines can be cut into runs with one
processor each in one way, and these runs are the blocks.
-/
namespace Litmus.Cpuinfo

/-- The key and the value of a line that counts. -/
def Line.entry? : Line → Option (Key × Nat)
  | .entry key n => some (key, n)
  | .blank | .other => none

/-- The entries between blank lines. -/
def stretches (lines : List Line) : List (List (Key × Nat)) :=
  (lines.splitOnP (· = .blank)).map (·.filterMap Line.entry?)

/-- A stretch of entries cut into runs that are as long as they can be: a run ends where a second
processor would follow. -/
structure Division (entries : List (Key × Nat)) (runs : List (List (Key × Nat))) : Prop where
  whole : runs.flatten = entries
  nonempty : [] ∉ runs
  once : ∀ run ∈ runs, (run.map Prod.fst).count .processor ≤ 1
  maximal : runs.IsChain fun run next =>
    .processor ∈ run.map Prod.fst ∧ (next.map Prod.fst).head? = some .processor

/-- What a run gives to a key; of several values the last one counts. -/
def said (run : List (Key × Nat)) (key : Key) : Option Nat :=
  run.reverse.lookup key

/-- The runs of entries that follow an open run. -/
def divideFrom (run : List (Key × Nat)) : List (Key × Nat) → List (List (Key × Nat))
  | [] => if run = [] then [] else [run]
  | e :: rest =>
      if e.1 = .processor ∧ .processor ∈ run.map Prod.fst then run :: divideFrom [e] rest
      else divideFrom (run ++ [e]) rest

variable {entries run rest : List (Key × Nat)} {runs later : List (List (Key × Nat))}
  {lines : List Line} {e : Key × Nat} {key : Key} {n : Nat}

/-! ### One division -/

theorem Division.tail (h : Division entries (run :: later)) : Division later.flatten later where
  whole := rfl
  nonempty := fun mem => h.nonempty (List.mem_cons_of_mem run mem)
  once := fun run' mem => h.once run' (List.mem_cons_of_mem run mem)
  maximal := h.maximal.tail

/-- What follows a run begins with a second processor. -/
theorem Division.next (h : Division entries (run :: later)) (more : later.flatten = e :: rest) :
    e.1 = .processor ∧ .processor ∈ run.map Prod.fst := by
  cases later with
  | nil => simp at more
  | cons next later =>
      obtain ⟨has, begins⟩ := (List.isChain_cons_cons.1 h.maximal).1
      cases next with
      | nil => simp at begins
      | cons e' next =>
          obtain rfl : e' = e := by simpa using congrArg List.head? more
          exact ⟨by simpa using begins, has⟩

theorem count_processor_append (run rest : List (Key × Nat)) (one : .processor ∈ run.map Prod.fst)
    (two : .processor ∈ rest.map Prod.fst) :
    1 < ((run ++ rest).map Prod.fst).count .processor := by
  have := List.count_pos_iff.2 one
  have := List.count_pos_iff.2 two
  rw [List.map_append, List.count_append]
  omega

/-- A run that must end here is the first of every division. -/
theorem Division.head_eq (h : Division (run ++ e :: rest) runs)
    (once : (run.map Prod.fst).count .processor ≤ 1) (full : .processor ∈ run.map Prod.fst)
    (second : e.1 = .processor) :
    ∃ later, runs = run :: later ∧ Division (e :: rest) later := by
  cases runs with
  | nil => simpa using h.whole
  | cons first later =>
      have whole : first ++ later.flatten = run ++ e :: rest := h.whole
      obtain ⟨missing, rfl, after⟩ | ⟨extra, rfl, after⟩ := List.append_eq_append_iff.1 whole
      · cases missing with
        | nil =>
            rw [List.nil_append] at after
            exact ⟨later, by rw [List.append_nil], after ▸ h.tail⟩
        | cons e' missing =>
            obtain ⟨begins, has⟩ := h.next after
            have := count_processor_append _ (e' :: missing) has (by simp [begins])
            omega
      · cases extra with
        | nil =>
            rw [List.nil_append] at after
            exact ⟨later, by rw [List.append_nil], after ▸ h.tail⟩
        | cons e' extra =>
            obtain ⟨rfl, -⟩ := List.cons.inj after
            have := count_processor_append _ (e :: extra) full (by simp [second])
            have := h.once _ List.mem_cons_self
            omega

/-- A run that holds all entries is the only one. -/
theorem Division.singleton (h : Division run runs)
    (once : (run.map Prod.fst).count .processor ≤ 1) : runs = if run = [] then [] else [run] := by
  cases runs with
  | nil =>
      obtain rfl : [] = run := h.whole
      rfl
  | cons first later =>
      have nonempty : first ≠ [] := fun empty => h.nonempty (empty ▸ List.mem_cons_self)
      cases after : later.flatten with
      | nil =>
          have whole : first = run := by simpa [after] using h.whole
          have last : later = [] := by
            cases later with
            | nil => rfl
            | cons next later =>
                have empty : next = [] := (List.append_eq_nil_iff.1 after).1
                exact absurd (empty ▸ by simp) h.nonempty
          rw [if_neg (whole ▸ nonempty), whole, last]
      | cons e rest =>
          obtain ⟨begins, has⟩ := h.next after
          have := count_processor_append _ (e :: rest) has (by simp [begins])
          rw [← after, ← List.flatten_cons, h.whole] at this
          omega

theorem count_processor_concat (once : (run.map Prod.fst).count .processor ≤ 1)
    (room : ¬ (e.1 = .processor ∧ .processor ∈ run.map Prod.fst)) :
    ((run ++ [e]).map Prod.fst).count .processor ≤ 1 := by
  rw [List.map_append, List.count_append, List.map_singleton, List.count_singleton]
  by_cases second : e.1 = .processor
  · have := List.count_eq_zero.2 fun first => room ⟨second, first⟩
    simp [this, second]
  · simpa [second] using once

theorem Division.eq_divideFrom (run : List (Key × Nat)) (h : Division (run ++ entries) runs)
    (once : (run.map Prod.fst).count .processor ≤ 1) : runs = divideFrom run entries := by
  induction entries generalizing run runs with
  | nil => exact (run.append_nil ▸ h).singleton once
  | cons e rest ih =>
      unfold divideFrom
      split
      case isTrue full =>
        obtain ⟨later, rfl, tail⟩ := h.head_eq once full.2 full.1
        rw [ih [e] tail List.count_le_length]
      case isFalse room =>
        exact ih (run ++ [e]) (by simpa using h) (count_processor_concat once room)

theorem Division.cons (h : Division (e :: rest) later)
    (once : (run.map Prod.fst).count .processor ≤ 1) (full : .processor ∈ run.map Prod.fst)
    (second : e.1 = .processor) : Division (run ++ e :: rest) (run :: later) where
  whole := by rw [List.flatten_cons, h.whole]
  nonempty := by
    rw [List.mem_cons, not_or]
    refine ⟨?_, h.nonempty⟩
    rintro rfl
    simp at full
  once := List.forall_mem_cons.2 ⟨once, h.once⟩
  maximal := by
    refine List.isChain_cons.2 ⟨fun next first => ⟨full, ?_⟩, h.maximal⟩
    cases later with
    | nil => simp at first
    | cons next' later =>
        obtain rfl : next' = next := by simpa using first
        cases next' with
        | nil => exact absurd List.mem_cons_self h.nonempty
        | cons e' next' =>
            obtain ⟨rfl, -⟩ := List.cons.inj h.whole
            simp [second]

theorem division_divideFrom (run entries : List (Key × Nat))
    (once : (run.map Prod.fst).count .processor ≤ 1) :
    Division (run ++ entries) (divideFrom run entries) := by
  induction entries generalizing run with
  | nil =>
      unfold divideFrom
      split
      case isTrue empty =>
        subst empty
        exact ⟨rfl, by simp, by simp, .nil⟩
      case isFalse some =>
        exact ⟨by simp, by simpa using Ne.symm some, by simpa using once, .singleton run⟩
  | cons e rest ih =>
      unfold divideFrom
      split
      case isTrue full => exact (ih [e] List.count_le_length).cons once full.2 full.1
      case isFalse room => simpa using ih (run ++ [e]) (count_processor_concat once room)

/-- A stretch of entries has exactly one division. -/
theorem division_iff : Division entries runs ↔ runs = divideFrom [] entries := by
  constructor
  · exact fun h => Division.eq_divideFrom [] h (by simp)
  · rintro rfl
    exact division_divideFrom [] entries (by simp)

/-! ### Blocks are runs -/

theorem said_append {key' : Key} :
    said (run ++ [(key', n)]) key = if key = key' then some n else said run key := by
  rw [said, List.reverse_append, List.reverse_singleton, List.singleton_append, List.lookup_cons]
  by_cases same : key = key'
  · simp [same]
  · rw [if_neg same, beq_eq_false_iff_ne.2 same]
    rfl

theorem isSome_said : (said run key).isSome ↔ key ∈ run.map Prod.fst := by
  induction run using List.reverseRecOn with
  | nil => simp [said]
  | append_singleton run e ih =>
      rw [said_append, List.map_append, List.mem_append, ← ih, List.map_singleton,
        List.mem_singleton]
      by_cases same : key = e.1
      · simp [same]
      · simp [same]

/-- The block that a run describes. -/
def Block.of (run : List (Key × Nat)) : Block :=
  ⟨said run .processor, said run .package, said run .core⟩

theorem Block.set_of : (Block.of run).set n key = Block.of (run ++ [(key, n)]) := by
  cases key <;> simp [Block.of, Block.set, said_append]

/-- The block that is open after a run. -/
def Block.open? (run : List (Key × Nat)) : Option Block :=
  if run = [] then none else some (.of run)

theorem Block.getD_open? : (Block.open? run).getD {} = Block.of run := by
  unfold Block.open?
  split
  case isTrue empty =>
    subst empty
    rfl
  case isFalse => rfl

theorem Block.open?_concat : Block.open? (run ++ [e]) = some (.of (run ++ [e])) :=
  if_neg (by simp)

theorem Block.toList_open? : (Block.open? run).toList = (divideFrom run []).map Block.of := by
  unfold Block.open? divideFrom
  split <;> rfl

theorem stretches_cons (line : Line) (lines : List Line) : stretches (line :: lines) =
    if line = .blank then [] :: stretches lines
    else (stretches lines).modifyHead (line.entry?.toList ++ ·) := by
  unfold stretches
  rw [List.splitOnP_cons_eq_if_modifyHead]
  by_cases blank : line = .blank
  · simp [blank]
  · simp only [blank, decide_false, Bool.false_eq_true, if_false]
    cases stretch : lines.splitOnP (· = .blank) with
    | nil => exact absurd stretch (List.splitOnP_ne_nil _ _)
    | cons first later =>
        cases line with
        | blank => exact absurd rfl blank
        | other => rfl
        | entry key n => rfl

theorem exists_stretches (lines : List Line) :
    ∃ stretch later, stretches lines = stretch :: later := by
  refine List.exists_cons_of_ne_nil fun none => ?_
  rw [stretches, List.map_eq_nil_iff] at none
  exact List.splitOnP_ne_nil _ _ none

/-- The blocks from here on are the rest of the open run and the runs of the stretches below. -/
theorem blocksFrom_open (run : List (Key × Nat)) {stretch : List (Key × Nat)}
    (split : stretches lines = stretch :: later) :
    blocksFrom (Block.open? run) lines =
      (divideFrom run stretch ++ later.flatMap (divideFrom [])).map Block.of := by
  induction lines generalizing run stretch later with
  | nil =>
      obtain ⟨rfl, rfl⟩ : [] = stretch ∧ [] = later := by simpa [stretches] using split
      rw [blocksFrom, Block.toList_open?, List.flatMap_nil, List.append_nil]
  | cons line lines ih =>
      obtain ⟨stretch', later', below⟩ := exists_stretches lines
      rw [stretches_cons, below] at split
      cases line with
      | blank =>
          obtain ⟨rfl, rfl⟩ : [] = stretch ∧ stretch' :: later' = later := by simpa using split
          rw [blocksFrom, show none = Block.open? [] from rfl, ih [] below, Block.toList_open?,
            List.flatMap_cons, ← List.map_append]
      | other =>
          obtain ⟨rfl, rfl⟩ : stretch' = stretch ∧ later' = later := by
            simpa [Line.entry?] using split
          exact ih run below
      | entry key n =>
          obtain ⟨rfl, rfl⟩ : (key, n) :: stretch' = stretch ∧ later' = later := by
            simpa [Line.entry?] using split
          rw [blocksFrom, divideFrom, Block.getD_open?]
          simp only [show (Block.of run).processor = said run .processor from rfl, isSome_said]
          split
          case isTrue full =>
            rw [show ({} : Block) = Block.of [] from rfl, Block.set_of, ← Block.open?_concat,
              ih _ below]
            rfl
          case isFalse room => rw [Block.set_of, ← Block.open?_concat, ih _ below]

/-- The blocks of a list of processors are the runs of its stretches. -/
theorem blocks_eq (lines : List Line) :
    blocks lines = ((stretches lines).flatMap (divideFrom [])).map Block.of := by
  obtain ⟨stretch, later, split⟩ := exists_stretches lines
  rw [split, List.flatMap_cons]
  exact blocksFrom_open [] split

end Litmus.Cpuinfo
