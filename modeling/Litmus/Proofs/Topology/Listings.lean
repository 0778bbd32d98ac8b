import Litmus.Proofs.Class.Labels
import Litmus.Proofs.Topology.Blocks
import Litmus.Proofs.Topology.Lines
import Litmus.Proofs.Topology.Records

/-!
Lists of processors as descriptions of a machine: which texts give a topology, and how its packages
and cores come from the numbers in the text.
-/
namespace Litmus.Cpuinfo

open Litmus.Topology

/-- A text without malformed lines, and the runs of its entries. -/
def Listing (text : List Char) (runs : List (List (Key × Nat))) : Prop :=
  ∃ lines, List.Forall₂ Means (text.splitOn '\n') lines ∧
    ∃ parts, List.Forall₂ Division (stretches lines) parts ∧ runs = parts.flatten

/-- Every run has a processor of its own, and either all of them have a package and a core or none
has either. -/
structure Complete (runs : List (List (Key × Nat))) : Prop where
  nonempty : runs ≠ []
  places : (∀ run ∈ runs, (said run .package).isSome ∧ (said run .core).isSome) ∨
    ∀ run ∈ runs, said run .package = none ∧ said run .core = none
  processors : (runs.map (said · .processor)).Perm ((List.range runs.length).map some)

/-- Packages and cores of a topology are those of the runs, core numbers counting inside their
package. Without them each processor is a core, all in one package. -/
structure Faithful (runs : List (List (Key × Nat))) (t : Topology) : Prop where
  size : t.totalThreads = runs.length
  packages : ∀ run ∈ runs, ∀ run' ∈ runs, ∀ x x', said run .processor = some x →
    said run' .processor = some x' → ∃ p p', t.packageOf x = .ok p ∧ t.packageOf x' = .ok p' ∧
      (p = p' ↔ said run .package = said run' .package) ∧
      (p < p' ↔ ∃ m m', said run .package = some m ∧ said run' .package = some m' ∧ m < m')
  cores : ∀ run ∈ runs, ∀ run' ∈ runs, ∀ x x', said run .processor = some x →
    said run' .processor = some x' → ∃ k k', t.coreOf x = .ok k ∧ t.coreOf x' = .ok k' ∧
      (k = k' ↔ if (said run .package).isSome
        then said run .package = said run' .package ∧ said run .core = said run' .core
        else x = x')

/-- Whether a list gives places to its processors. -/
def havePlaces (runs : List (List (Key × Nat))) : Bool :=
  runs.any fun run => (said run .package).isSome || (said run .core).isSome

/-- A run that lacks nothing, in a list that has places or in one that has none. -/
def Resolves (placed : Bool) (run : List (Key × Nat)) : Prop :=
  (said run .processor).isSome ∧
    (placed = true → (said run .package).isSome ∧ (said run .core).isSome)

/-- The processor of a run that lacks nothing. -/
def Processor.of (placed : Bool) (run : List (Key × Nat)) : Processor where
  number := (said run .processor).getD 0
  package := if placed then (said run .package).getD 0 else 0
  core := if placed then (said run .core).getD 0 else (said run .processor).getD 0

variable {text : List Char} {run run' : List (Key × Nat)} {runs runs' : List (List (Key × Nat))}
  {lines : List Line} {placed : Bool} {p : Processor} {ps : List Processor} {position n : Nat}
  {reason : String} {t : Topology} {e : TopologyError}

/-! ### Runs of a text -/

theorem forall₂_division {stretches : List (List (Key × Nat))}
    {parts : List (List (List (Key × Nat)))} :
    List.Forall₂ Division stretches parts ↔ parts = stretches.map (divideFrom []) := by
  induction stretches generalizing parts with
  | nil => simp
  | cons stretch stretches ih =>
      cases parts with
      | nil => simp
      | cons part parts => simp [division_iff, ih]

theorem listing_iff : Listing text runs ↔ ∃ lines, readLines 1 (text.splitOn '\n') = .ok lines ∧
    runs = (stretches lines).flatMap (divideFrom []) := by
  simp only [Listing, readLines_eq_ok, forall₂_division, exists_eq_left, List.flatMap_def]

/-- A text has its runs in one way. -/
theorem Listing.unique (h : Listing text runs) (h' : Listing text runs') : runs = runs' := by
  obtain ⟨lines, read, rfl⟩ := listing_iff.1 h
  obtain ⟨lines', read', rfl⟩ := listing_iff.1 h'
  obtain rfl := Except.ok.inj (read.symm.trans read')
  rfl

/-! ### Processors -/

theorem Block.resolve_eq_ok : (Block.of run).resolve placed position = .ok p ↔
    Resolves placed run ∧ Processor.of placed run = p := by
  simp only [Block.resolve, Block.of, Resolves, Processor.of]
  cases said run .processor with
  | none => simp
  | some number =>
      cases placed with
      | false => simp
      | true =>
          cases said run .package with
          | none => simp
          | some package => cases said run .core <;> simp

theorem resolveFrom_eq_ok : resolveFrom placed position (runs.map Block.of) = .ok ps ↔
    (∀ run ∈ runs, Resolves placed run) ∧ runs.map (Processor.of placed) = ps := by
  induction runs generalizing position ps with
  | nil => simp [resolveFrom]
  | cons run runs ih =>
      rw [List.map_cons, resolveFrom, List.forall_mem_cons, List.map_cons]
      cases one : (Block.of run).resolve placed position with
      | error e =>
          have lacks : ¬ Resolves placed run := fun resolves => by
            simp [Block.resolve_eq_ok.2 ⟨resolves, rfl⟩] at one
          simp [lacks]
      | ok p =>
          obtain ⟨resolves, rfl⟩ := Block.resolve_eq_ok.1 one
          cases rest : resolveFrom placed (position + 1) (runs.map Block.of) with
          | error e =>
              have lacks : ¬ ∀ run ∈ runs, Resolves placed run := fun resolves => by
                simp [ih.2 ⟨resolves, rfl⟩] at rest
              simp [Except.map, lacks]
          | ok ps' =>
              obtain ⟨all, rfl⟩ := ih.1 rest
              simpa [Except.map, resolves] using fun _ => all

/-- An error of a list of blocks names what is missing. -/
theorem resolveFrom_eq_error {blocks : List Block}
    (h : resolveFrom placed position blocks = .error e) :
    ∃ number field, e = .missing number field := by
  induction blocks generalizing position with
  | nil => simp [resolveFrom] at h
  | cons b blocks ih =>
      unfold resolveFrom at h
      split at h
      case h_1 e' lacks =>
        obtain rfl := Except.error.inj h
        unfold Block.resolve at lacks
        grind
      case h_2 =>
        cases rest : resolveFrom placed (position + 1) blocks with
        | error e' =>
            rw [rest, Except.map, Except.error.injEq] at h
            exact ih (h ▸ rest)
        | ok ps => simp [rest, Except.map] at h

/-! ### Records -/

/-- The record of a processor, its core numbered among those of all packages. -/
def Processor.record (ps : List Processor) (p : Processor) : HardwareThread where
  package := p.package
  core := labelOf (ps.map fun p => (p.package, p.core)) (p.package, p.core)
  id := p.number

theorem records_eq (ps : List Processor) : records ps = ps.map (Processor.record ps) := by
  simp only [records, labels_eq_map_labelOf, List.zip, List.zipWith_map_right, List.zipWith_self,
    List.map_map]
  rfl

theorem core_record_eq_iff {q : Processor} (hp : p ∈ ps) :
    (p.record ps).core = (q.record ps).core ↔ p.package = q.package ∧ p.core = q.core := by
  rw [Processor.record, Processor.record, labelOf_inj (List.mem_map_of_mem hp), Prod.mk.injEq]

theorem records_coherent (ps : List Processor) :
    ∀ a ∈ records ps, ∀ b ∈ records ps, a.core = b.core → a.package = b.package := by
  simp only [records_eq, List.forall_mem_map]
  exact fun p hp q _ same => ((core_record_eq_iff hp).1 same).1

theorem describes_records : Describes (records ps) ↔
    ps ≠ [] ∧ (ps.map (·.number)).Perm (List.range ps.length) := by
  have ids : (records ps).map (·.id) = ps.map (·.number) := by
    rw [records_eq, List.map_map]
    rfl
  have size : (records ps).length = ps.length := by rw [records_eq, List.length_map]
  constructor
  · intro h
    refine ⟨fun none => h.nonempty (by rw [none]; rfl), ?_⟩
    exact ids ▸ size ▸ h.ids
  · intro ⟨nonempty, perm⟩
    refine ⟨fun none => nonempty ?_, ?_, records_coherent ps⟩
    · rw [← List.length_eq_zero_iff, ← size, none, List.length_nil]
    · rwa [ids, size]

/-! ### The topology of a listing -/

theorem topology_of_listing (listing : Listing text runs) : topology text =
    if runs.isEmpty then .error .empty
    else match resolveFrom (havePlaces runs) 0 (runs.map Block.of) with
      | .error e => .error e
      | .ok ps => build .cpuinfo (records ps) := by
  obtain ⟨lines, read, rfl⟩ := listing_iff.1 listing
  simp only [topology, read, blocks_eq, List.isEmpty_map, List.any_map]
  rfl

theorem havePlaces_eq_false : havePlaces runs = false ↔
    ∀ run ∈ runs, said run .package = none ∧ said run .core = none := by
  simp [havePlaces]

theorem processors_perm_iff :
    (runs.map (said · .processor)).Perm ((List.range runs.length).map some) ↔
    (∀ run ∈ runs, (said run .processor).isSome) ∧
      (runs.map fun run => (said run .processor).getD 0).Perm (List.range runs.length) := by
  constructor
  · intro perm
    refine ⟨fun run mem => ?_, ?_⟩
    · obtain ⟨n, -, found⟩ := List.mem_map.1 (perm.mem_iff.1 (List.mem_map_of_mem mem))
      exact Option.isSome_iff_exists.2 ⟨n, found.symm⟩
    · simpa [List.map_map, Function.comp_def] using perm.map (·.getD 0)
  · intro ⟨all, perm⟩
    have numbers : runs.map (said · .processor) =
        (runs.map fun run => (said run .processor).getD 0).map some := by
      rw [List.map_map]
      refine List.map_congr_left fun run mem => ?_
      obtain ⟨n, found⟩ := Option.isSome_iff_exists.1 (all run mem)
      simp [found]
    exact numbers ▸ perm.map some

/-- Runs are complete exactly if none lacks anything and their records describe a machine. -/
theorem complete_iff : Complete runs ↔ (∀ run ∈ runs, Resolves (havePlaces runs) run) ∧
    Describes (records (runs.map (Processor.of (havePlaces runs)))) := by
  have numbers : (runs.map (Processor.of (havePlaces runs))).map (·.number) =
      runs.map fun run => (said run .processor).getD 0 := by
    rw [List.map_map]
    rfl
  rw [describes_records, numbers, List.length_map]
  constructor
  · intro ⟨nonempty, places, processors⟩
    obtain ⟨all, perm⟩ := processors_perm_iff.1 processors
    refine ⟨fun run mem => ⟨all run mem, fun placed => ?_⟩, by simpa using nonempty, perm⟩
    cases places with
    | inl both => exact both run mem
    | inr neither => simp [havePlaces_eq_false.2 neither] at placed
  · intro ⟨resolves, nonempty, perm⟩
    have numbered := processors_perm_iff.2 ⟨fun run mem => (resolves run mem).1, perm⟩
    refine ⟨by simpa using nonempty, ?_, numbered⟩
    cases placed : havePlaces runs with
    | false => exact .inr (havePlaces_eq_false.1 placed)
    | true => exact .inl fun run mem => (resolves run mem).2 placed

theorem topology_eq_ok : topology text = .ok t ↔ ∃ runs, Listing text runs ∧ Complete runs ∧
    build .cpuinfo (records (runs.map (Processor.of (havePlaces runs)))) = .ok t := by
  constructor
  · intro h
    cases read : readLines 1 (text.splitOn '\n') with
    | error e => simp [topology, read] at h
    | ok lines =>
        have listing := listing_iff.2 ⟨lines, read, rfl⟩
        rw [topology_of_listing listing] at h
        split at h
        case isTrue => simp at h
        case isFalse =>
          split at h
          case h_1 => simp at h
          case h_2 ps resolved =>
            obtain ⟨resolves, rfl⟩ := resolveFrom_eq_ok.1 resolved
            exact ⟨_, listing, complete_iff.2 ⟨resolves, (build_eq_ok_iff.1 h).1⟩, h⟩
  · intro ⟨runs, listing, complete, built⟩
    have resolved : resolveFrom (havePlaces runs) 0 (runs.map Block.of) = .ok _ :=
      resolveFrom_eq_ok.2 ⟨(complete_iff.1 complete).1, rfl⟩
    rw [topology_of_listing listing, if_neg (by simpa using complete.nonempty), resolved]
    exact built

/-! ### Packages and cores -/

/-- In a complete list a run has both a package and a core, or the list has no places. -/
theorem Complete.places_of (h : Complete runs) (mem : run ∈ runs) :
    (havePlaces runs = true ∧ ∃ m c, said run .package = some m ∧ said run .core = some c) ∨
      (havePlaces runs = false ∧ said run .package = none ∧ said run .core = none) := by
  cases placed : havePlaces runs with
  | false => exact .inr ⟨rfl, havePlaces_eq_false.1 placed run mem⟩
  | true =>
      obtain ⟨package, core⟩ := ((complete_iff.1 h).1 run mem).2 placed
      obtain ⟨m, package⟩ := Option.isSome_iff_exists.1 package
      obtain ⟨c, core⟩ := Option.isSome_iff_exists.1 core
      exact .inl ⟨rfl, m, c, package, core⟩

theorem Complete.compare (h : Complete runs) (mem : run ∈ runs) (mem' : run' ∈ runs) {x x' : Nat}
    (number : said run .processor = some x) (number' : said run' .processor = some x') :
    let p := Processor.of (havePlaces runs) run
    let p' := Processor.of (havePlaces runs) run'
    (p.package = p'.package ↔ said run .package = said run' .package) ∧
      (p.package < p'.package ↔
        ∃ m m', said run .package = some m ∧ said run' .package = some m' ∧ m < m') ∧
      (p.package = p'.package ∧ p.core = p'.core ↔ if (said run .package).isSome
        then said run .package = said run' .package ∧ said run .core = said run' .core
        else x = x') := by
  rcases h.places_of mem with ⟨placed, m, c, package, core⟩ | ⟨placed, package, core⟩ <;>
  rcases h.places_of mem' with ⟨placed', m', c', package', core'⟩ | ⟨placed', package', core'⟩
  · simp [Processor.of, placed, package, core, package', core']
  · simp [placed] at placed'
  · simp [placed] at placed'
  · simp [Processor.of, placed, package, package', number, number']

theorem faithful_of_build (complete : Complete runs)
    (h : build .cpuinfo (records (runs.map (Processor.of (havePlaces runs)))) = .ok t) :
    Faithful runs t := by
  have represents := represents_of_build h
  have record_mem (run) (mem : run ∈ runs) :=
    List.mem_map_of_mem (f := Processor.record (runs.map (Processor.of (havePlaces runs))))
      (List.mem_map_of_mem (f := Processor.of (havePlaces runs)) mem)
  rw [records_eq] at represents
  refine ⟨by simpa using represents.size, ?_, ?_⟩
  · intro run mem run' mem' x x' number number'
    obtain ⟨p, p', hp, hp', same, below⟩ :=
      represents.packages.compare (record_mem run mem) (record_mem run' mem')
    obtain ⟨package, order, -⟩ := complete.compare mem mem' number number'
    refine ⟨p, p', ?_, ?_, same.trans package, below.trans order⟩
    · simpa [Processor.record, Processor.of, number] using hp
    · simpa [Processor.record, Processor.of, number'] using hp'
  · intro run mem run' mem' x x' number number'
    obtain ⟨k, k', hk, hk', same, -⟩ :=
      represents.cores.compare (record_mem run mem) (record_mem run' mem')
    obtain ⟨-, -, place⟩ := complete.compare mem mem' number number'
    refine ⟨k, k', ?_, ?_, same.trans ((core_record_eq_iff (List.mem_map_of_mem mem)).trans place)⟩
    · simpa [Processor.record, Processor.of, number] using hk
    · simpa [Processor.record, Processor.of, number'] using hk'

/-! ### Errors -/

theorem topology_eq_error_of_listing (listing : Listing text runs) (h : topology text = .error e) :
    (∀ n reason, e ≠ .malformed n reason) ∧
      ∀ core first second, e ≠ .spanning core first second := by
  rw [topology_of_listing listing] at h
  split at h
  case isTrue =>
    obtain rfl := Except.error.inj h
    simp
  case isFalse =>
    split at h
    case h_1 e' lacks =>
      obtain rfl := Except.error.inj h
      obtain ⟨number, field, rfl⟩ := resolveFrom_eq_error lacks
      simp
    case h_2 ps _ =>
      rcases build_eq_error h with rfl | ⟨id, rfl⟩ | ⟨expected, found, rfl⟩ | ⟨_, _, _, -, spans⟩
      · simp
      · simp
      · simp
      · exact absurd (records_coherent ps) spans

/-- A text is a listing, or its first malformed line is the error. -/
theorem listing_or_malformed (text : List Char) : (∃ runs, Listing text runs) ∨
    ∃ n reason, FirstOffence (text.splitOn '\n') n reason ∧
      topology text = .error (.malformed (n + 1) reason) := by
  cases read : readLines 1 (text.splitOn '\n') with
  | ok lines => exact .inl ⟨_, listing_iff.2 ⟨lines, read, rfl⟩⟩
  | error e =>
      obtain ⟨n, reason, first, rfl⟩ := readLines_eq_error.1 read
      exact .inr ⟨n, reason, first, by simp only [topology, read, Nat.add_comm]⟩

theorem topology_ne_spanning {core first second : Nat} :
    topology text ≠ .error (.spanning core first second) := by
  intro h
  rcases listing_or_malformed text with ⟨runs, listing⟩ | ⟨n, reason, -, malformed⟩
  · exact (topology_eq_error_of_listing listing h).2 core first second rfl
  · simp [malformed] at h

theorem topology_eq_malformed : topology text = .error (.malformed n reason) ↔
    ∃ i, n = i + 1 ∧ FirstOffence (text.splitOn '\n') i reason := by
  constructor
  · intro h
    rcases listing_or_malformed text with ⟨runs, listing⟩ | ⟨i, reason', first, malformed⟩
    · exact absurd rfl ((topology_eq_error_of_listing listing h).1 n reason)
    · obtain ⟨rfl, rfl⟩ : i + 1 = n ∧ reason' = reason := by simpa [malformed] using h
      exact ⟨i, rfl, first⟩
  · intro ⟨i, heq, first⟩
    have read : readLines 1 (text.splitOn '\n') = .error (.malformed (1 + i) reason) :=
      readLines_eq_error.2 ⟨i, reason, first, rfl⟩
    simp only [topology, read, heq, Nat.add_comm]

/-- A text gives a topology exactly if its lines are well formed and its runs are complete; the
topology then has the packages and cores of the runs. No core lies in two packages, and a malformed
line is the first one, counted from one. -/
theorem topology_faithful (text : List Char) :
    ((∃ t, topology text = .ok t) ↔ ∃ runs, Listing text runs ∧ Complete runs) ∧
      (∀ t runs, topology text = .ok t → Listing text runs → Faithful runs t) ∧
      (∀ core first second, topology text ≠ .error (.spanning core first second)) ∧
      ∀ n reason, topology text = .error (.malformed n reason) ↔
        ∃ i, n = i + 1 ∧ FirstOffence (text.splitOn '\n') i reason := by
  refine ⟨⟨?_, ?_⟩, ?_, fun _ _ _ => topology_ne_spanning, fun _ _ => topology_eq_malformed⟩
  · intro ⟨t, h⟩
    obtain ⟨runs, listing, complete, -⟩ := topology_eq_ok.1 h
    exact ⟨runs, listing, complete⟩
  · intro ⟨runs, listing, complete⟩
    have described := (complete_iff.1 complete).2
    exact ⟨_, topology_eq_ok.2 ⟨runs, listing, complete, build_eq_ok_iff.2 ⟨described, rfl⟩⟩⟩
  · intro t runs h listing
    obtain ⟨runs', listing', complete, built⟩ := topology_eq_ok.1 h
    obtain rfl := listing.unique listing'
    exact faithful_of_build complete built

end Litmus.Cpuinfo
