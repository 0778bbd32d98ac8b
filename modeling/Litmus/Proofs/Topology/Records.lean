import Litmus.Proofs.Topology.Build
import Mathlib.Data.List.Basic
import Mathlib.Data.List.Nodup
import Mathlib.Data.List.Sort

/-!
Descriptions by records: which lists of records give a topology, and how its numbers come from
theirs. The order of the records does not count, not even for the error of a list that gives none.
-/
namespace Litmus.Topology

/-- Records that describe a machine. -/
structure Describes (raw : List HardwareThread) : Prop where
  nonempty : raw ≠ []
  ids : (raw.map (·.id)).Perm (List.range raw.length)
  coherent : ∀ a ∈ raw, ∀ b ∈ raw, a.core = b.core → a.package = b.package

def inIdOrder (raw : List HardwareThread) : List HardwareThread :=
  raw.mergeSort fun a b => a.id ≤ b.id

variable {raw raw' ths ths' : List HardwareThread} {origin : Origin} {t : Topology}

/-! ### The order of records -/

theorem inIdOrder_perm (raw : List HardwareThread) : (inIdOrder raw).Perm raw :=
  List.mergeSort_perm _ _

theorem inIdOrder_sorted (raw : List HardwareThread) :
    (inIdOrder raw).Pairwise fun a b => a.id ≤ b.id := by
  refine (List.pairwise_mergeSort ?_ ?_ raw).imp fun h => of_decide_eq_true h
  · simp only [decide_eq_true_eq]
    exact fun _ _ _ => Nat.le_trans
  · simp only [Bool.or_eq_true, decide_eq_true_eq]
    exact fun _ _ => Nat.le_total _ _

theorem map_id_inIdOrder_sorted (raw : List HardwareThread) :
    ((inIdOrder raw).map (·.id)).Pairwise (· ≤ ·) :=
  List.pairwise_map.2 (inIdOrder_sorted raw)

/-- Ids in ascending order are a matter of which ids there are. -/
theorem map_id_inIdOrder_congr (h : raw.Perm raw') :
    (inIdOrder raw).map (·.id) = (inIdOrder raw').map (·.id) := by
  have same : (inIdOrder raw).Perm (inIdOrder raw') :=
    (inIdOrder_perm raw).trans (h.trans (inIdOrder_perm raw').symm)
  exact List.Perm.eq_of_pairwise (fun _ _ _ _ => Nat.le_antisymm) (map_id_inIdOrder_sorted raw)
    (map_id_inIdOrder_sorted raw') (same.map _)

/-- Of records with distinct ids there is one ascending order. -/
theorem inIdOrder_congr (h : raw.Perm raw') (distinct : (raw.map (·.id)).Nodup) :
    inIdOrder raw = inIdOrder raw' := by
  have same : (inIdOrder raw).Perm (inIdOrder raw') :=
    (inIdOrder_perm raw).trans (h.trans (inIdOrder_perm raw').symm)
  refine List.Perm.eq_of_pairwise ?_ (inIdOrder_sorted raw) (inIdOrder_sorted raw') same
  intro a b ha hb hab hba
  have ha : a ∈ raw := (inIdOrder_perm raw).mem_iff.1 ha
  have hb : b ∈ raw := h.mem_iff.2 ((inIdOrder_perm raw').mem_iff.1 hb)
  exact List.inj_on_of_nodup_map distinct ha hb (Nat.le_antisymm hab hba)

theorem inIdOrder_of_ids (ids : ∀ (i : Nat) th, ths[i]? = some th → th.id = i) :
    inIdOrder ths = ths := by
  refine List.mergeSort_of_pairwise (List.pairwise_iff_getElem.2 fun i j hi hj lt => ?_)
  rw [decide_eq_true_eq, ids i _ (List.getElem?_eq_getElem hi),
    ids j _ (List.getElem?_eq_getElem hj)]
  exact Nat.le_of_lt lt

/-! ### The checks -/

theorem duplicate?_eq_none (sorted : ths.Pairwise fun a b => a.id ≤ b.id) :
    duplicate? ths = none ↔ (ths.map (·.id)).Nodup := by
  induction ths with
  | nil => simp [duplicate?]
  | cons a rest ih =>
      cases rest with
      | nil => simp [duplicate?]
      | cons b rest =>
          obtain ⟨least, sorted⟩ := List.pairwise_cons.1 sorted
          rw [duplicate?, List.map_cons, List.nodup_cons]
          by_cases same : a.id = b.id
          · simp [same]
          · -- The ids that follow are at least that of the neighbour.
            have below : a.id ∉ (b :: rest).map (·.id) := by
              intro mem
              obtain ⟨c, hc, heq⟩ := List.mem_map.1 mem
              have first : b.id ≤ c.id := by
                cases List.mem_cons.1 hc with
                | inl hc => exact Nat.le_of_eq (congrArg _ hc.symm)
                | inr hc => exact (List.pairwise_cons.1 sorted).1 c hc
              have := least b List.mem_cons_self
              omega
            rw [if_neg same, ih sorted]
            exact ⟨fun distinct => ⟨below, distinct⟩, And.right⟩

theorem duplicate?_congr (h : ths.map (·.id) = ths'.map (·.id)) :
    duplicate? ths = duplicate? ths' := by
  induction ths generalizing ths' with
  | nil => rw [List.map_eq_nil_iff.1 h.symm]
  | cons a rest ih =>
      obtain ⟨a', rest', rfl, ha, hrest⟩ := List.map_eq_cons_iff.1 h.symm
      have tails := ih hrest.symm
      cases rest with
      | nil =>
          obtain rfl := List.map_eq_nil_iff.1 hrest
          rfl
      | cons b rest =>
          obtain ⟨b', rest', rfl, hb, -⟩ := List.map_eq_cons_iff.1 hrest
          simp only [duplicate?, ha, hb, tails]

theorem build_eq (origin : Origin) (raw : List HardwareThread) : build origin raw =
    if raw.isEmpty then .error .empty
    else match duplicate? (inIdOrder raw) with
      | some id => .error (.duplicate id)
      | none => match gap? 0 (inIdOrder raw) with
        | some (expected, found) => .error (.sparse expected found)
        | none => match spanning? [] (inIdOrder raw) with
          | some (core, first, second) => .error (.spanning core first second)
          | none => .ok (ofDense origin (renumber (inIdOrder raw))) :=
  rfl

/-- Two lists of the same records give the same topology or the same error. -/
theorem build_congr (h : raw.Perm raw') : build origin raw' = build origin raw := by
  have sameIds := duplicate?_congr (map_id_inIdOrder_congr h)
  rw [build_eq, build_eq, h.symm.isEmpty_eq, ← sameIds]
  cases repeated : duplicate? (inIdOrder raw) with
  | some id => rfl
  | none =>
      have distinct := (duplicate?_eq_none (inIdOrder_sorted raw)).1 repeated
      rw [((inIdOrder_perm raw).map _).nodup_iff] at distinct
      rw [inIdOrder_congr h distinct]

/-! ### What passes the checks -/

theorem Describes.map_id_inIdOrder (h : Describes raw) :
    (inIdOrder raw).map (·.id) = List.range raw.length := by
  have same := ((inIdOrder_perm raw).map (·.id)).trans h.ids
  exact List.Perm.eq_of_pairwise (fun _ _ _ _ => Nat.le_antisymm) (map_id_inIdOrder_sorted raw)
    (List.pairwise_lt_range.imp Nat.le_of_lt) same

theorem ids_iff_map_id {ths : List HardwareThread} :
    (∀ (i : Nat) th, ths[i]? = some th → th.id = i) ↔
      ths.map (·.id) = List.range ths.length := by
  constructor
  · intro ids
    refine List.ext_getElem (by simp) fun i hi _ => ?_
    have inside : i < ths.length := by simpa using hi
    simpa using ids i _ (List.getElem?_eq_getElem inside)
  · intro h i th found
    obtain ⟨inside, rfl⟩ := List.getElem?_eq_some_iff.1 found
    have at_i : (ths.map (·.id))[i]? = (List.range ths.length)[i]? := by rw [h]
    simpa [inside] using at_i

theorem spanning?_inIdOrder_eq_none
    (coherent : ∀ a ∈ raw, ∀ b ∈ raw, a.core = b.core → a.package = b.package) :
    spanning? [] (inIdOrder raw) = none := by
  have mem {a : HardwareThread} : a ∈ inIdOrder raw ↔ a ∈ raw := (inIdOrder_perm raw).mem_iff
  refine spanning?_eq_none.2 ⟨by simp, ?_⟩
  exact List.pairwise_of_forall_mem_list fun a ha b hb => coherent a (mem.1 ha) b (mem.1 hb)

/-- Records give a topology exactly if they describe a machine. -/
theorem build_eq_ok_iff : build origin raw = .ok t ↔
    Describes raw ∧ t = ofDense origin (renumber (inIdOrder raw)) := by
  have mem {a : HardwareThread} : a ∈ inIdOrder raw ↔ a ∈ raw := (inIdOrder_perm raw).mem_iff
  have size : (inIdOrder raw).length = raw.length := (inIdOrder_perm raw).length_eq
  rw [build_eq]
  constructor
  · intro h
    split at h
    case isTrue => simp at h
    case isFalse some =>
      split at h
      case h_1 => simp at h
      case h_2 =>
        split at h
        case h_1 => simp at h
        case h_2 dense =>
          split at h
          case h_1 => simp at h
          case h_2 coherent =>
            simp only [gap?_eq_none, Nat.zero_add, ids_iff_map_id, size] at dense
            refine ⟨⟨by simpa using some, ?_, fun a ha b hb => ?_⟩, (Except.ok.inj h).symm⟩
            · exact dense ▸ ((inIdOrder_perm raw).map _).symm
            · exact coherent_of_spanning? coherent a (mem.2 ha) b (mem.2 hb)
  · intro ⟨h, ht⟩
    have sorted := h.map_id_inIdOrder
    have distinct : duplicate? (inIdOrder raw) = none := by
      rw [duplicate?_eq_none (inIdOrder_sorted raw), sorted]
      exact List.nodup_range
    have dense : gap? 0 (inIdOrder raw) = none := by
      simpa only [gap?_eq_none, Nat.zero_add, ids_iff_map_id, size] using sorted
    rw [if_neg (by simpa using h.nonempty), distinct, dense,
      spanning?_inIdOrder_eq_none h.coherent, ht]

/-- The errors of records: there are none, their ids are not those below some bound, or a core lies
in two packages. -/
theorem build_eq_error {e : TopologyError} (h : build origin raw = .error e) :
    e = .empty ∨ (∃ id, e = .duplicate id) ∨ (∃ expected found, e = .sparse expected found) ∨
      ∃ core first second, e = .spanning core first second ∧
        ¬ ∀ a ∈ raw, ∀ b ∈ raw, a.core = b.core → a.package = b.package := by
  rw [build_eq] at h
  split at h
  case isTrue => exact .inl (Except.error.inj h).symm
  case isFalse =>
    split at h
    case h_1 id _ => exact .inr (.inl ⟨id, (Except.error.inj h).symm⟩)
    case h_2 =>
      split at h
      case h_1 expected found _ =>
        exact .inr (.inr (.inl ⟨expected, found, (Except.error.inj h).symm⟩))
      case h_2 =>
        split at h
        case h_1 core first second spans =>
          refine .inr (.inr (.inr ⟨core, first, second, (Except.error.inj h).symm, ?_⟩))
          intro coherent
          simp [spanning?_inIdOrder_eq_none coherent] at spans
        case h_2 => simp at h

/-! ### Numbers that keep their order -/

theorem ascending_eq_range {ns : List Nat} {n : Nat} (h : ∀ k, k ∈ ns ↔ k < n) :
    ascending ns = List.range n :=
  (pairwise_ascending ns).eq_of_mem_iff List.pairwise_lt_range fun k => by
    rw [mem_ascending, h, List.mem_range]

/-- The place of a number among the distinct numbers of a list is the higher the larger it is. -/
theorem idxOf_ascending_lt_iff {ns : List Nat} {m n : Nat} (hm : m ∈ ns) (hn : n ∈ ns) :
    (ascending ns).idxOf m < (ascending ns).idxOf n ↔ m < n := by
  have mono {a b : Nat} (ha : a ∈ ns) (hb : b ∈ ns)
      (lt : (ascending ns).idxOf a < (ascending ns).idxOf b) : a < b := by
    have inside := List.idxOf_lt_length_of_mem (mem_ascending.2 hb)
    have := List.pairwise_iff_getElem.1 (pairwise_ascending ns) _ _ (Nat.lt_trans lt inside)
      inside lt
    simpa only [List.getElem_idxOf] using this
  refine ⟨mono hm hn, fun lt => ?_⟩
  rcases Nat.lt_trichotomy ((ascending ns).idxOf m) ((ascending ns).idxOf n) with h | h | h
  · exact h
  · rw [(List.idxOf_inj (mem_ascending.2 hm)).1 h] at lt
    exact absurd lt (Nat.lt_irrefl n)
  · exact absurd (mono hn hm h) (Nat.lt_asymm lt)

/-- The numbers that threads get are all below a count, each of them is used, and they stand in the
order of the numbers that the records have. -/
structure Renumbers (raw : List HardwareThread) (old : HardwareThread → Nat)
    (new : Nat → Except Fault Nat) (count : Nat) : Prop where
  ordered : ∀ a ∈ raw, ∀ b ∈ raw, ∃ m n, new a.id = .ok m ∧ new b.id = .ok n ∧
    (m < n ↔ old a < old b)
  dense : ∀ n, n < count ↔ ∃ a ∈ raw, new a.id = .ok n

theorem Renumbers.of_ascending {old : HardwareThread → Nat} {new : Nat → Except Fault Nat}
    {ns : List Nat} (used : ∀ n, n ∈ ns ↔ ∃ a ∈ raw, old a = n)
    (given : ∀ a ∈ raw, new a.id = .ok ((ascending ns).idxOf (old a))) :
    Renumbers raw old new (ascending ns).length where
  ordered a ha b hb := ⟨_, _, given a ha, given b hb,
    idxOf_ascending_lt_iff ((used _).2 ⟨a, ha, rfl⟩) ((used _).2 ⟨b, hb, rfl⟩)⟩
  dense n := by
    rw [← mem_map_idxOf_ascending, List.mem_map]
    constructor
    · intro ⟨m, hm, heq⟩
      obtain ⟨a, ha, rfl⟩ := (used m).1 hm
      exact ⟨a, ha, heq ▸ given a ha⟩
    · intro ⟨a, ha, heq⟩
      rw [given a ha] at heq
      exact ⟨old a, (used _).2 ⟨a, ha, rfl⟩, Except.ok.inj heq⟩

theorem Renumbers.compare {old : HardwareThread → Nat} {new : Nat → Except Fault Nat} {count : Nat}
    (h : Renumbers raw old new count) {a b : HardwareThread} (ha : a ∈ raw) (hb : b ∈ raw) :
    ∃ m n, new a.id = .ok m ∧ new b.id = .ok n ∧ (m = n ↔ old a = old b) ∧
      (m < n ↔ old a < old b) := by
  obtain ⟨m, n, hm, hn, below⟩ := h.ordered a ha b hb
  obtain ⟨n', m', hn', hm', above⟩ := h.ordered b hb a ha
  obtain rfl := Except.ok.inj (hm.symm.trans hm')
  obtain rfl := Except.ok.inj (hn.symm.trans hn')
  exact ⟨m, n, hm, hn, by omega, below⟩

theorem mem_map_inIdOrder {old : HardwareThread → Nat} {n : Nat} :
    n ∈ (inIdOrder raw).map old ↔ ∃ a ∈ raw, old a = n := by
  simp only [List.mem_map, (inIdOrder_perm raw).mem_iff]

/-- Where a record stands after its numbers have changed. -/
theorem Describes.renumbered (h : Describes raw) {a : HardwareThread} (ha : a ∈ raw) :
    (renumber (inIdOrder raw))[a.id]? =
      some ⟨(ascending ((inIdOrder raw).map (·.package))).idxOf a.package,
        (ascending ((inIdOrder raw).map (·.core))).idxOf a.core, a.id⟩ := by
  have ids := ids_iff_map_id.2 ((inIdOrder_perm raw).length_eq ▸ h.map_id_inIdOrder)
  obtain ⟨i, found⟩ := List.mem_iff_getElem?.1 ((inIdOrder_perm raw).mem_iff.2 ha)
  obtain rfl := ids i a found
  rw [renumber, List.getElem?_map, found]
  rfl

theorem Describes.renumbers_packages (h : Describes raw) (origin : Origin) :
    Renumbers raw (·.package) (ofDense origin (renumber (inIdOrder raw))).packageOf
      (ofDense origin (renumber (inIdOrder raw))).totalPackages := by
  rw [totalPackages, ofDense, length_fill, map_package_renumber,
    length_ascending_of_dense fun _ => mem_map_idxOf_ascending]
  exact .of_ascending (fun _ => mem_map_inIdOrder) fun a ha =>
    packageOf_eq_ok.2 ⟨_, h.renumbered ha, rfl⟩

theorem Describes.renumbers_cores (h : Describes raw) (origin : Origin) :
    Renumbers raw (·.core) (ofDense origin (renumber (inIdOrder raw))).coreOf
      (ofDense origin (renumber (inIdOrder raw))).totalCores := by
  rw [totalCores, ofDense, length_fill, map_core_renumber,
    length_ascending_of_dense fun _ => mem_map_idxOf_ascending]
  exact .of_ascending (fun _ => mem_map_inIdOrder) fun a ha =>
    coreOf_eq_ok.2 ⟨_, h.renumbered ha, rfl⟩

/-! ### Topologies and their own records -/

theorem Dense.renumber_eq (h : Dense ths) : renumber ths = ths := by
  have place {ns : List Nat} {n : Nat} (dense : ∀ k, k ∈ ns ↔ k < (ascending ns).length)
      (hn : n ∈ ns) : (ascending ns).idxOf n = n := by
    have inside := (dense n).1 hn
    rw [ascending_eq_range dense]
    have found := List.nodup_range.idxOf_getElem n (by simpa using inside)
    rwa [List.getElem_range] at found
  refine (List.map_congr_left fun th hth => ?_).trans (List.map_id ths)
  rw [place h.cores (List.mem_map_of_mem hth), place h.packages (List.mem_map_of_mem hth)]
  rfl

/-- The threads of a topology are records that give the same topology again. -/
theorem ofRecords_threads (h : build origin raw = .ok t) :
    ofRecords t.threads = .ok { t with origin := .records } := by
  obtain ⟨described, rfl⟩ := build_eq_ok_iff.1 h
  have ids := ids_iff_map_id.2 ((inIdOrder_perm raw).length_eq ▸ described.map_id_inIdOrder)
  have dense := dense_renumber ids fun a ha b hb =>
    described.coherent a ((inIdOrder_perm raw).mem_iff.1 ha) b ((inIdOrder_perm raw).mem_iff.1 hb)
  refine build_eq_ok_iff.2 ⟨⟨?_, ?_, dense.coherent⟩, ?_⟩
  · intro none
    have size := congrArg List.length none
    simp only [ofDense, renumber, List.length_map, (inIdOrder_perm raw).length_eq,
      List.length_nil, List.length_eq_zero_iff] at size
    exact described.nonempty size
  · exact dense.map_id ▸ .refl _
  · change _ = ofDense .records (renumber (inIdOrder (renumber (inIdOrder raw))))
    rw [inIdOrder_of_ids dense.ids, dense.renumber_eq]
    rfl

/-! ### Representation -/

/-- The tables of a topology say what some records say, in dense numbers. -/
structure Represents (raw : List HardwareThread) (t : Topology) : Prop where
  size : t.totalThreads = raw.length
  packages : Renumbers raw (·.package) t.packageOf t.totalPackages
  cores : Renumbers raw (·.core) t.coreOf t.totalCores
  tables : t.WellFormed
  inOneCore : ∀ x < t.totalThreads, ∃! k, x ∈ t.threadsOf k
  inOnePackage : ∀ k < t.totalCores, ∃! p, k ∈ t.coresOf p

theorem WellFormed.inOneCore (h : t.WellFormed) {x : Nat} (hx : x < t.totalThreads) :
    ∃! k, x ∈ t.threadsOf k := by
  obtain ⟨k, found⟩ := exists_coreOf.2 hx
  refine ⟨k, (h.mem_threadsOf x k).2 found, fun k' listed => ?_⟩
  have found' := (h.mem_threadsOf x k').1 listed
  exact Except.ok.inj (found'.symm.trans found)

theorem WellFormed.inOnePackage (h : t.WellFormed) {k : Nat} (hk : k < t.totalCores) :
    ∃! p, k ∈ t.coresOf p := by
  obtain ⟨x, hx⟩ := List.exists_mem_of_ne_nil _ (h.coresUsed k hk)
  have core := (h.mem_threadsOf x k).1 hx
  obtain ⟨p, package⟩ := exists_packageOf.2 (exists_coreOf.1 ⟨k, core⟩)
  refine ⟨p, (h.mem_coresOf k p).2 ⟨x, core, package⟩, fun q listed => ?_⟩
  obtain ⟨y, core', package'⟩ := (h.mem_coresOf k q).1 listed
  have same := h.onePackage x y k core core'
  rw [package, package'] at same
  exact (Except.ok.inj same).symm

theorem represents_of_build (h : build origin raw = .ok t) : Represents raw t := by
  have tables := wellFormed_of_build h
  obtain ⟨described, rfl⟩ := build_eq_ok_iff.1 h
  refine ⟨?_, described.renumbers_packages origin, described.renumbers_cores origin, tables,
    fun _ => tables.inOneCore, fun _ => tables.inOnePackage⟩
  rw [totalThreads, ofDense, renumber, List.length_map, (inIdOrder_perm raw).length_eq]

/-- Records give a topology exactly if they describe a machine, and its tables then represent them.
Neither the topology nor the error depends on the order of the records, and the threads of a
topology give it again. -/
theorem ofRecords_represents (raw : List HardwareThread) :
    ((∃ t, ofRecords raw = .ok t) ↔ Describes raw) ∧
      (∀ raw', raw.Perm raw' → ofRecords raw' = ofRecords raw) ∧
      ∀ t, ofRecords raw = .ok t → Represents raw t ∧ ofRecords t.threads = .ok t := by
  refine ⟨⟨fun ⟨t, built⟩ => (build_eq_ok_iff.1 built).1, fun described => ?_⟩,
    fun raw' same => build_congr same, fun t built => ⟨represents_of_build built, ?_⟩⟩
  · exact ⟨_, build_eq_ok_iff.2 ⟨described, rfl⟩⟩
  · have rebuilt := ofRecords_threads built
    obtain ⟨-, rfl⟩ := build_eq_ok_iff.1 built
    exact rebuilt

end Litmus.Topology
