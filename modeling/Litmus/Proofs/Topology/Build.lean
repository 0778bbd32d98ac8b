import Litmus.Proofs.Topology.WellFormed
import Litmus.Topology.Cpuinfo
import Litmus.Topology.Preset

/-!
The checks on a description of a machine, and what they leave: a description that passes them has
tables that say what it says.
-/
namespace Litmus.Topology

theorem gap?_eq_none {expected : Nat} {ths : List HardwareThread} :
    gap? expected ths = none ↔ ∀ (i : Nat) th, ths[i]? = some th → th.id = expected + i := by
  induction ths generalizing expected with
  | nil => simp [gap?]
  | cons a rest ih =>
      unfold gap?
      split
      case isTrue h =>
        rw [ih]
        constructor
        · intro hrest i th hi
          cases i with
          | zero => simp_all
          | succ i =>
              have := hrest i th (by simpa using hi)
              omega
        · intro hall i th hi
          have := hall (i + 1) th (by simpa using hi)
          omega
      case isFalse h =>
        simp only [reduceCtorEq, false_iff]
        exact fun hall => h (by simpa using hall 0 a rfl)

theorem spanning?_eq_none {claims : List (Nat × Nat)} {ths : List HardwareThread} :
    spanning? claims ths = none ↔
      (∀ th ∈ ths, ∀ p, claims.lookup th.core = some p → p = th.package) ∧
        ths.Pairwise fun a b => a.core = b.core → a.package = b.package := by
  induction ths generalizing claims with
  | nil => simp [spanning?]
  | cons a rest ih =>
      unfold spanning?
      rw [List.forall_mem_cons, List.pairwise_cons]
      split
      case h_1 hnone =>
        rw [ih]
        have hlookup (th : HardwareThread) :
            List.lookup th.core ((a.core, a.package) :: claims) =
              if th.core = a.core then some a.package else claims.lookup th.core := by
          rw [List.lookup_cons]
          by_cases h : th.core = a.core
          · simp [h]
          · simp [h, beq_eq_false_iff_ne.2 h]
        simp only [hlookup]
        constructor
        · rintro ⟨hclaims, hpair⟩
          refine ⟨⟨by simp [hnone], fun th hth p hp => ?_⟩, fun th hth hcore => ?_, hpair⟩
          · refine hclaims th hth p ?_
            split
            case isTrue h =>
              rw [h, hnone] at hp
              simp at hp
            case isFalse => exact hp
          · exact hclaims th hth a.package (if_pos hcore.symm)
        · rintro ⟨⟨-, hclaims⟩, hhead, hpair⟩
          refine ⟨fun th hth p hp => ?_, hpair⟩
          split at hp
          case isTrue h =>
            rw [← Option.some.inj hp]
            exact hhead th hth h.symm
          case isFalse => exact hclaims th hth p hp
      case h_2 owner hsome =>
        split
        case isTrue h =>
          rw [ih]
          subst h
          constructor
          · rintro ⟨hclaims, hpair⟩
            refine ⟨⟨by simp [hsome], hclaims⟩, fun th hth hcore => ?_, hpair⟩
            exact hclaims th hth _ (hcore ▸ hsome)
          · rintro ⟨⟨-, hclaims⟩, -, hpair⟩
            exact ⟨hclaims, hpair⟩
        case isFalse h =>
          simp only [reduceCtorEq, false_iff]
          exact fun hall => h (hall.1.1 owner hsome)

theorem coherent_of_spanning? {ths : List HardwareThread} (h : spanning? [] ths = none) :
    ∀ a ∈ ths, ∀ b ∈ ths, a.core = b.core → a.package = b.package := by
  intro a ha b hb
  have hpair := (spanning?_eq_none.1 h).2
  exact hpair.forall_of_forall_of_flip (fun _ _ _ => rfl)
    (hpair.imp fun hab hcore => (hab hcore.symm).symm) ha hb

/-! ### Dense numbers -/

theorem map_core_renumber (ths : List HardwareThread) : (renumber ths).map (·.core) =
    (ths.map (·.core)).map (ascending (ths.map (·.core))).idxOf := by
  simp [renumber]

theorem map_package_renumber (ths : List HardwareThread) : (renumber ths).map (·.package) =
    (ths.map (·.package)).map (ascending (ths.map (·.package))).idxOf := by
  simp [renumber]

theorem dense_renumber {ths : List HardwareThread}
    (ids : ∀ (i : Nat) th, ths[i]? = some th → th.id = i)
    (coherent : ∀ a ∈ ths, ∀ b ∈ ths, a.core = b.core → a.package = b.package) :
    Dense (renumber ths) := by
  refine ⟨?_, ?_, ?_, ?_⟩
  · intro i th hi
    obtain ⟨old, hold, rfl⟩ := by simpa [renumber, List.getElem?_map] using hi
    exact ids i old hold
  · intro k
    rw [map_core_renumber, length_ascending_of_dense fun _ => mem_map_idxOf_ascending]
    exact mem_map_idxOf_ascending
  · intro p
    rw [map_package_renumber, length_ascending_of_dense fun _ => mem_map_idxOf_ascending]
    exact mem_map_idxOf_ascending
  · intro a ha b hb hab
    simp only [renumber, List.mem_map] at ha hb
    obtain ⟨a, ha, rfl⟩ := ha
    obtain ⟨b, hb, rfl⟩ := hb
    have hmem : a.core ∈ ascending (ths.map (·.core)) :=
      mem_ascending.2 (List.mem_map.2 ⟨a, ha, rfl⟩)
    simp only [coherent a ha b hb ((List.idxOf_inj hmem).1 hab)]

theorem wellFormed_of_build {origin : Origin} {raw : List HardwareThread} {t : Topology}
    (h : build origin raw = .ok t) : t.WellFormed := by
  unfold build at h
  split at h
  case isTrue => simp at h
  case isFalse =>
    simp only at h
    split at h
    case h_1 => simp at h
    case h_2 =>
      split at h
      case h_1 => simp at h
      case h_2 hgap =>
        split at h
        case h_1 => simp at h
        case h_2 hspan =>
          obtain rfl := Except.ok.inj h
          have ids := gap?_eq_none.1 hgap
          simp only [Nat.zero_add] at ids
          exact (dense_renumber ids (coherent_of_spanning? hspan)).wellFormed

theorem wellFormed_of_cpuinfo {text : List Char} {t : Topology}
    (h : Cpuinfo.topology text = .ok t) : t.WellFormed := by
  unfold Cpuinfo.topology at h
  split at h
  case h_1 => simp at h
  case h_2 =>
    simp only at h
    split at h
    case isTrue => simp at h
    case isFalse =>
      split at h
      case h_1 => simp at h
      case h_2 => exact wellFormed_of_build h

theorem wellFormed_of_preset {packages cores threads : Nat} {t : Topology}
    (h : preset packages cores threads = .ok (.ok t)) : t.WellFormed := by
  unfold preset at h
  split at h
  case h_1 => simp at h
  case h_2 =>
    cases hsize : gridSize packages cores threads with
    | error fault => simp [hsize, Except.map] at h
    | ok size =>
        simp only [hsize, Except.map, Except.ok.injEq] at h
        exact wellFormed_of_build h

/-! ### Descriptions -/

/-- A topology that some description of a machine gives. -/
inductive Described (t : Topology) : Prop where
  | records (raw : List HardwareThread) (h : ofRecords raw = .ok t)
  | preset (packages cores threads : Nat) (h : Topology.preset packages cores threads = .ok (.ok t))
  | cpuinfo (text : List Char) (h : Cpuinfo.topology text = .ok t)

theorem Described.wellFormed {t : Topology} (h : Described t) : t.WellFormed := by
  cases h with
  | records raw h => exact wellFormed_of_build h
  | preset packages cores threads h => exact wellFormed_of_preset h
  | cpuinfo text h => exact wellFormed_of_cpuinfo h

end Litmus.Topology
