import Litmus.Word

/-!
Tallies: how often each outcome was observed. Every role of a run keeps one of its own, and they
are merged at the end. An outcome that was not observed has no entry, so two tallies are equal
exactly when they count alike.
-/
namespace Litmus

structure Tally (κ : Type) where
  /-- Keys are distinct and counts positive. -/
  entries : List (κ × Nat)
deriving Repr, Inhabited

namespace Tally

variable {κ : Type} [DecidableEq κ]

def empty : Tally κ := ⟨[]⟩

def countIn : List (κ × Nat) → κ → Nat
  | [], _ => 0
  | (k, n) :: rest, key => if k = key then n else countIn rest key

/-- How often an outcome was observed. -/
def count (t : Tally κ) (key : κ) : Nat :=
  countIn t.entries key

@[simp] theorem count_empty (key : κ) : (empty : Tally κ).count key = 0 := rfl

/-- The entries with `n` more of one key. -/
def addTo : List (κ × Nat) → κ → Nat → Except Fault (List (κ × Nat))
  | [], key, n => .ok [(key, n)]
  | (k, m) :: rest, key, n =>
      if k = key then (Word.add m n).map fun sum => (k, sum) :: rest
      else (addTo rest key n).map ((k, m) :: ·)

theorem countIn_addTo {es es' : List (κ × Nat)} {key : κ} {n : Nat}
    (h : addTo es key n = .ok es') (k : κ) :
    countIn es' k = countIn es k + if k = key then n else 0 := by
  induction es generalizing es' with
  | nil =>
      simp only [addTo, Except.ok.injEq] at h
      subst h
      by_cases hk : key = k <;> simp [countIn, hk, eq_comm]
  | cons e rest ih =>
      obtain ⟨k', m⟩ := e
      unfold addTo at h
      split at h
      case isTrue hk =>
        cases hs : Word.add m n with
        | error f => simp [hs, Except.map] at h
        | ok sum =>
            simp only [hs, Except.map, Except.ok.injEq] at h
            subst h hk
            have := (Word.add_eq_ok.1 hs).1
            by_cases h' : k' = k <;> simp [countIn, h', eq_comm, this]
            intro h''; exact absurd h''.symm h'
      case isFalse hk =>
        cases hr : addTo rest key n with
        | error f => simp [hr, Except.map] at h
        | ok rest' =>
            simp only [hr, Except.map, Except.ok.injEq] at h
            subst h
            by_cases h' : k' = k
            · subst h'
              simp [countIn, hk]
            · simp [countIn, h', ih hr]

/-- Counts `n` more observations of an outcome. -/
def recordMany (t : Tally κ) (key : κ) (n : Nat) : Except Fault (Tally κ) :=
  if n = 0 then .ok t else (addTo t.entries key n).map Tally.mk

theorem count_recordMany {t t' : Tally κ} {key : κ} {n : Nat}
    (h : t.recordMany key n = .ok t') (k : κ) :
    t'.count k = t.count k + if k = key then n else 0 := by
  unfold recordMany at h
  split at h
  case isTrue h0 => simp_all
  case isFalse =>
    cases ha : addTo t.entries key n with
    | error f => simp [ha, Except.map] at h
    | ok es =>
        simp only [ha, Except.map, Except.ok.injEq] at h
        subst h
        exact countIn_addTo ha k

def record (t : Tally κ) (key : κ) : Except Fault (Tally κ) :=
  t.recordMany key 1

/-- What two tallies count together. -/
def merge (a b : Tally κ) : Except Fault (Tally κ) :=
  b.entries.foldlM (fun t e => t.recordMany e.1 e.2) a

/-- The tally of a list of observations. -/
def ofList (keys : List κ) : Except Fault (Tally κ) :=
  keys.foldlM record empty

/-- The number of observations. -/
def total (t : Tally κ) : Except Fault Nat :=
  Word.sum (t.entries.map (·.2))

/-- The number of distinct outcomes. -/
def size (t : Tally κ) : Nat := t.entries.length

def isEmpty (t : Tally κ) : Bool := t.entries.isEmpty

/-- Whether two tallies have the same entries, in whatever order. -/
def same (a b : Tally κ) : Bool :=
  a.size = b.size && a.entries.all fun e => b.entries.lookup e.1 = some e.2

/-- The entries in the order of their keys. -/
def sorted (t : Tally κ) (precedes : κ → κ → Bool) : List (κ × Nat) :=
  t.entries.mergeSort fun a b => precedes a.1 b.1

end Tally
end Litmus
