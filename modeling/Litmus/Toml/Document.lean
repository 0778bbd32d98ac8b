import Litmus.Toml.Section

/-!
Documents of settings. A table takes the pairs of the sections that its path opens, and the tables
of all longer headers that start with the path; no key may come twice, and no table is opened
twice. The elements of a list of tables each take the sections up to the next element.

A section is read once. A table that stands for a moment does not read its further sections; they
are left to the table around it.
-/
namespace Litmus.Toml

/-- Where a table is read from. -/
structure Window where
  /-- How long the path of the table is. -/
  depth : Nat
  /-- The section whose header starts with the path. -/
  parent : Nat
  /-- The sections that are looked at next, up to `limit`. -/
  next : Nat
  limit : Nat

namespace Window

/-- The first section from `next` on that is not read and whose header starts with the path. -/
def found? (w : Window) (ss : List Section) : Option (Nat × Section × Literal.Pairs) :=
  let path := (Section.headerAt ss w.parent).take w.depth
  (ss.zipIdx.drop w.next).findSome? fun (s, i) =>
    if i < w.limit ∧ s.header.take w.depth = path then s.pairs.map (i, s, ·) else none

end Window

/-- The next element of the list that the section `i` opens an element of, if it comes before
`limit`. -/
def nextElement (ss : List Section) (i limit : Nat) : Nat :=
  let header := Section.headerAt ss i
  ((ss.zipIdx.drop (i + 1)).findSome? fun (s, j) =>
    if j < limit ∧ s.element ∧ s.header = header then some j else none).getD limit

mutual

/-- Reads a table on; `es` are its entries so far. -/
def table? : Nat → Window → Value.Entries → List Section → Option (Value × List Section)
  | 0, _, _, _ => none
  | fuel + 1, w, es, ss =>
      match w.found? ss with
      | none => some (.table es, ss)
      | some (i, s, pairs) =>
          let opened := Section.headerAt ss w.parent
          if i ≠ w.parent ∧ s.header = opened then none
          else
            let parent := if s.header.length < opened.length then i else w.parent
            match s.header[w.depth]? with
            | some key =>
                if (es.isEmpty && key = Literal.momentKey) || (es.lookup key).isSome then none
                else do
                  let (v, ss) ← inner? fuel w.depth i w.limit ss
                  table? fuel { w with parent, next := i + 1 } (es ++ [(key, v)]) ss
            | none =>
                if s.element then none
                else pairs? fuel { w with parent, next := i } es pairs (Section.read i ss)

/-- Reads the pairs of a section into a table. -/
def pairs? : Nat → Window → Value.Entries → Literal.Pairs → List Section →
    Option (Value × List Section)
  | 0, _, _, _, _ => none
  | fuel + 1, w, es, pairs, ss =>
      match Literal.mark? es pairs with
      | some l => l.marked?.map (·, ss)
      | none => do table? fuel w (← Literal.more? es pairs) ss

/-- Reads the table or the list of tables under the key that the header of section `i` has after a
path of length `depth`. -/
def inner? : Nat → (depth i limit : Nat) → List Section → Option (Value × List Section)
  | 0, _, _, _, _ => none
  | fuel + 1, depth, i, limit, ss =>
      if Section.opensElement ss i (depth + 1) then
        (elements? fuel i limit ss).map fun (vs, ss) => (.list vs, ss)
      else table? fuel ⟨depth + 1, i, 0, limit⟩ [] ss

/-- Reads the elements of a list of tables from the one that section `i` opens. -/
def elements? : Nat → (i limit : Nat) → List Section → Option (List Value × List Section)
  | 0, _, _, _ => none
  | fuel + 1, i, limit, ss =>
      if limit ≤ i then some ([], ss)
      else do
        let s ← ss[i]?
        let pairs ← s.pairs
        let next := nextElement ss i limit
        let (v, ss) ← pairs? fuel ⟨s.header.length, i, 0, next⟩ [] pairs (Section.read i ss)
        let (vs, ss) ← elements? fuel next limit ss
        return (v :: vs, ss)

end

/-- More steps than it takes to read all sections: each section is read once, below as many tables
as its header has names. -/
def readingFuel (ss : List Section) : Nat :=
  8 * ((ss.flatMap Section.header).length + 2 * ss.length)

/-- The entries of a document, or none if the text is not well formed. A byte order mark at its
start is skipped. A document that stands for a moment has no entries. -/
def document? (text : String) : Option Value.Entries := do
  let cs := match text.toList with
    | '\ufeff' :: rest => rest
    | cs => cs
  let ss ← sections? (foldLineEnds cs)
  let (v, _) ← table? (readingFuel ss) ⟨0, 0, 0, ss.length⟩ [] ss
  return v.entries

end Litmus.Toml
