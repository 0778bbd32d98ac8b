import Litmus.Proofs.Engine.Pool
import Litmus.Proofs.Engine.Views
import Mathlib.Data.List.Nodup
import Mathlib.Logic.Relation

/-!
Trees of views. Any view may be grown or copied any number of times; each has the slots of the one
that it comes from and then new slots of its own. So two views share a slot exactly if both come
from a view that has it, and a pair that is changed through one view shows in the other there and
nowhere else.
-/
namespace Litmus.Lineage

variable {σ : Type}

/-- A view of a tree, the number of the view that it comes from, and the slots that it is to list.
A slot is named by the number of slots that were made before it. -/
structure Node where
  view : View
  parent : Option Nat
  slots : List Nat

/-- The views that were made from the empty one, numbered in the order in which they were made, and
the arena of their slots. Pairs may be changed through any view at any time. -/
inductive ViewTree : List Node → Arena σ → Prop where
  | root : ViewTree [⟨.empty, none, []⟩] #[]
  | grown {nodes : List Node} {arena : Arena σ} (tree : ViewTree nodes arena) {k : Nat}
      {node : Node} (found : nodes[k]? = some node) {ω : Type} {fresh : ω → ω × Except Fault σ}
      {memory : Memory} {size pairBytes : Nat} {blank : Outcome} {world world' : ω} {view : View}
      {arena' : Arena σ}
      (grew : node.view.grow memory size pairBytes blank fresh world arena =
        (world', .ok (view, arena'))) :
      ViewTree (nodes ++ [⟨view, some k,
        node.slots ++ List.range' arena.size (size - node.slots.length)⟩]) arena'
  | copied {nodes : List Node} {arena : Arena σ} (tree : ViewTree nodes arena) {k : Nat}
      {node : Node} (found : nodes[k]? = some node) :
      ViewTree (nodes ++ [⟨node.view, some k, node.slots⟩]) arena
  | written {nodes : List Node} {arena : Arena σ} (tree : ViewTree nodes arena) {k : Nat}
      {node : Node} (found : nodes[k]? = some node) {i : Nat} {change : Pair σ → Pair σ}
      {arena' : Arena σ} (wrote : node.view.write i change arena = .ok arena') :
      ViewTree nodes arena'

/-- View `l` was grown or copied from view `k`. -/
def ComesFrom (nodes : List Node) (k l : Nat) : Prop :=
  ∃ node, nodes[l]? = some node ∧ node.parent = some k

/-- A view comes from another by any number of growths and copies. -/
def Derives (nodes : List Node) : Nat → Nat → Prop :=
  Relation.ReflTransGen (ComesFrom nodes)

/-- Two views come from one view that has an index. -/
def Common (nodes : List Node) (a b i : Nat) : Prop :=
  ∃ c node, nodes[c]? = some node ∧ i < node.view.size ∧ Derives nodes c a ∧ Derives nodes c b

variable {nodes : List Node} {arena : Arena σ} {node A B : Node} {a b c i j k made : Nat}

/-! ### More views -/

theorem getElem?_concat_eq {new : Node} : (nodes ++ [new])[k]? = some node ↔
    nodes[k]? = some node ∨ k = nodes.length ∧ node = new := by
  rcases Nat.lt_trichotomy k nodes.length with old | rfl | beyond
  · rw [List.getElem?_append_left old]
    exact (or_iff_left fun h => Nat.ne_of_lt old h.1).symm
  · rw [List.getElem?_concat_length, List.getElem?_eq_none (Nat.le_refl _)]
    simp [eq_comm]
  · rw [List.getElem?_eq_none (by simp; omega), List.getElem?_eq_none (Nat.le_of_lt beyond)]
    simp [Nat.ne_of_gt beyond]

theorem ComesFrom.concat (h : ComesFrom nodes a b) (new : Node) :
    ComesFrom (nodes ++ [new]) a b := by
  obtain ⟨node, found, parent⟩ := h
  exact ⟨node, getElem?_concat_eq.2 (.inl found), parent⟩

theorem Derives.concat (h : Derives nodes a b) (new : Node) : Derives (nodes ++ [new]) a b := by
  induction h with
  | refl => exact .refl
  | tail _ step ih => exact ih.tail (step.concat new)

theorem Common.concat (h : Common nodes a b i) (new : Node) : Common (nodes ++ [new]) a b i := by
  obtain ⟨c, node, found, inside, left, right⟩ := h
  exact ⟨c, node, getElem?_concat_eq.2 (.inl found), inside, left.concat new, right.concat new⟩

theorem Common.symm (h : Common nodes a b i) : Common nodes b a i := by
  obtain ⟨c, node, found, inside, left, right⟩ := h
  exact ⟨c, node, found, inside, right, left⟩

/-! ### What holds of all trees -/

/-- Every view lists its slots; they were all made, no slot twice, and come after those of the view
that it comes from. Where two views have one slot, they have it at one index and from one view. -/
structure Sound (nodes : List Node) (made : Nat) : Prop where
  lists : ∀ node ∈ nodes, node.view.Lists node.slots
  made : ∀ node ∈ nodes, ∀ x ∈ node.slots, x < made
  distinct : ∀ node ∈ nodes, node.slots.Nodup
  inherits : ∀ (l k : Nat) (node : Node), nodes[l]? = some node → node.parent = some k →
    ∃ parent : Node, nodes[k]? = some parent ∧ parent.slots <+: node.slots
  shares : ∀ (a b i j x : Nat) (A B : Node), nodes[a]? = some A → nodes[b]? = some B →
    A.slots[i]? = some x → B.slots[j]? = some x → i = j ∧ Common nodes a b i

namespace Sound

theorem root : Sound [⟨.empty, none, []⟩] 0 where
  lists := by simpa using View.Lists.empty
  made := by simp
  distinct := by simp
  inherits l k node found parent := by
    have := List.mem_of_getElem? found
    simp_all
  shares a b i j x A B hA _ hi := by
    have := List.mem_of_getElem? hA
    simp_all

/-- A slot of a view that was just made is new, or one of the view that it comes from. -/
theorem shares_child {parent : Node} {view : View} {new : List Nat} (h : Sound nodes made)
    (found : nodes[k]? = some parent) (unmade : ∀ x ∈ new, made ≤ x) (hB : nodes[b]? = some B)
    {x : Nat} (hi : (parent.slots ++ new)[i]? = some x) (hj : B.slots[j]? = some x) :
    i = j ∧ Common (nodes ++ [⟨view, some k, parent.slots ++ new⟩]) nodes.length b i := by
  have old : x < made := h.made B (List.mem_of_getElem? hB) x (List.mem_of_getElem? hj)
  have inside : i < parent.slots.length := by
    by_contra beyond
    rw [List.getElem?_append_right (Nat.le_of_not_lt beyond)] at hi
    exact Nat.not_lt.2 (unmade x (List.mem_of_getElem? hi)) old
  rw [List.getElem?_append_left inside] at hi
  obtain ⟨same, c, node, hc, reached, left, right⟩ := h.shares k b i j x _ _ found hB hi hj
  refine ⟨same, c, node, getElem?_concat_eq.2 (.inl hc), reached, ?_, right.concat _⟩
  exact (left.concat _).tail ⟨_, getElem?_concat_eq.2 (.inr ⟨rfl, rfl⟩), rfl⟩

/-- One more view keeps a tree sound, if it has the slots of the one that it comes from and then
only new ones. -/
theorem concat {parent : Node} {view : View} {new : List Nat} {made' : Nat} (h : Sound nodes made)
    (found : nodes[k]? = some parent) (listed : view.Lists (parent.slots ++ new))
    (unmade : ∀ x ∈ new, made ≤ x) (distinct : new.Nodup) (more : made ≤ made')
    (bound : ∀ x ∈ new, x < made') :
    Sound (nodes ++ [⟨view, some k, parent.slots ++ new⟩]) made' := by
  have known := List.mem_of_getElem? found
  have apart : parent.slots.Disjoint new := fun x old fresh =>
    Nat.not_lt.2 (unmade x fresh) (h.made parent known x old)
  have nodup : (parent.slots ++ new).Nodup := (h.distinct parent known).append distinct apart
  refine ⟨?_, ?_, ?_, ?_, ?_⟩
  · simp only [List.forall_mem_append, List.forall_mem_singleton]
    exact ⟨h.lists, listed⟩
  · intro node hnode x hx
    rcases List.mem_append.1 hnode with old | last
    · exact Nat.lt_of_lt_of_le (h.made node old x hx) more
    · rw [List.mem_singleton.1 last] at hx
      rcases List.mem_append.1 hx with old | fresh
      · exact Nat.lt_of_lt_of_le (h.made parent known x old) more
      · exact bound x fresh
  · intro node hnode
    rcases List.mem_append.1 hnode with old | last
    · exact h.distinct node old
    · rw [List.mem_singleton.1 last]
      exact nodup
  · intro l k' node hl hparent
    rcases getElem?_concat_eq.1 hl with old | ⟨-, rfl⟩
    · obtain ⟨parent', hparent', inherited⟩ := h.inherits l k' node old hparent
      exact ⟨parent', getElem?_concat_eq.2 (.inl hparent'), inherited⟩
    · obtain rfl := Option.some.inj hparent
      exact ⟨parent, getElem?_concat_eq.2 (.inl found), List.prefix_append _ _⟩
  · intro a b i j x A B hA hB hi hj
    -- None of the two views is the new one, the second is, the first is, or both are.
    rcases getElem?_concat_eq.1 hA with oldA | ⟨rfl, rfl⟩ <;>
      rcases getElem?_concat_eq.1 hB with oldB | ⟨rfl, rfl⟩
    · obtain ⟨same, common⟩ := h.shares a b i j x A B oldA oldB hi hj
      exact ⟨same, common.concat _⟩
    · obtain ⟨same, common⟩ := h.shares_child found unmade oldA hj hi
      exact ⟨same.symm, same ▸ common.symm⟩
    · exact h.shares_child found unmade oldB hi hj
    · have hlt := (List.getElem?_eq_some_iff.1 hi).1
      have same := (List.getElem?_inj hlt nodup).1 (hi.trans hj.symm)
      refine ⟨same, _, _, hA, ?_, .refl, .refl⟩
      rw [listed.size]
      exact hlt

theorem slots_prefix (h : Sound nodes made) (derives : Derives nodes a b)
    (hA : nodes[a]? = some A) (hB : nodes[b]? = some B) : A.slots <+: B.slots := by
  induction derives generalizing B with
  | refl =>
      obtain rfl := Option.some.inj (hA.symm.trans hB)
      exact List.prefix_rfl
  | tail _ step ih =>
      obtain ⟨node, found, parent⟩ := step
      obtain rfl := Option.some.inj (found.symm.trans hB)
      obtain ⟨_, hparent, inherited⟩ := h.inherits _ _ _ found parent
      exact (ih hparent).trans inherited

theorem slot_eq_of_common (h : Sound nodes made) (hA : nodes[a]? = some A)
    (hB : nodes[b]? = some B) (common : Common nodes a b i) : ∃ x, A.slots[i]? = some x ∧
      B.slots[i]? = some x := by
  obtain ⟨c, node, hc, inside, left, right⟩ := common
  rw [(h.lists node (List.mem_of_getElem? hc)).size] at inside
  obtain ⟨restA, hA'⟩ := h.slots_prefix left hc hA
  obtain ⟨restB, hB'⟩ := h.slots_prefix right hc hB
  refine ⟨node.slots[i], ?_, ?_⟩
  · rw [← hA', List.getElem?_append_left inside, List.getElem?_eq_getElem inside]
  · rw [← hB', List.getElem?_append_left inside, List.getElem?_eq_getElem inside]

end Sound

/-! ### Trees keep it -/

/-- A tree has numbered its slots in the order in which they were made. -/
theorem ViewTree.sound (tree : ViewTree nodes arena) : Sound nodes arena.size := by
  induction tree with
  | root => exact Sound.root
  | @grown nodes arena _ k node found ω fresh memory size pairBytes blank world world' view arena'
      grew ih =>
      obtain ⟨rfl, states, made, rfl⟩ := View.grow_eq_ok grew
      have known := ih.lists node (List.mem_of_getElem? found)
      have count : states.length = size - node.slots.length := by
        rw [length_of_makeStates made, View.missing, known.size]
      refine ih.concat found (known.grown size arena.size) ?_ List.nodup_range' ?_ ?_
      · exact fun x hx => (List.mem_range'_1.1 hx).1
      · simp
      · intro x hx
        simpa [count] using (List.mem_range'_1.1 hx).2
  | copied _ found ih =>
      have := ih.concat found (by simpa using ih.lists _ (List.mem_of_getElem? found))
        (List.forall_mem_nil _) List.nodup_nil (Nat.le_refl _) (List.forall_mem_nil _)
      simpa using this
  | written _ _ wrote ih => rwa [View.size_write wrote]

/-! ### What growing and writing do to the other views -/

/-- What a call that grows a view does. The new view lists the slots of the old one and then new
ones, which no view had. Each is a pair of a state that was made for it, and no more states were
made. All views still show what they showed. -/
structure Growth {ω : Type} (nodes : List Node) (arena : Arena σ) (node : Node)
    (memory : Memory) (size pairBytes : Nat) (blank : Outcome) (fresh : ω → ω × Except Fault σ)
    (world : ω) (new : List Nat) (view : View) (arena' : Arena σ) : Prop where
  run : node.view.grow memory size pairBytes blank fresh world arena =
    (worldAfter fresh new.length world, .ok (view, arena'))
  count : new.length = size - node.view.size
  distinct : new.Nodup
  unused : ∀ other ∈ nodes, other.slots.Disjoint new
  lists : view.Lists (node.slots ++ new)
  fills : ∀ k < new.length, ∃ state, (fresh (worldAfter fresh k world)).2 = .ok state ∧
    view.read arena' (node.view.size + k) = .ok (some ⟨state, blank⟩)
  keeps : ∀ other ∈ nodes, ∀ i, other.view.read arena' i = other.view.read arena i

/-- What a change through view `a` at index `i` does. It shows at this index in the views that have
it from one view with view `a`, and nowhere else. -/
structure Echo (nodes : List Node) (arena : Arena σ) (a i : Nat) (change : Pair σ → Pair σ)
    (arena' : Arena σ) : Prop where
  seen : ∀ (b : Nat) (B : Node), nodes[b]? = some B → Common nodes a b i →
    B.view.read arena' i = (B.view.read arena i).map (Option.map change)
  unseen : ∀ (b : Nat) (B : Node) (j : Nat), nodes[b]? = some B →
    ¬ (i = j ∧ Common nodes a b i) → B.view.read arena' j = B.view.read arena j

/-- Views refine lists of slots. A view shows a pair at the indices below its size and nothing at
others; two views have one slot exactly where they come from one view that has it. -/
structure Refines (nodes : List Node) (arena : Arena σ) : Prop where
  lists : ∀ node ∈ nodes, node.view.Lists node.slots
  shows : ∀ node ∈ nodes, ∀ i, ∃ pair,
    node.view.read arena i = .ok pair ∧ (pair.isSome ↔ i < node.view.size)
  shares : ∀ (a b : Nat) (A B : Node) (i j : Nat), nodes[a]? = some A → nodes[b]? = some B →
    i < A.view.size → (A.slots[i]? = B.slots[j]? ↔ i = j ∧ Common nodes a b i)
  grows : ∀ node ∈ nodes, ∀ {ω : Type} (fresh : ω → ω × Except Fault σ) (memory : Memory)
    (size pairBytes : Nat) (blank : Outcome) (world : ω),
    (node.view.size < size → memory ((size - node.view.size) * pairBytes) = .given) →
    (∀ k < size - node.view.size, ∃ state, (fresh (worldAfter fresh k world)).2 = .ok state) →
    ∃ new view arena',
      Growth nodes arena node memory size pairBytes blank fresh world new view arena'
  writes : ∀ (a : Nat) (A : Node) (i : Nat) (change : Pair σ → Pair σ), nodes[a]? = some A →
    ∃ arena', A.view.write i change arena = .ok arena' ∧ Echo nodes arena a i change arena'

namespace Sound

theorem slot_eq_iff (h : Sound nodes made) (hA : nodes[a]? = some A) (hB : nodes[b]? = some B)
    {x y : Nat} (hi : A.slots[i]? = some x) (hj : B.slots[j]? = some y) :
    x = y ↔ i = j ∧ Common nodes a b i := by
  constructor
  · rintro rfl
    exact h.shares a b i j x A B hA hB hi hj
  · rintro ⟨rfl, common⟩
    obtain ⟨z, left, right⟩ := h.slot_eq_of_common hA hB common
    rw [Option.some.inj (hi.symm.trans left), Option.some.inj (hj.symm.trans right)]

theorem getElem?_slots_eq_iff (h : Sound nodes made) (hA : nodes[a]? = some A)
    (hB : nodes[b]? = some B) (inside : i < A.view.size) :
    A.slots[i]? = B.slots[j]? ↔ i = j ∧ Common nodes a b i := by
  rw [(h.lists A (List.mem_of_getElem? hA)).size] at inside
  have hi := List.getElem?_eq_getElem inside
  cases hj : B.slots[j]? with
  | none =>
      constructor
      · intro eq
        exact nomatch hi.symm.trans eq
      · rintro ⟨rfl, common⟩
        obtain ⟨_, _, right⟩ := h.slot_eq_of_common hA hB common
        exact nomatch hj.symm.trans right
  | some y => rw [hi, Option.some.injEq, h.slot_eq_iff hA hB hi hj]

theorem isSome_read (h : Sound nodes arena.size) (known : node ∈ nodes) (i : Nat) :
    ∃ pair, node.view.read arena i = .ok pair ∧ (pair.isSome ↔ i < node.view.size) := by
  refine ⟨_, (h.lists node known).read arena i, ?_⟩
  rw [(h.lists node known).size]
  cases found : node.slots[i]? with
  | none => simpa using found
  | some x =>
      have old := h.made node known x (List.mem_of_getElem? found)
      simpa [old] using (List.getElem?_eq_some_iff.1 found).1

theorem read_append (h : Sound nodes arena.size) (known : node ∈ nodes) (more : Arena σ)
    (i : Nat) : node.view.read (arena ++ more) i = node.view.read arena i := by
  rw [(h.lists node known).read, (h.lists node known).read]
  cases found : node.slots[i]? with
  | none => rfl
  | some x =>
      have old := h.made node known x (List.mem_of_getElem? found)
      simp only [Option.bind_some, Array.getElem?_append_left old]

theorem growth (h : Sound nodes arena.size) (known : node ∈ nodes) {ω : Type}
    {fresh : ω → ω × Except Fault σ} {memory : Memory} {size pairBytes : Nat} {world : ω}
    (room : node.view.size < size → memory ((size - node.view.size) * pairBytes) = .given)
    (makes : ∀ k < size - node.view.size, ∃ state,
      (fresh (worldAfter fresh k world)).2 = .ok state) (blank : Outcome) :
    ∃ new view arena',
      Growth nodes arena node memory size pairBytes blank fresh world new view arena' := by
  have listed := h.lists node known
  rw [listed.size] at room makes
  obtain ⟨states, each, run⟩ := listed.grow room makes blank arena
  have lists := listed.grown size arena.size
  have count : (List.range' arena.size (size - node.slots.length)).length =
      size - node.slots.length := List.length_range'
  refine ⟨List.range' arena.size (size - node.slots.length), node.view.grown size arena.size,
    arena ++ (states.map (Pair.mk · blank)).toArray, ?_, ?_, List.nodup_range', ?_, lists, ?_, ?_⟩
  · rw [count]
    exact run
  · rw [count, listed.size]
  · intro other hother x old new
    exact Nat.not_lt.2 (List.mem_range'_1.1 new).1 (h.made other hother x old)
  · intro k hk
    rw [count] at hk
    obtain ⟨state, call, hstate⟩ := each k hk
    refine ⟨state, call, ?_⟩
    rw [lists.read, listed.size, List.getElem?_append_right (Nat.le_add_right _ _),
      Nat.add_sub_cancel_left, List.getElem?_range' hk]
    simp [Array.getElem?_append, hstate]
  · exact fun other hother i => h.read_append hother _ i

theorem echo (h : Sound nodes arena.size) (hA : nodes[a]? = some A) (i : Nat)
    (change : Pair σ → Pair σ) :
    ∃ arena', A.view.write i change arena = .ok arena' ∧ Echo nodes arena a i change arena' := by
  refine ⟨_, (h.lists A (List.mem_of_getElem? hA)).write change arena i, ?_, ?_⟩
  · intro b B hB common
    have listed := h.lists B (List.mem_of_getElem? hB)
    obtain ⟨x, left, right⟩ := h.slot_eq_of_common hA hB common
    rw [listed.read, listed.read, left, right]
    simp [Except.map, Array.getElem?_modify]
  · intro b B j hB apart
    have listed := h.lists B (List.mem_of_getElem? hB)
    rw [listed.read, listed.read]
    cases hi : A.slots[i]? with
    | none => rfl
    | some x =>
        cases hj : B.slots[j]? with
        | none => rfl
        | some y =>
            have other : x ≠ y := fun same => apart ((h.slot_eq_iff hA hB hi hj).1 same)
            simp [Array.getElem?_modify, other]

end Sound

/-- Whatever views are grown, copied and written through, in whatever order, each is a list of
slots and they share exactly the slots that they got from one view. -/
theorem views_refine_slots (tree : ViewTree nodes arena) : Refines nodes arena where
  lists := tree.sound.lists
  shows _ known i := tree.sound.isSome_read known i
  shares _ _ _ _ _ _ hA hB inside := tree.sound.getElem?_slots_eq_iff hA hB inside
  grows _ known _ _ _ _ _ blank _ room makes := tree.sound.growth known room makes blank
  writes _ _ i change hA := tree.sound.echo hA i change

/-- A view of two pairs, grown twice to three, and a copy of the first of these. -/
def forked : List Node :=
  [⟨.empty, none, []⟩, ⟨⟨[[0, 1]], [0], 2⟩, some 0, [0, 1]⟩,
    ⟨⟨[[0, 1], [2]], [0, 2], 3⟩, some 1, [0, 1, 2]⟩,
    ⟨⟨[[0, 1], [3]], [0, 2], 3⟩, some 1, [0, 1, 3]⟩,
    ⟨⟨[[0, 1], [2]], [0, 2], 3⟩, some 2, [0, 1, 2]⟩]

/-- Makes one number after the other. -/
def numbers (n : Nat) : Nat × Except Fault Nat := (n + 1, .ok n)

/-- The views of the fork have their first two pairs in common, and only the copy has the third
one of the view that it was made of. -/
theorem views_refine_slots_forked :
    Refines forked #[⟨5, .blank 1⟩, ⟨6, .blank 1⟩, ⟨7, .blank 1⟩, ⟨8, .blank 1⟩] ∧
      Common forked 2 3 1 ∧ Common forked 2 4 2 ∧ ¬ Common forked 2 3 2 := by
  have tree : ViewTree forked #[⟨5, .blank 1⟩, ⟨6, .blank 1⟩, ⟨7, .blank 1⟩, ⟨8, .blank 1⟩] := by
    have two := ViewTree.root.grown (k := 0) rfl
      (rfl : View.grow .empty (.ofSize 16) 2 8 (.blank 1) numbers 5 #[] = _)
    have three := two.grown (k := 1) rfl
      (rfl : View.grow _ (.ofSize 16) 3 8 (.blank 1) numbers 7 _ = _)
    have other := three.grown (k := 1) rfl
      (rfl : View.grow _ (.ofSize 16) 3 8 (.blank 1) numbers 8 _ = _)
    exact other.copied (k := 2) rfl
  have refines := views_refine_slots tree
  have shares := refines.shares 2
  refine ⟨refines, ?_, ?_, ?_⟩
  · exact ((shares 3 _ _ 1 1 rfl rfl (by decide)).1 rfl).2
  · exact ((shares 4 _ _ 2 2 rfl rfl (by decide)).1 rfl).2
  · intro common
    exact absurd ((shares 3 _ _ 2 2 rfl rfl (by decide)).2 ⟨rfl, common⟩) (by decide)

end Litmus.Lineage
