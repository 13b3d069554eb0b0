import ScriptAtlas.SyntaxTree.Cursor
import Mathlib.Data.List.Nodup

/-! Every position of a tree in pre-order. The list of cursors made here is the one that node
numbers count, it holds each position once, and a cursor in it carries its ancestors with it. -/
namespace ScriptAtlas.SyntaxTree

namespace Node

theorem preorder_eq (node : Node) : node.preorder = node :: preorders node.children := by
  cases node; rfl

theorem preorders_eq_flatMap (nodes : List Node) : preorders nodes = nodes.flatMap preorder := by
  induction nodes with
  | nil => rfl
  | cons node rest ih => simp [preorders, ih]

theorem preorders_append (left right : List Node) :
    preorders (left ++ right) = preorders left ++ preorders right := by
  simp [preorders_eq_flatMap]

theorem mem_preorder_self (node : Node) : node ∈ node.preorder := by
  simp [preorder_eq]

theorem preorder_sublist_preorders {node : Node} {nodes : List Node} (member : node ∈ nodes) :
    node.preorder.Sublist (preorders nodes) := by
  rw [preorders_eq_flatMap]
  induction member with
  | head rest => simp
  | tail other _ ih =>
    rw [List.flatMap_cons]
    exact ih.trans (List.sublist_append_right _ _)

/-- One node lies in the subtree of another, which then lists its nodes in the same order. -/
def Within (inner outer : Node) : Prop := inner.preorder.Sublist outer.preorder

theorem Within.refl (node : Node) : node.Within node := List.Sublist.refl _

theorem Within.trans {inner middle outer : Node} (first : inner.Within middle)
    (second : middle.Within outer) : inner.Within outer := List.Sublist.trans first second

theorem Within.mem {inner outer : Node} (inside : inner.Within outer) : inner ∈ outer.preorder :=
  inside.subset inner.mem_preorder_self

/-- The nodes below a child come in the same order below its parent. -/
theorem within_of_mem {node child : Node} (member : child ∈ node.children) :
    child.Within node := by
  unfold Within
  rw [preorder_eq node]
  exact (preorder_sublist_preorders member).cons _

theorem within_of_child? {node child : Node} {field : Field}
    (found : node.child? field = some child) : child.Within node :=
  within_of_mem (mem_children_of_child? found)

theorem within_of_firstNamed? {node child : Node} (found : node.firstNamed? = some child) :
    child.Within node :=
  within_of_mem (mem_children_of_firstNamed? found)

end Node

namespace Cursor

/-- Stack loops either drop the first cursor or put its children in its place. -/
@[elab_as_elim]
theorem stackInduction {motive : List Cursor → Prop} (nil : motive [])
    (cons : ∀ cursor rest, motive rest → motive (cursor.children ++ rest) →
      motive (cursor :: rest)) (stack : List Cursor) : motive stack := by
  match stack with
  | [] => exact nil
  | cursor :: rest =>
    exact cons cursor rest (stackInduction nil cons rest)
      (stackInduction nil cons (cursor.children ++ rest))
termination_by weight stack
decreasing_by
  · have := cursor.node.size_pos
    rw [weight_cons]; omega
  · have := cursor.weight_children
    rw [weight_append, weight_cons]; omega

/-- All cursors at or below those of a stack, in pre-order. -/
def walk : List Cursor → List Cursor
  | [] => []
  | cursor :: rest => cursor :: walk (cursor.children ++ rest)
termination_by stack => weight stack
decreasing_by
  have := cursor.weight_children
  rw [weight_append, weight_cons]; omega

@[simp] theorem walk_nil : walk [] = [] := by
  rw [walk]

theorem walk_append (left right : List Cursor) : walk (left ++ right) = walk left ++ walk right := by
  induction left using stackInduction with
  | nil => simp
  | cons cursor rest _ ih =>
    rw [List.cons_append, walk, walk, ← List.append_assoc, ih, List.cons_append]

theorem walk_cons (cursor : Cursor) (rest : List Cursor) :
    walk (cursor :: rest) = cursor :: (walk cursor.children ++ walk rest) := by
  rw [walk, walk_append]

theorem walk_eq_flatMap (stack : List Cursor) : walk stack = stack.flatMap (walk [·]) := by
  induction stack with
  | nil => simp
  | cons cursor rest ih => rw [← List.singleton_append, walk_append, ih, List.flatMap_append]; simp

/-- The cursors of a walk hold the nodes of the tree in pre-order. -/
theorem map_node_walk (stack : List Cursor) :
    (walk stack).map (·.node) = Node.preorders (stack.map (·.node)) := by
  induction stack using stackInduction with
  | nil => simp [Node.preorders]
  | cons cursor rest _ ih =>
    rw [walk, List.map_cons, ih, List.map_append, map_node_children, Node.preorders_append,
      List.map_cons, Node.preorders, Node.preorder_eq, List.cons_append]

theorem getElem?_walk (stack : List Cursor) (number : Nat) :
    (walk stack)[number]? = locate stack number := by
  induction number generalizing stack with
  | zero => cases stack <;> simp [walk, locate]
  | succ number ih =>
    cases stack with
    | nil => simp [locate]
    | cons cursor rest => rw [walk, locate, List.getElem?_cons_succ, ih]

/-- The cursors above a way to the root, the nearest first. -/
def alongFrames : List Frame → List Cursor
  | [] => []
  | frame :: rest => ⟨frame.parent, rest⟩ :: alongFrames rest

/-- The proper ancestors of a cursor, the nearest first. -/
def ancestors (cursor : Cursor) : List Cursor := alongFrames cursor.above

theorem mem_children {cursor child : Cursor} (member : child ∈ cursor.children) :
    ∃ index, cursor.node.children[index]? = some child.node ∧
      child = cursor.enter index child.node := by
  obtain ⟨index, bound, rfl⟩ := List.mem_mapIdx.mp member
  exact ⟨index, by simp [enter], rfl⟩

theorem node_mem_of_mem_children {cursor child : Cursor} (member : child ∈ cursor.children) :
    child.node ∈ cursor.node.children := by
  rw [← map_node_children]
  exact List.mem_map_of_mem member

theorem within_of_mem_children {cursor child : Cursor} (member : child ∈ cursor.children) :
    child.node.Within cursor.node :=
  Node.within_of_mem (node_mem_of_mem_children member)

theorem within_of_mem_namedChildren {cursor child : Cursor}
    (member : child ∈ cursor.namedChildren) : child.node.Within cursor.node :=
  within_of_mem_children (List.mem_filter.mp member).1

theorem within_of_child? {cursor child : Cursor} {field : Field}
    (found : cursor.child? field = some child) : child.node.Within cursor.node :=
  within_of_mem_children (List.mem_of_find?_eq_some found)

theorem within_of_mem_walk {stack : List Cursor} {cursor : Cursor} (member : cursor ∈ walk stack) :
    ∃ start ∈ stack, cursor.node.Within start.node := by
  induction stack using stackInduction with
  | nil => simp at member
  | cons first rest _ ih =>
    rw [walk] at member
    rcases List.mem_cons.mp member with same | later
    · exact ⟨first, by simp, same ▸ .refl _⟩
    · obtain ⟨start, present, inside⟩ := ih later
      rcases List.mem_append.mp present with child | other
      · exact ⟨first, by simp, inside.trans (within_of_mem_children child)⟩
      · exact ⟨start, by simp [other], inside⟩

theorem ancestors_of_mem_children {cursor child : Cursor} (member : child ∈ cursor.children) :
    child.ancestors = cursor :: cursor.ancestors := by
  obtain ⟨index, _, same⟩ := mem_children member
  rw [same]
  rfl

/-- Going down only adds frames. -/
theorem above_suffix_of_mem_walk {stack : List Cursor} {cursor : Cursor}
    (member : cursor ∈ walk stack) : ∃ start ∈ stack, start.above <:+ cursor.above := by
  induction stack using stackInduction with
  | nil => simp at member
  | cons first rest _ ih =>
    rw [walk] at member
    rcases List.mem_cons.mp member with same | later
    · exact ⟨first, by simp, same ▸ List.suffix_refl _⟩
    · obtain ⟨start, present, kept⟩ := ih later
      rcases List.mem_append.mp present with child | other
      · obtain ⟨index, _, same⟩ := mem_children child
        refine ⟨first, by simp, List.IsSuffix.trans ?_ kept⟩
        rw [same]
        exact List.suffix_cons _ _
      · exact ⟨start, by simp [other], kept⟩

private theorem mem_alongFrames {frame : Frame} {rest above : List Frame}
    (kept : frame :: rest <:+ above) : ⟨frame.parent, rest⟩ ∈ alongFrames above := by
  induction above with
  | nil => simp at kept
  | cons first others ih =>
    rcases List.suffix_cons_iff.mp kept with same | later
    · obtain ⟨rfl, rfl⟩ := List.cons.inj same
      simp [alongFrames]
    · exact List.mem_cons_of_mem _ (ih later)

/-- Whatever lies below the children of a cursor has the cursor for an ancestor. -/
theorem mem_ancestors_of_mem_walk_children {cursor descendant : Cursor}
    (member : descendant ∈ walk cursor.children) : cursor ∈ descendant.ancestors := by
  obtain ⟨child, present, kept⟩ := above_suffix_of_mem_walk member
  obtain ⟨index, _, same⟩ := mem_children present
  rw [same] at kept
  exact mem_alongFrames kept

private theorem length_above_of_mem_walk_children {cursor descendant : Cursor}
    (member : descendant ∈ walk cursor.children) :
    cursor.above.length < descendant.above.length := by
  obtain ⟨child, present, kept⟩ := above_suffix_of_mem_walk member
  obtain ⟨index, _, same⟩ := mem_children present
  rw [same] at kept
  exact kept.length_le

/-- Two starting points that lie equally deep and differ in their way up share no descendant. -/
private theorem walk_disjoint {left right : Cursor} (depth : left.above.length = right.above.length)
    (differ : left.above ≠ right.above) : List.Disjoint (walk [left]) (walk [right]) := by
  intro cursor first second
  obtain ⟨start, present, kept⟩ := above_suffix_of_mem_walk first
  obtain rfl := List.mem_singleton.mp present
  obtain ⟨start, present, other⟩ := above_suffix_of_mem_walk second
  obtain rfl := List.mem_singleton.mp present
  have nested := List.suffix_of_suffix_length_le kept other (Nat.le_of_eq depth)
  exact differ (nested.eq_of_length depth)

private theorem pairwise_children (cursor : Cursor) :
    cursor.children.Pairwise fun left right =>
      left.above.length = right.above.length ∧ left.above ≠ right.above := by
  rw [List.pairwise_iff_getElem]
  intro first second firstBound secondBound before
  simp only [children, List.getElem_mapIdx, enter]
  refine ⟨by simp, ?_⟩
  intro same
  have frames := (List.cons.inj same).1
  exact absurd (congrArg Frame.index frames) (Nat.ne_of_lt before)

/-- A walk over the tree below a cursor comes to each position once. -/
theorem nodup_walk (cursor : Cursor) : (walk [cursor]).Nodup := by
  rw [walk_cons, walk_nil, List.append_nil, List.nodup_cons]
  constructor
  · intro member
    exact absurd (length_above_of_mem_walk_children member) (Nat.lt_irrefl _)
  · rw [walk_eq_flatMap, List.nodup_flatMap]
    refine ⟨fun child member => ?_, ?_⟩
    · have smaller := Node.size_lt_of_mem (node_mem_of_mem_children member)
      exact nodup_walk child
    · exact (pairwise_children cursor).imp fun apart => walk_disjoint apart.1 apart.2
termination_by cursor.node.size

end Cursor
end ScriptAtlas.SyntaxTree
