import ScriptAtlas.SyntaxTree.Node

/-! Nodes in their place: a cursor is a node together with the way back to the root, so that its
parent and its earlier siblings can be asked for. -/
namespace ScriptAtlas.SyntaxTree

/-- One step up: the parent, and which of its children the step came from. -/
structure Frame where
  parent : Node
  index : Nat

/-- A node and the frames above it, the nearest first. -/
structure Cursor where
  node : Node
  above : List Frame

namespace Cursor

def root (node : Node) : Cursor := ⟨node, []⟩

/-- The cursor of a child at its index. -/
def enter (cursor : Cursor) (index : Nat) (child : Node) : Cursor :=
  ⟨child, ⟨cursor.node, index⟩ :: cursor.above⟩

def children (cursor : Cursor) : List Cursor := cursor.node.children.mapIdx cursor.enter

def namedChildren (cursor : Cursor) : List Cursor := cursor.children.filter (·.node.named)

/-- The child under a field. -/
def child? (cursor : Cursor) (field : Field) : Option Cursor :=
  cursor.children.find? (·.node.field? == some field)

def parent? (cursor : Cursor) : Option Cursor :=
  match cursor.above with
  | [] => none
  | frame :: rest => some ⟨frame.parent, rest⟩

def parentKind? (cursor : Cursor) : Option Kind := cursor.parent?.map (·.node.kind)

/-- The nearest earlier sibling that is not a mere token. -/
def previousNamed? (cursor : Cursor) : Option Node :=
  match cursor.above with
  | [] => none
  | frame :: _ => (frame.parent.children.take frame.index).reverse.find? (·.named)

/-- Whether the parent finds exactly this child under a field. -/
def isUnder (cursor : Cursor) (field : Field) : Bool :=
  match cursor.above with
  | [] => false
  | frame :: _ => frame.parent.children.findIdx? (·.field? == some field) == some frame.index

/-- The cursor that comes after `number` others when the nodes of a stack are counted in
pre-order. -/
def locate : List Cursor → Nat → Option Cursor
  | [], _ => none
  | cursor :: _, 0 => some cursor
  | cursor :: rest, number + 1 => locate (cursor.children ++ rest) number

/-- The cursor of the node with a number, counting a tree in pre-order from zero. -/
def numbered? (root : Node) (number : Nat) : Option Cursor := locate [.root root] number

/-- The total number of nodes below several cursors, themselves included. -/
def weight (cursors : List Cursor) : Nat := Node.sizes (cursors.map (·.node))

theorem map_node_children (cursor : Cursor) :
    cursor.children.map (·.node) = cursor.node.children := by
  apply List.ext_getElem?
  intro index
  cases found : cursor.node.children[index]? <;> simp [children, enter, found]

theorem weight_children (cursor : Cursor) : weight cursor.children < cursor.node.size := by
  rw [weight, map_node_children, Node.size_eq]; omega

theorem weight_append (left right : List Cursor) :
    weight (left ++ right) = weight left + weight right := by
  simp [weight, Node.sizes_append]

theorem weight_cons (cursor : Cursor) (rest : List Cursor) :
    weight (cursor :: rest) = cursor.node.size + weight rest := by
  simp [weight, Node.sizes]

end Cursor
end ScriptAtlas.SyntaxTree
