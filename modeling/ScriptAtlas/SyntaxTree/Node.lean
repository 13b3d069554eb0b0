import ScriptAtlas.SyntaxTree.Field
import ScriptAtlas.SyntaxTree.Kind

/-! Concrete syntax trees: every token is a node, and a node knows its byte range, the field by
which its parent finds it and whether its subtree holds a syntax error. -/
namespace ScriptAtlas.SyntaxTree

/-- A node with its subtree. `stop` is exclusive. -/
structure Node where
  kind : Kind
  named : Bool
  faulty : Bool
  field? : Option Field
  start : Nat
  stop : Nat
  children : List Node

namespace Node

mutual
/-- The number of nodes of a subtree. -/
def size : Node → Nat
  | { children, .. } => 1 + sizes children

/-- The number of nodes of several subtrees. -/
def sizes : List Node → Nat
  | [] => 0
  | child :: rest => child.size + sizes rest
end

mutual
/-- The nodes of a subtree, each before its descendants. -/
def preorder : Node → List Node
  | node@{ children, .. } => node :: preorders children

/-- The nodes of several subtrees in order. -/
def preorders : List Node → List Node
  | [] => []
  | child :: rest => child.preorder ++ preorders rest
end

theorem size_eq (node : Node) : node.size = 1 + sizes node.children := by
  cases node; rfl

theorem size_pos (node : Node) : 0 < node.size := by
  rw [size_eq]; omega

theorem sizes_append (left right : List Node) :
    sizes (left ++ right) = sizes left + sizes right := by
  induction left with
  | nil => simp [sizes]
  | cons head rest ih => simp [sizes, ih]; omega

theorem size_le_sizes {child : Node} {nodes : List Node} (member : child ∈ nodes) :
    child.size ≤ sizes nodes := by
  induction member with
  | head rest => simp [sizes]
  | tail head _ ih => simp only [sizes]; omega

theorem size_lt_of_mem {node child : Node} (member : child ∈ node.children) :
    child.size < node.size := by
  have bound := size_le_sizes member
  rw [size_eq node]; omega

/-- The children that are not mere tokens. -/
def namedChildren (node : Node) : List Node := node.children.filter (·.named)

def firstNamed? (node : Node) : Option Node := node.children.find? (·.named)

/-- The child under a field. -/
def child? (node : Node) (field : Field) : Option Node :=
  node.children.find? (·.field? == some field)

/-- The first child of a kind. -/
def childOf? (node : Node) (kind : Kind) : Option Node :=
  node.children.find? (·.kind == kind)

/-- Whether the subtree holds a syntax error or is one. -/
def hasError (node : Node) : Bool := node.faulty || node.kind == .error

/-- The named children other than comments. -/
def operands (node : Node) : List Node := node.namedChildren.filter (·.kind != .comment)

theorem mem_children_of_child? {node child : Node} {field : Field}
    (found : node.child? field = some child) : child ∈ node.children :=
  List.mem_of_find?_eq_some found

theorem mem_children_of_firstNamed? {node child : Node} (found : node.firstNamed? = some child) :
    child ∈ node.children :=
  List.mem_of_find?_eq_some found

theorem mem_children_of_mem_namedChildren {node child : Node}
    (member : child ∈ node.namedChildren) : child ∈ node.children :=
  (List.mem_filter.mp member).1

theorem size_lt_of_child? {node child : Node} {field : Field}
    (found : node.child? field = some child) : child.size < node.size :=
  size_lt_of_mem (mem_children_of_child? found)

theorem size_lt_of_firstNamed? {node child : Node} (found : node.firstNamed? = some child) :
    child.size < node.size :=
  size_lt_of_mem (mem_children_of_firstNamed? found)

end Node
end ScriptAtlas.SyntaxTree
