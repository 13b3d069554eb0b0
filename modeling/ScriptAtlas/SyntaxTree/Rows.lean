import ScriptAtlas.SyntaxTree.Node

/-! Trees as flat tables: one row per node in pre-order, each with its number of children. -/
namespace ScriptAtlas.SyntaxTree

/-- A node without its subtree. -/
structure Row where
  kind : Kind
  named : Bool
  faulty : Bool
  field? : Option Field
  start : Nat
  stop : Nat
  childCount : Nat
deriving DecidableEq

/-- Put a row in front of the trees that the rows after it form; the first ones are its children. -/
def Row.assemble (row : Row) (trees : List Node) : List Node :=
  { row with children := trees.take row.childCount } :: trees.drop row.childCount

/-- The tree of a table, unless its rows form none or several. -/
def Node.ofRows? (rows : List Row) : Option Node :=
  match rows.foldr Row.assemble [] with
  | [node] => some node
  | _ => none

/-- The number of the first child of a kind, for a node with the number `number`. -/
def Node.numberOfChild? (node : Node) (number : Nat) (kind : Kind) : Option Nat :=
  (node.children.findIdx? (·.kind == kind)).map fun index =>
    number + 1 + Node.sizes (node.children.take index)

end ScriptAtlas.SyntaxTree
