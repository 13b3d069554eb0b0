import ScriptAtlas.Source

/-! Chains of assignments `a = b = (c = value)`: the way leads from an assignment to its right side
and from parentheses to their first named child. -/
namespace ScriptAtlas
open SyntaxTree

/-- The names of the module's export object. -/
def Source.isModuleExports (source : Source) (node : Node) : Bool :=
  let text := source.text node
  text == "module.exports" || text == "exports"

namespace SyntaxTree.Node

/-- The value at the end of a chain. -/
def chainValue (node : Node) : Node :=
  match node.kind with
  | .assignmentExpression =>
    match _ : node.child? .right with
    | some right => right.chainValue
    | none => node
  | .parenthesizedExpression =>
    match _ : node.firstNamed? with
    | some inner => inner.chainValue
    | none => node
  | _ => node
termination_by node.size
decreasing_by
  · exact size_lt_of_child? ‹_›
  · exact size_lt_of_firstNamed? ‹_›

/-- The left sides of a chain in source order and its final value. An assignment that lacks a side
ends the chain. -/
def chainLinks (node : Node) : List Node × Node :=
  match node.kind with
  | .assignmentExpression =>
    match node.child? .left, _ : node.child? .right with
    | some left, some right =>
      let (links, value) := right.chainLinks
      (left :: links, value)
    | _, _ => ([], node)
  | .parenthesizedExpression =>
    match _ : node.firstNamed? with
    | some inner => inner.chainLinks
    | none => ([], node)
  | _ => ([], node)
termination_by node.size
decreasing_by
  · exact size_lt_of_child? ‹_›
  · exact size_lt_of_firstNamed? ‹_›

end SyntaxTree.Node

/-- Whether some assignment of a chain assigns to the module's export object. -/
def Source.chainExports (source : Source) (node : Node) : Bool :=
  match node.kind with
  | .assignmentExpression =>
    (node.child? .left).any source.isModuleExports ||
      match _ : node.child? .right with
      | some right => source.chainExports right
      | none => false
  | .parenthesizedExpression =>
    match _ : node.firstNamed? with
    | some inner => source.chainExports inner
    | none => false
  | _ => false
termination_by node.size
decreasing_by
  · exact Node.size_lt_of_child? ‹_›
  · exact Node.size_lt_of_firstNamed? ‹_›

end ScriptAtlas
