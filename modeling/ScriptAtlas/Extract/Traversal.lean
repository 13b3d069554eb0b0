import ScriptAtlas.Extract.Idiom
import ScriptAtlas.Extract.Module
import ScriptAtlas.Extract.Variable

/-! The walk over a whole tree in pre-order. A node has a form, which depends on the tree, the
source and the aliases only; the form decides what the node contributes and whether the walk goes
on below it. -/
namespace ScriptAtlas
open SyntaxTree

/-- How a node is treated. -/
inductive Form where
  | function
  | classType
  | binding
  | importing
  | exporting
  | statement (idiom : Idiom)
  | sealed
  | passing

namespace Form

/-- The form of a node. Declarations of variables count at module level only. -/
def of (source : Source) (aliases : Aliases) (cursor : Cursor) : Form :=
  let kind := cursor.node.kind
  if kind.isFunctionDeclaration then .function
  else if kind.isClass then .classType
  else if kind.isVariableDeclaration then
    if cursor.isModuleLevel then .binding else .passing
  else if kind = .importStatement then .importing
  else if kind = .exportStatement then .exporting
  else if kind = .expressionStatement then
    .statement (Idiom.ofStatement source aliases cursor.node)
  else if kind.isFunctionValue then
    if cursor.isTransparent then .passing else .sealed
  else .passing

/-- Whether the children of a node are visited too. -/
def enters : Form → Bool
  | .function | .classType | .binding | .importing | .sealed => false
  | .exporting | .passing => true
  | .statement idiom => !idiom.consumes

/-- What a node of a form adds to the tables. -/
def contribution (context : Context) (cursor : Cursor) : Form → Contribution
  | .function => (context.functionDeclaration? cursor).elim {} .ofDeclared
  | .classType => (context.class? cursor none).elim {} .ofDeclared
  | .binding => context.variableDeclaration cursor
  | .importing => (context.source.importStatement? cursor.node).elim {} .ofImport
  | .exporting => context.source.exportStatement cursor.node
  | .statement idiom => idiom.contribution context cursor
  | .sealed | .passing => {}

end Form

namespace Context

/-- Visit one node: the tables after it, and whether its children are to be visited too. -/
def visitOne (context : Context) (aliases : Aliases) (cursor : Cursor) (table : Table) :
    Table × Bool :=
  let form := Form.of context.source aliases cursor
  (table.absorb (form.contribution context cursor), form.enters)

/-- Visit a stack of nodes, the first one first. -/
def visit (context : Context) (aliases : Aliases) (stack : List Cursor) (table : Table) : Table :=
  match stack with
  | [] => table
  | cursor :: rest =>
    let (grown, enters) := context.visitOne aliases cursor table
    if enters then context.visit aliases (cursor.children ++ rest) grown
    else context.visit aliases rest grown
termination_by Cursor.weight stack
decreasing_by
  · have := cursor.weight_children
    rw [Cursor.weight_append, Cursor.weight_cons]; omega
  · have := cursor.node.size_pos
    rw [Cursor.weight_cons]; omega

end Context
end ScriptAtlas
