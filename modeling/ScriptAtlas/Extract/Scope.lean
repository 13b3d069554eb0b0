import ScriptAtlas.SyntaxTree.Cursor

/-! Where a node stands: at module level, inside an export statement, or as a function that is
called on the spot. -/
namespace ScriptAtlas.SyntaxTree.Cursor

/-- Whether the way up leads through parentheses only and ends at a call as its callee. -/
def reachesCallee : List Frame → Bool
  | [] => false
  | frame :: rest =>
    match frame.parent.kind with
    | .parenthesizedExpression => reachesCallee rest
    | .callExpression =>
      frame.parent.children.findIdx? (·.field? == some .callee) == some frame.index
    | _ => false

/-- A function value that is called where it is written. -/
def isInvoked (cursor : Cursor) : Bool :=
  cursor.node.kind.isFunctionValue && reachesCallee cursor.above

/-- Function values whose bodies belong to the code around them: those called where they are
written, and those handed to a call. -/
def isTransparent (cursor : Cursor) : Bool :=
  cursor.isInvoked || cursor.parentKind? == some .arguments

/-- Directly under the program, an export statement, or the body of an invoked function. -/
def isModuleLevel (cursor : Cursor) : Bool :=
  match cursor.parent? with
  | none => false
  | some parent =>
    match parent.node.kind with
    | .program | .exportStatement => true
    | .statementBlock => parent.parent?.any isInvoked
    | _ => false

/-- Wrapped directly in an export statement. -/
def isExported (cursor : Cursor) : Bool := cursor.parentKind? == some .exportStatement

end ScriptAtlas.SyntaxTree.Cursor
