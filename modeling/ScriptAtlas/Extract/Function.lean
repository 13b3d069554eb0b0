import ScriptAtlas.Extract.Contribution
import ScriptAtlas.Extract.Scope
import ScriptAtlas.Extract.Signature
import ScriptAtlas.Text.Uppercase

/-! Functions as symbols, and the functions that are constructors in disguise. -/
namespace ScriptAtlas
open SyntaxTree Extract

namespace SyntaxTree.Node

/-- An assignment to a member of `this`. -/
def assignsThis (assignment : Node) : Bool :=
  (((assignment.child? .left).filter (·.kind = .memberExpression)).bind (·.child? .object)).any
    (·.kind == .thisExpression)

/-- Search for an assignment to a member of `this` among the named children of a node, going down
through at most `fuel` expression statements and blocks. -/
def hasThisAssignment : (fuel : Nat) → Node → Bool
  | 0, node => node.namedChildren.any fun child =>
    child.kind == .assignmentExpression && child.assignsThis
  | fuel + 1, node => node.namedChildren.any fun child =>
    match child.kind with
    | .assignmentExpression => child.assignsThis
    | .expressionStatement | .statementBlock => hasThisAssignment fuel child
    | _ => false

/-- How many statements deep a constructor may hide its first assignment. -/
def thisSearchDepth : Nat := 8

/-- A function that builds objects: not an arrow function, named in upper case, and assigning to
a member of `this` in its own body. -/
def isConstructorFunction (function : Node) (name : String) : Bool :=
  function.kind != .arrowFunction && Text.Uppercase.beginsUpper name &&
    (function.child? .body).any (hasThisAssignment thisSearchDepth)

end SyntaxTree.Node

/-- A constructor function becomes a class. -/
def Symbol.promote (symbol : Symbol) (function : Node) : Symbol :=
  if function.isConstructorFunction symbol.name then
    { symbol with
      kind := .classType
      metadata := some { symbol.details with isConstructor := true } }
  else symbol

/-- The metadata that a function has whatever it is bound to. -/
def Extract.Modifiers.functionMetadata (modifiers : Modifiers) : SymbolMetadata :=
  { isAsync := modifiers.isAsync, isGenerator := modifiers.isGenerator }

namespace Context

/-- A function under a name. `anchor` gives its place and its doc comment, unless one is given;
`function` gives the rest. -/
def functionSymbol (context : Context) (anchor : Cursor) (function : Node) (name : String)
    (exported : Bool) (docComment : Option String) : Declared :=
  let body := context.bodyOf function
  let symbol := context.source.symbolAt anchor name .function {
    signature := context.source.functionSignature function name
    docComment
    exported
    calls := body.calls
    metadata := some (Modifiers.of function).functionMetadata }
  { symbol := symbol.promote function, imports := body.imports, notices := body.notices }

/-- A function declaration; one without a name declares nothing. -/
def functionDeclaration? (context : Context) (cursor : Cursor) : Option Declared := do
  let name ← context.source.fieldText? cursor.node .name
  guard !name.isEmpty
  return context.functionSymbol cursor cursor.node name cursor.isExported none

end Context
end ScriptAtlas
