import ScriptAtlas.Extract.Function

/-! Classes with their members. -/
namespace ScriptAtlas
open SyntaxTree Extract

/-- Members named `#x` are private, those named `_x` protected by convention. -/
def SyntaxTree.Node.accessModifier (nameNode : Node) (name : String) : Option String :=
  if nameNode.kind = .privatePropertyIdentifier ∨ name.toList.head? = some '#' then some "private"
  else if name.toList.head? = some '_' then some "protected"
  else none

/-- The text of the expression that a class extends. -/
def Source.heritage? (source : Source) (node : Node) : Option String := do
  let heritage ← node.childOf? .classHeritage
  let target ← heritage.operands.head?
  return source.text target

namespace Context

/-- A method definition of a class. -/
def methodMember? (context : Context) (cursor : Cursor) (owner : String) : Option Declared := do
  let nameNode ← cursor.node.child? .name
  let name := context.source.text nameNode
  guard !name.isEmpty
  let modifiers := Modifiers.of cursor.node
  let access := nameNode.accessModifier name
  let body := context.bodyOf cursor.node
  let symbol := context.source.symbolAt cursor name .method {
    signature := context.source.methodSignature cursor.node name
    exported := access != some "private"
    receiver := some owner
    calls := body.calls
    metadata := some { modifiers.functionMetadata with
      isStatic := modifiers.isStatic
      isConstructor := name == "constructor" && !modifiers.isStatic
      accessModifier := access } }
  return { symbol, imports := body.imports, notices := body.notices }

/-- A field of a class; a field that holds a function is a method. -/
def fieldMember? (context : Context) (cursor : Cursor) (owner : String) : Option Declared := do
  let nameNode ← cursor.node.child? .property
  let name := context.source.text nameNode
  guard !name.isEmpty
  let access := nameNode.accessModifier name
  let exported := access != some "private"
  let isStatic := (Modifiers.of cursor.node).isStatic
  match (cursor.node.child? .value).filter (·.kind.isFunctionValue) with
  | none =>
    return {
      symbol := context.source.symbolAt cursor name .field {
        signature := context.source.fieldSignature cursor.node name
        exported
        receiver := some owner
        metadata := some { isStatic, accessModifier := access } } }
  | some function =>
    let body := context.bodyOf function
    let symbol := context.source.symbolAt cursor name .method {
      signature := wordIf isStatic "static " ++ context.source.methodSignature function name
      exported
      receiver := some owner
      calls := body.calls
      metadata := some { (Modifiers.of function).functionMetadata with
        isStatic
        accessModifier := access } }
    return { symbol, imports := body.imports, notices := body.notices }

def classMember? (context : Context) (owner : String) (cursor : Cursor) : Option Declared :=
  if cursor.node.kind = .methodDefinition then context.methodMember? cursor owner
  else if cursor.node.kind.isField then context.fieldMember? cursor owner
  else none

def classMembers (context : Context) (cursor : Cursor) (owner : String) : List Declared :=
  match cursor.child? .body with
  | none => []
  | some body => body.namedChildren.filterMap (context.classMember? owner)

/-- A class under a name. -/
def classSymbol (context : Context) (cursor : Cursor) (name : String) : Declared :=
  let parent := context.source.heritage? cursor.node
  let members := context.classMembers cursor name
  let children := members.map (·.symbol)
  let symbol := context.source.symbolAt cursor name .classType {
    signature := Source.classSignature name parent
    exported := cursor.isExported
    metadata := some { parent, methods := SymbolMetadata.summarize children } }
  { symbol := { symbol with children }
    imports := members.flatMap (·.imports)
    notices := members.flatMap (·.notices) }

/-- A class under the name given to it, else under its own; without a name it declares nothing. -/
def class? (context : Context) (cursor : Cursor) (given : Option String) : Option Declared := do
  let name ← given.or (context.source.fieldText? cursor.node .name)
  guard !name.isEmpty
  return context.classSymbol cursor name

end Context
end ScriptAtlas
