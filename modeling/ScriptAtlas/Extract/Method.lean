import ScriptAtlas.Extract.Aliases
import ScriptAtlas.Extract.Function

/-! Methods attached by assignment: to an alias of the module, to the prototype of a type, to the
export object, or as members of a prototype object. -/
namespace ScriptAtlas
open SyntaxTree Extract

/-- A function bound by one link of an assignment chain: a method of an owner, or without an owner
a function of the module. -/
structure Target where
  name : String
  owner : Option String
deriving DecidableEq

/-- A function written as a member of a prototype object. -/
structure LiteralMethod where
  name : String
  member : Cursor
  function : Node

namespace Source

/-- What the left side of an assignment binds a function to. -/
def target? (source : Source) (aliases : Aliases) (left : Node) : Option Target := do
  guard (left.kind = .memberExpression)
  let object ← left.child? .object
  let property ← left.child? .property
  let name := source.text property
  guard !name.isEmpty
  if object.kind = .identifier ∧ aliases.contains (source.text object) then
    return ⟨name, some aliases.typeName⟩
  else
    match source.prototypeOwner? object with
    | some owner => return ⟨name, some owner⟩
    | none => if source.isModuleExports object then return ⟨name, none⟩ else none

/-- The key and the function of an object member, if it holds a function. -/
def memberFunction? (member : Node) : Option (Node × Node) :=
  match member.kind with
  | .pair => do
    let key ← member.child? .key
    let value ← member.child? .value
    guard value.kind.isFunctionValue
    return (key, value)
  | .methodDefinition => (member.child? .name).map (·, member)
  | _ => none

/-- A member of a prototype object as a method; quoted keys lose their quotes. -/
def literalMethod? (source : Source) (member : Cursor) : Option LiteralMethod := do
  let (key, function) ← memberFunction? member.node
  let name := (source.stringValue? key).getD (source.text key)
  guard !name.isEmpty
  return ⟨name, member, function⟩

end Source

namespace Context

/-- The symbol of one link of a chain, placed at the whole statement. -/
def assignedSymbol (context : Context) (statement : Cursor) (function : Node)
    (calls : List CallSite) (docComment : String) (target : Target) : Symbol :=
  let symbol (kind : SymbolKind) : Symbol :=
    context.source.symbolAt statement target.name kind {
      signature := context.source.functionSignature function target.name
      docComment := some docComment
      exported := true
      receiver := target.owner
      calls
      metadata := some (Modifiers.of function).functionMetadata }
  match target.owner with
  | some _ => symbol .method
  | none => (symbol .function).promote function

/-- The symbols of all links of a chain; they share one reading of the function's body. -/
def assignedMethods (context : Context) (statement : Cursor) (function : Node)
    (targets : List Target) : Contribution :=
  let body := context.bodyOf function
  let docComment := context.source.docComment statement
  { symbols := targets.map (context.assignedSymbol statement function body.calls docComment)
    imports := body.imports
    notices := body.notices }

def literalSymbol (context : Context) (owner : String) (method : LiteralMethod) : Declared :=
  let { name, member, function } := method
  let body := context.bodyOf function
  let symbol := context.source.symbolAt member name .method {
    signature :=
      if function.kind = .methodDefinition then context.source.methodSignature function name
      else context.source.functionSignature function name
    exported := true
    receiver := some owner
    calls := body.calls
    metadata := some (Modifiers.of function).functionMetadata }
  { symbol, imports := body.imports, notices := body.notices }

/-- The methods of a prototype object. -/
def literalMethods (context : Context) (owner : String) (methods : List LiteralMethod) :
    Contribution :=
  .join (methods.map fun method => .ofDeclared (context.literalSymbol owner method))

end Context
end ScriptAtlas
