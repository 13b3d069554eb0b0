import ScriptAtlas.Extract.Chain

/-! Variables that stand for the public surface of their module. All of them denote one type,
named after the path of the file. -/
namespace ScriptAtlas
open SyntaxTree

/-- The alias variables of a file, sorted and without repetition, and the type that they denote. -/
structure Aliases where
  typeName : String
  names : List String
deriving DecidableEq

namespace Aliases

def empty : Aliases := ⟨"", []⟩

def contains (aliases : Aliases) (name : String) : Bool := aliases.names.contains name

/-- Each name once, in alphabetical order. -/
def ofNames (typeName : String) (names : List String) : Aliases :=
  ⟨typeName, names.eraseDups.mergeSort⟩

/-- The names that a top-level declaration binds to a chain through the export object. -/
def declaredNames (source : Source) (declaration : Node) : List String :=
  (declaration.namedChildren.filter (·.kind == .variableDeclarator)).filterMap fun declarator => do
    let nameNode ← declarator.child? .name
    guard (nameNode.kind = .identifier)
    let value ← declarator.child? .value
    guard (source.chainExports value)
    return source.text nameNode

/-- The variable of a statement `module.exports = variable`. -/
def reassignedName? (source : Source) (statement : Node) : Option String := do
  let expression ← statement.firstNamed?
  guard (expression.kind = .assignmentExpression)
  let left ← expression.child? .left
  guard (source.text left = "module.exports")
  let right ← expression.child? .right
  guard (right.kind = .identifier)
  return source.text right

/-- The alias names that one top-level node introduces. -/
def namesOf (source : Source) (node : Node) : List String :=
  if node.kind.isVariableDeclaration then declaredNames source node
  else if node.kind = .expressionStatement then (reassignedName? source node).toList
  else []

/-- The aliases of a file; only the direct children of the root are looked at. -/
def resolve (source : Source) (root : Node) : Aliases :=
  match Path.typeName? source.path with
  | none => empty
  | some typeName => ofNames typeName (root.namedChildren.flatMap (namesOf source))

end Aliases
end ScriptAtlas
