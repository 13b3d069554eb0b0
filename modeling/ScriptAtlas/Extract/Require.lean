import ScriptAtlas.Extract.Chain
import ScriptAtlas.Record.Import

/-! Expressions that name other modules or the owners of methods: `require("path")` and
`Owner.prototype`. -/
namespace ScriptAtlas.Source
open SyntaxTree

/-- The path of `require("path")`. -/
def requirePath? (source : Source) (node : Node) : Option String := do
  guard (node.kind = .callExpression)
  let callee ← node.child? .callee
  guard (callee.kind = .identifier ∧ source.text callee = "require")
  let list ← node.child? .arguments
  let first ← list.firstNamed?
  source.stringValue? first

/-- The text of `Owner` in `Owner.prototype`. -/
def prototypeOwner? (source : Source) (node : Node) : Option String := do
  guard (node.kind = .memberExpression)
  let property ← node.child? .property
  guard (source.text property = "prototype")
  let object ← node.child? .object
  return source.text object

/-- A member of the module's export object, as a left side. -/
def isExportsMember (source : Source) (node : Node) : Bool :=
  node.kind == .memberExpression && (node.child? .object).any source.isModuleExports

/-- The import of an assignment `exports.name = require("path")`. -/
def requiredExport? (source : Source) (expression : Node) : Option Import := do
  guard (expression.kind = .assignmentExpression)
  let left ← expression.child? .left
  let right ← expression.child? .right
  guard (source.isExportsMember left)
  let path ← source.requirePath? right
  return {
    path
    binding := source.fieldText? left .property
    isCommonJs := true
    location := source.location expression }

/-- The import of a variable bound to `require("path")` or to one of its members. -/
def requiredBinding? (source : Source) (value : Node) (name : String) (declarator : Node) :
    Option Import :=
  let bound (path : String) (names : List String) : Import :=
    { path
      binding := some name
      names
      isCommonJs := true
      location := source.location declarator }
  match value.kind with
  | .callExpression => (source.requirePath? value).map fun path => bound path []
  | .memberExpression => do
    let object ← value.child? .object
    let property ← value.child? .property
    let path ← source.requirePath? object
    return bound path [source.text property]
  | _ => none

/-- The names that an assignment to the export object, or to one of its members, makes public. -/
def publishedNames (source : Source) (expression : Node) : List String :=
  if expression.kind = .assignmentExpression then
    match expression.child? .left, expression.child? .right with
    | some left, some right =>
      let whole := source.text left == "module.exports"
      if right.kind = .identifier then
        if whole || source.isExportsMember left then [source.text right] else []
      else if right.kind = .objectLiteral ∧ whole then
        right.namedChildren.filterMap fun member =>
          if member.kind = .shorthandPropertyIdentifier then some (source.text member)
          else if member.kind = .pair then
            ((member.child? .value).filter (·.kind = .identifier)).map source.text
          else none
      else []
    | _, _ => []
  else []

end ScriptAtlas.Source
