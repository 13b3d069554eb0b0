import ScriptAtlas.Extract.Require
import ScriptAtlas.Notice
import ScriptAtlas.Text.Split

/-! Inheritance written without classes: `inherits`, `setPrototypeOf`, `Object.assign`, mixins and
`Object.create`. -/
namespace ScriptAtlas.Source
open SyntaxTree

/-- The text of a type expression without a final `.prototype`. -/
def ownerText (source : Source) (node : Node) : String :=
  Text.dropEnding ".prototype" (source.text node)

/-- The arguments of a call, comments left out. -/
def callArguments (call : Node) : List Node := (call.child? .arguments).elim [] (·.operands)

/-- The name under which something is called, and whether it is a member of something else. -/
def calleeName? (source : Source) (callee : Node) : Option (String × Bool) :=
  match callee.kind with
  | .identifier => some (source.text callee, false)
  | .memberExpression => (source.fieldText? callee .property).map (·, true)
  | _ => none

/-- The edge of `inherits(Child, Parent)`: the first two arguments. -/
def directEdge? (source : Source) : List Node → Option Edge
  | child :: parent :: _ => some ⟨source.ownerText child, source.ownerText parent⟩
  | _ => none

/-- The edge of `Object.assign(Child.prototype, ...)`: the parent is the last prototype. -/
def assignEdge? (source : Source) : List Node → Option Edge
  | [] => none
  | target :: rest => do
    let _ ← source.prototypeOwner? target
    let parent ← rest.reverse.findSome? source.prototypeOwner?
    return ⟨source.ownerText target, parent⟩

/-- The edge of `mixin(Child, ...)`: the parent is the last argument that names something. -/
def mixinEdge? (source : Source) : List Node → Option Edge
  | [] => none
  | target :: rest => do
    let parent ← rest.reverse.find? fun argument =>
      argument.kind == .identifier || argument.kind == .memberExpression
    return ⟨source.ownerText target, source.ownerText parent⟩

/-- The edge of a call. The name of the function decides which form it has; a call of one form is
never read as another. -/
def callEdge? (source : Source) (call : Node) : Option Edge := do
  let callee ← call.child? .callee
  let (name, qualified) ← source.calleeName? callee
  let arguments := callArguments call
  if name = "inherits" ∨ (name = "setPrototypeOf" ∧ !qualified) then source.directEdge? arguments
  else if qualified ∧ source.text callee = "Object.assign" then source.assignEdge? arguments
  else if "mixin".toList.isSuffixOf name.toList then source.mixinEdge? arguments
  else none

/-- The edge of `Child.prototype = Object.create(Parent.prototype)`. -/
def createEdge? (source : Source) (assignment : Node) : Option Edge := do
  let left ← assignment.child? .left
  let child ← source.prototypeOwner? left
  let right ← assignment.child? .right
  guard (right.kind = .callExpression)
  let callee ← right.child? .callee
  guard (source.text callee = "Object.create")
  let parent ← (callArguments right).head?
  return ⟨child, source.ownerText parent⟩

/-- The inheritance edge that an expression states. -/
def edge? (source : Source) (expression : Node) : Option Edge :=
  match expression.kind with
  | .callExpression => source.callEdge? expression
  | .assignmentExpression => source.createEdge? expression
  | _ => none

end ScriptAtlas.Source
