import ScriptAtlas.SyntaxTree.Node

/-! The modifiers of a declaration, read from its immediate children in any order. -/
namespace ScriptAtlas.Extract
open SyntaxTree

structure Modifiers where
  isAsync : Bool
  isGenerator : Bool
  isStatic : Bool
  isGetter : Bool
  isSetter : Bool
deriving DecidableEq

/-- Generator functions are generators by their kind as well as by a star. -/
def Modifiers.of (node : Node) : Modifiers :=
  let carries (kind : Kind) : Bool := node.children.any (·.kind == kind)
  { isAsync := carries .asyncToken
    isGenerator := node.kind.isGenerator || carries .starToken
    isStatic := carries .staticToken
    isGetter := carries .getToken
    isSetter := carries .setToken }

/-- A word in front of a signature, if its condition holds. -/
def wordIf (condition : Bool) (word : String) : String := if condition then word else ""

end ScriptAtlas.Extract
