import ScriptAtlas.Extract.Inheritance
import ScriptAtlas.Extract.Method

/-! What an expression statement means to the file: it may import, attach methods, state
inheritance, or publish names. Each statement is read in one way only. -/
namespace ScriptAtlas
open SyntaxTree

inductive Idiom where
  | required (dependency : Import)
  | assigned (function : Node) (targets : List Target)
  | literal (owner : String) (methods : List LiteralMethod)
  | inherits (edge : Edge)
  | plain (published : List String)

namespace Idiom

/-- The methods that an assignment attaches. A prototype object needs a single left side. -/
def methods? (source : Source) (aliases : Aliases) (expression : Node) : Option Idiom :=
  if expression.kind = .assignmentExpression then
    let (links, value) := expression.chainLinks
    if value.kind = .objectLiteral then
      match links with
      | [left] => do
        let owner ← source.prototypeOwner? left
        let methods := (Cursor.root value).namedChildren.filterMap source.literalMethod?
        guard !methods.isEmpty
        return .literal owner methods
      | _ => none
    else if value.kind.isFunctionValue then do
      let targets := links.filterMap (source.target? aliases)
      guard !targets.isEmpty
      return .assigned value targets
    else none
  else none

/-- The reading of an expression; the first that applies counts. -/
def ofExpression (source : Source) (aliases : Aliases) (expression : Node) : Idiom :=
  match source.requiredExport? expression with
  | some dependency => .required dependency
  | none =>
    match methods? source aliases expression with
    | some methods => methods
    | none =>
      match source.edge? expression with
      | some edge => .inherits edge
      | none => .plain (source.publishedNames expression)

/-- The reading of a statement; without an expression it means nothing. -/
def ofStatement (source : Source) (aliases : Aliases) (statement : Node) : Idiom :=
  match statement.firstNamed? with
  | none => .plain []
  | some expression => ofExpression source aliases expression

/-- Whether the statement is dealt with completely, so that nothing inside it is looked at. -/
def consumes : Idiom → Bool
  | .plain _ => false
  | _ => true

def contribution (context : Context) (statement : Cursor) : Idiom → Contribution
  | .required dependency => .ofImport dependency
  | .assigned function targets => context.assignedMethods statement function targets
  | .literal owner methods => context.literalMethods owner methods
  | .inherits edge => { edge := some edge }
  | .plain published => { published }

end Idiom
end ScriptAtlas
