import ScriptAtlas.Proofs.FanOut

/-! Functions that are constructors in disguise. The bounded search for an assignment to a member of
`this` finds what a short way through statements and blocks leads to; and of all symbols at the top
level of a file exactly those are marked as constructors that were built from such a function. -/
namespace ScriptAtlas
open SyntaxTree Extract

namespace SyntaxTree.Node

variable {node : Node}

end SyntaxTree.Node

namespace Form

variable {source : Source} {aliases : Aliases} {cursor : Cursor}

end Form

namespace Idiom

variable {source : Source} {aliases : Aliases} {function : Node} {targets : List Target}

end Idiom

namespace Symbol

variable {symbol : Symbol}

@[simp] theorem promote_name (symbol : Symbol) (function : Node) :
    (symbol.promote function).name = symbol.name := by
  rw [promote_eq]

/-- A symbol that was no constructor before is one after promotion exactly if its function is. -/
theorem promote_isConstructor (plain : symbol.details.isConstructor = false) (function : Node) :
    (symbol.promote function).details.isConstructor =
      function.isConstructorFunction symbol.name := by
  rw [promote_eq]
  cases promoted : function.isConstructorFunction symbol.name with
  | true => simp [details]
  | false => simpa [details] using plain

theorem promote_kind_of_isConstructor (plain : symbol.details.isConstructor = false)
    {function : Node} (promoted : (symbol.promote function).details.isConstructor = true) :
    (symbol.promote function).kind = .classType := by
  rw [promote_isConstructor plain] at promoted
  simp [promote_eq, promoted]

end Symbol

namespace Context

/-- The symbols that are built from a function under a name of its own: a function declaration, a
function value that a declarator binds to a variable, and a function that is assigned to a member
of the export object. `origin` is the node that the walk found it at. -/
inductive BuiltFrom (context : Context) (aliases : Aliases) (origin : Cursor) :
    Node → Symbol → Prop where
  | declaration (nameNode : Node)
      (kind : origin.node.kind = .functionDeclaration ∨
        origin.node.kind = .generatorFunctionDeclaration)
      (named : origin.node.child? .name = some nameNode) :
      BuiltFrom context aliases origin origin.node
        (context.functionSymbol origin origin.node (context.source.text nameNode)
          origin.isExported none).symbol
  | declarator (declarator : Cursor) (nameNode value : Node)
      (kind : origin.node.kind = .lexicalDeclaration ∨ origin.node.kind = .variableDeclaration)
      (member : declarator ∈ origin.namedChildren)
      (declares : declarator.node.kind = .variableDeclarator)
      (named : declarator.node.child? .name = some nameNode)
      (single : nameNode.kind = .identifier)
      (initial : declarator.node.child? .value = some value)
      (function : value.chainValue.kind = .functionExpression ∨
        value.chainValue.kind = .generatorFunction ∨ value.chainValue.kind = .arrowFunction) :
      BuiltFrom context aliases origin value.chainValue
        (context.functionSymbol declarator value.chainValue (context.source.text nameNode)
          origin.isExported (some (context.source.docComment origin))).symbol
  | exportsMember (expression function left : Node) (links : List Node) (name : String)
      (kind : origin.node.kind = .expressionStatement)
      (first : origin.node.firstNamed? = some expression)
      (assignment : expression.kind = .assignmentExpression)
      (chain : expression.Chain links function)
      (value : function.kind = .functionExpression ∨ function.kind = .generatorFunction ∨
        function.kind = .arrowFunction)
      (link : left ∈ links) (bound : context.source.Binds aliases left ⟨name, none⟩) :
      BuiltFrom context aliases origin function
        (context.assignedSymbol origin function (context.bodyOf function).calls
          (context.source.docComment origin) ⟨name, none⟩)

variable {context : Context} {aliases : Aliases} {origin : Cursor} {function : Node}
  {symbol : Symbol}

theorem BuiltFrom.isConstructor (built : context.BuiltFrom aliases origin function symbol) :
    symbol.details.isConstructor = function.isConstructorFunction symbol.name := by
  cases built with
  | declaration | declarator | exportsMember =>
    exact (Symbol.promote_isConstructor rfl _).trans (by simp [functionSymbol, assignedSymbol])

theorem BuiltFrom.kind (built : context.BuiltFrom aliases origin function symbol)
    (promoted : symbol.details.isConstructor = true) : symbol.kind = .classType := by
  cases built with
  | declaration | declarator | exportsMember =>
    exact Symbol.promote_kind_of_isConstructor rfl promoted

end Context
end ScriptAtlas
