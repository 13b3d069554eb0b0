import ScriptAtlas.Extract.Class
import ScriptAtlas.Extract.Pattern

/-! Declarations of variables: what a declarator becomes depends on its initial value. -/
namespace ScriptAtlas
open SyntaxTree

/-- The word that opens a declaration. -/
inductive Keyword where
  | varWord
  | letWord
  | constWord
deriving DecidableEq

namespace Keyword

def text : Keyword → String
  | .varWord => "var"
  | .letWord => "let"
  | .constWord => "const"

/-- The keyword of a declaration is its first child; without one it counts as `var`. -/
def of (declaration : Node) : Keyword :=
  match declaration.children.head?.map Node.kind with
  | some .letToken => .letWord
  | some .constToken => .constWord
  | _ => .varWord

def symbolKind : Keyword → SymbolKind
  | .constWord => .constant
  | _ => .variableBinding

end Keyword

/-- What the declarators of one declaration share. -/
structure Declaration where
  keyword : Keyword
  exported : Bool
  docComment : String
deriving DecidableEq

namespace Context

/-- A symbol of a declarator with its value in the signature. -/
def boundSymbol (context : Context) (declaration : Declaration) (declarator : Cursor)
    (kind : SymbolKind) (name : String) (value? : Option Node) : Symbol :=
  context.source.symbolAt declarator name kind {
    signature := context.source.variableSignature declaration.keyword.text name value?
    docComment := some declaration.docComment
    exported := declaration.exported }

/-- A variable or constant without further structure. -/
def plainVariable (context : Context) (declaration : Declaration) (declarator : Cursor)
    (name : String) (value? : Option Node) : Symbol :=
  context.boundSymbol declaration declarator declaration.keyword.symbolKind name value?

/-- A declarator with a single name: a required module, a function, a class or a plain value. -/
def namedDeclarator (context : Context) (declaration : Declaration) (declarator : Cursor)
    (name : String) (value? : Option Node) : Contribution :=
  match value? with
  | none => { symbols := [context.plainVariable declaration declarator name none] }
  | some value =>
    let resolved := value.chainValue
    match context.source.requiredBinding? resolved name declarator.node with
    | some dependency =>
      { symbols := [context.boundSymbol declaration declarator .importBinding name value?]
        imports := [dependency] }
    | none =>
      if resolved.kind.isFunctionValue then
        .ofDeclared (context.functionSymbol declarator resolved name declaration.exported
          (some declaration.docComment))
      else if resolved.kind.isClass then
        match context.class? (.root resolved) (some name) with
        | none => {}
        | some declared =>
          .ofDeclared { declared with
            symbol := { declared.symbol with
              exported := declaration.exported
              docComment := declaration.docComment } }
      else { symbols := [context.plainVariable declaration declarator name value?] }

/-- A declarator with a pattern: an object pattern of a required module imports the bound names,
any other pattern declares a variable for each of them. -/
def patternDeclarator (context : Context) (declaration : Declaration) (declarator : Cursor)
    (pattern : Node) (value? : Option Node) : Contribution :=
  let names := context.source.patternNames pattern
  match value?.bind context.source.requirePath?, pattern.kind with
  | some path, .objectPattern =>
    .ofImport {
      path
      names
      isCommonJs := true
      location := context.source.location declarator.node }
  | _, _ =>
    { symbols := names.map fun name =>
        context.plainVariable declaration declarator name value? }

def declarator (context : Context) (declaration : Declaration) (cursor : Cursor) : Contribution :=
  match cursor.node.child? .name with
  | none => {}
  | some nameNode =>
    let value? := cursor.node.child? .value
    match nameNode.kind with
    | .identifier =>
      context.namedDeclarator declaration cursor (context.source.text nameNode) value?
    | .objectPattern | .arrayPattern =>
      context.patternDeclarator declaration cursor nameNode value?
    | _ => {}

/-- The declarators of a declaration in order. -/
def variableDeclaration (context : Context) (cursor : Cursor) : Contribution :=
  let declaration : Declaration :=
    { keyword := .of cursor.node
      exported := cursor.isExported
      docComment := context.source.docComment cursor }
  let declarators := cursor.namedChildren.filter (·.node.kind == .variableDeclarator)
  .join (declarators.map (context.declarator declaration))

end Context
end ScriptAtlas
