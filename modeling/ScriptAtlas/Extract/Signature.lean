import ScriptAtlas.Extract.Modifiers
import ScriptAtlas.Source
import ScriptAtlas.Text.Excerpt

/-! Signatures: readable heads of declarations, not source that parses again. -/
namespace ScriptAtlas.Source
open SyntaxTree Extract

/-- The parameters as written, comments left out; an arrow function may have a single bare one. -/
def parameters (source : Source) (function : Node) : List String :=
  match function.child? .parameters with
  | some list => list.operands.map source.text
  | none => (source.fieldText? function .parameter).toList

/-- The parameters between parentheses. -/
def parameterList (source : Source) (function : Node) : String :=
  "(" ++ ", ".intercalate (source.parameters function) ++ ")"

def classSignature (name : String) (parent : Option String) : String :=
  match parent with
  | some base => "class " ++ name ++ " extends " ++ base
  | none => "class " ++ name

/-- The head of a function under a name, which need not be the function's own. -/
def functionSignature (source : Source) (function : Node) (name : String) : String :=
  let modifiers := Modifiers.of function
  wordIf modifiers.isAsync "async " ++
    if function.kind = .arrowFunction then name ++ " = " ++ source.parameterList function ++ " =>"
    else
      (if modifiers.isGenerator then "function* " else "function ") ++ name ++
        source.parameterList function

/-- The head of a method with its modifiers in a fixed order. -/
def methodSignature (source : Source) (function : Node) (name : String) : String :=
  let modifiers := Modifiers.of function
  wordIf modifiers.isStatic "static " ++ wordIf modifiers.isAsync "async " ++
    wordIf modifiers.isGetter "get " ++ wordIf modifiers.isSetter "set " ++
    wordIf modifiers.isGenerator "*" ++ name ++ source.parameterList function

/-- The body of an arrow function with a blank before it, if it is an expression of at most thirty
bytes. -/
def inlineBody (source : Source) (arrow : Node) : String :=
  match arrow.child? .body with
  | none => ""
  | some body =>
    let text := source.text body
    if body.kind ≠ .statementBlock ∧ text.utf8ByteSize ≤ 30 then " " ++ text else ""

/-- A variable with its initial value: the head of an arrow function, else an excerpt. -/
def variableSignature (source : Source) (keyword name : String) (value? : Option Node) : String :=
  keyword ++ " " ++ name ++
    match value? with
    | none => ""
    | some value =>
      if value.kind = .arrowFunction then
        (if (Modifiers.of value).isAsync then " = async " else " = ") ++
          source.parameterList value ++ " =>" ++ source.inlineBody value
      else " = " ++ Text.excerpt (source.text value) 50

/-- A class field with an excerpt of its initial value. -/
def fieldSignature (source : Source) (node : Node) (name : String) : String :=
  wordIf (Modifiers.of node).isStatic "static " ++ name ++
    match node.child? .value with
    | none => ""
    | some value => " = " ++ Text.excerpt (source.text value) 30

end ScriptAtlas.Source
