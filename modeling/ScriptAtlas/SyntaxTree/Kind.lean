/-! The kinds of syntax tree nodes. Kinds that extraction looks at have a constructor each; any
other keeps its name. A keyword token and a node of the same name have the same kind. -/
namespace ScriptAtlas.SyntaxTree

inductive Kind where
  | program | comment
  | functionDeclaration | generatorFunctionDeclaration | functionExpression | generatorFunction
  | arrowFunction
  | classDeclaration | classExpression | classBody | classHeritage | methodDefinition
  | fieldDefinition
  | publicFieldDefinition
  | lexicalDeclaration | variableDeclaration | variableDeclarator
  | importStatement | importClause | namedImports | namespaceImport | importSpecifier
  | importKeyword
  | exportStatement | exportClause | exportSpecifier | namespaceExport
  | expressionStatement | statementBlock | assignmentExpression | callExpression | newExpression
  | memberExpression
  | parenthesizedExpression | arguments | objectLiteral | pair
  | objectPattern | arrayPattern | pairPattern | restPattern | assignmentPattern
  | objectAssignmentPattern
  | identifier | propertyIdentifier | privatePropertyIdentifier | shorthandPropertyIdentifier
  | shorthandPropertyIdentifierPattern | stringLiteral | thisExpression
  | varToken | letToken | constToken | asyncToken | staticToken | getToken | setToken | starToken
  | error
  | other (name : String)
deriving DecidableEq

namespace Kind

/-- The kind of a given name. -/
def ofName : String → Kind
  | "program" => .program
  | "comment" => .comment
  | "function_declaration" => .functionDeclaration
  | "generator_function_declaration" => .generatorFunctionDeclaration
  | "function_expression" => .functionExpression
  | "generator_function" => .generatorFunction
  | "arrow_function" => .arrowFunction
  | "class_declaration" => .classDeclaration
  | "class" => .classExpression
  | "class_body" => .classBody
  | "class_heritage" => .classHeritage
  | "method_definition" => .methodDefinition
  | "field_definition" => .fieldDefinition
  | "public_field_definition" => .publicFieldDefinition
  | "lexical_declaration" => .lexicalDeclaration
  | "variable_declaration" => .variableDeclaration
  | "variable_declarator" => .variableDeclarator
  | "import_statement" => .importStatement
  | "import_clause" => .importClause
  | "named_imports" => .namedImports
  | "namespace_import" => .namespaceImport
  | "import_specifier" => .importSpecifier
  | "import" => .importKeyword
  | "export_statement" => .exportStatement
  | "export_clause" => .exportClause
  | "export_specifier" => .exportSpecifier
  | "namespace_export" => .namespaceExport
  | "expression_statement" => .expressionStatement
  | "statement_block" => .statementBlock
  | "assignment_expression" => .assignmentExpression
  | "call_expression" => .callExpression
  | "new_expression" => .newExpression
  | "member_expression" => .memberExpression
  | "parenthesized_expression" => .parenthesizedExpression
  | "arguments" => .arguments
  | "object" => .objectLiteral
  | "pair" => .pair
  | "object_pattern" => .objectPattern
  | "array_pattern" => .arrayPattern
  | "pair_pattern" => .pairPattern
  | "rest_pattern" => .restPattern
  | "assignment_pattern" => .assignmentPattern
  | "object_assignment_pattern" => .objectAssignmentPattern
  | "identifier" => .identifier
  | "property_identifier" => .propertyIdentifier
  | "private_property_identifier" => .privatePropertyIdentifier
  | "shorthand_property_identifier" => .shorthandPropertyIdentifier
  | "shorthand_property_identifier_pattern" => .shorthandPropertyIdentifierPattern
  | "string" => .stringLiteral
  | "this" => .thisExpression
  | "var" => .varToken
  | "let" => .letToken
  | "const" => .constToken
  | "async" => .asyncToken
  | "static" => .staticToken
  | "get" => .getToken
  | "set" => .setToken
  | "*" => .starToken
  | "ERROR" => .error
  | name => .other name

/-- The name of a kind. -/
def name : Kind → String
  | .program => "program"
  | .comment => "comment"
  | .functionDeclaration => "function_declaration"
  | .generatorFunctionDeclaration => "generator_function_declaration"
  | .functionExpression => "function_expression"
  | .generatorFunction => "generator_function"
  | .arrowFunction => "arrow_function"
  | .classDeclaration => "class_declaration"
  | .classExpression => "class"
  | .classBody => "class_body"
  | .classHeritage => "class_heritage"
  | .methodDefinition => "method_definition"
  | .fieldDefinition => "field_definition"
  | .publicFieldDefinition => "public_field_definition"
  | .lexicalDeclaration => "lexical_declaration"
  | .variableDeclaration => "variable_declaration"
  | .variableDeclarator => "variable_declarator"
  | .importStatement => "import_statement"
  | .importClause => "import_clause"
  | .namedImports => "named_imports"
  | .namespaceImport => "namespace_import"
  | .importSpecifier => "import_specifier"
  | .importKeyword => "import"
  | .exportStatement => "export_statement"
  | .exportClause => "export_clause"
  | .exportSpecifier => "export_specifier"
  | .namespaceExport => "namespace_export"
  | .expressionStatement => "expression_statement"
  | .statementBlock => "statement_block"
  | .assignmentExpression => "assignment_expression"
  | .callExpression => "call_expression"
  | .newExpression => "new_expression"
  | .memberExpression => "member_expression"
  | .parenthesizedExpression => "parenthesized_expression"
  | .arguments => "arguments"
  | .objectLiteral => "object"
  | .pair => "pair"
  | .objectPattern => "object_pattern"
  | .arrayPattern => "array_pattern"
  | .pairPattern => "pair_pattern"
  | .restPattern => "rest_pattern"
  | .assignmentPattern => "assignment_pattern"
  | .objectAssignmentPattern => "object_assignment_pattern"
  | .identifier => "identifier"
  | .propertyIdentifier => "property_identifier"
  | .privatePropertyIdentifier => "private_property_identifier"
  | .shorthandPropertyIdentifier => "shorthand_property_identifier"
  | .shorthandPropertyIdentifierPattern => "shorthand_property_identifier_pattern"
  | .stringLiteral => "string"
  | .thisExpression => "this"
  | .varToken => "var"
  | .letToken => "let"
  | .constToken => "const"
  | .asyncToken => "async"
  | .staticToken => "static"
  | .getToken => "get"
  | .setToken => "set"
  | .starToken => "*"
  | .error => "ERROR"
  | .other name => name

/-- Function-valued expressions. -/
def isFunctionValue : Kind → Bool
  | .functionExpression | .generatorFunction | .arrowFunction => true
  | _ => false

def isFunctionDeclaration : Kind → Bool
  | .functionDeclaration | .generatorFunctionDeclaration => true
  | _ => false

/-- Class declarations and class expressions; the keyword of either has the latter's kind. -/
def isClass : Kind → Bool
  | .classDeclaration | .classExpression => true
  | _ => false

def isVariableDeclaration : Kind → Bool
  | .lexicalDeclaration | .variableDeclaration => true
  | _ => false

/-- Class fields under either of their names. -/
def isField : Kind → Bool
  | .fieldDefinition | .publicFieldDefinition => true
  | _ => false

/-- Kinds of generator functions, whatever modifiers they carry. -/
def isGenerator : Kind → Bool
  | .generatorFunction | .generatorFunctionDeclaration => true
  | _ => false

theorem isFunctionValue_iff {kind : Kind} :
    kind.isFunctionValue = true ↔
      kind = .functionExpression ∨ kind = .generatorFunction ∨ kind = .arrowFunction := by
  cases kind <;> simp [isFunctionValue]

theorem isVariableDeclaration_iff {kind : Kind} :
    kind.isVariableDeclaration = true ↔
      kind = .lexicalDeclaration ∨ kind = .variableDeclaration := by
  cases kind <;> simp [isVariableDeclaration]

end Kind
end ScriptAtlas.SyntaxTree
