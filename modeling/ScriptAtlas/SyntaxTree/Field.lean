/-! The field labels by which a node finds one of its children. -/
namespace ScriptAtlas.SyntaxTree

inductive Field where
  | name | value | body | left | right | callee | arguments | constructorName | object | property
  | parameters | parameter | source | aliasName | key
  | other (label : String)
deriving DecidableEq

namespace Field

/-- The field of a given label. -/
def ofLabel : String → Field
  | "name" => .name
  | "value" => .value
  | "body" => .body
  | "left" => .left
  | "right" => .right
  | "function" => .callee
  | "arguments" => .arguments
  | "constructor" => .constructorName
  | "object" => .object
  | "property" => .property
  | "parameters" => .parameters
  | "parameter" => .parameter
  | "source" => .source
  | "alias" => .aliasName
  | "key" => .key
  | label => .other label

end Field
end ScriptAtlas.SyntaxTree
