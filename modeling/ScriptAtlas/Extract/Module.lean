import ScriptAtlas.Extract.Contribution

/-! Import and export statements. -/
namespace ScriptAtlas.Source
open SyntaxTree

/-- The path after `from`. -/
def modulePath? (source : Source) (node : Node) : Option String :=
  (node.child? .source).bind source.stringValue?

/-- The child that gives a specifier its outer name: the alias if there is one. -/
def outerName? (specifier : Node) : Option Node :=
  (specifier.child? .aliasName).or (specifier.child? .name)

/-- The local names of `{ a, b as c }` in an import. -/
def importedNames (source : Source) (list : Node) : List String :=
  (list.namedChildren.filter (·.kind == .importSpecifier)).filterMap fun specifier =>
    (outerName? specifier).map source.text

/-- Take one part of an import clause into account: a default binding, a namespace or a list. -/
def bindClause (source : Source) (dependency : Import) (part : Node) : Import :=
  match part.kind with
  | .identifier => { dependency with isDefault := true, binding := some (source.text part) }
  | .namespaceImport =>
    { dependency with
      isNamespace := true
      binding := ((part.childOf? .identifier).map source.text).or dependency.binding }
  | .namedImports => { dependency with names := dependency.names ++ source.importedNames part }
  | _ => dependency

/-- The one import of an import statement. -/
def importStatement? (source : Source) (node : Node) : Option Import := do
  let path ← source.modulePath? node
  let plain : Import := { path, isModule := true, location := source.location node }
  let parts := (node.childOf? .importClause).elim [] (·.namedChildren)
  return parts.foldl source.bindClause plain

/-- The names of an export clause, picked from each specifier; quoted names lose their quotes. -/
def exportedNames (source : Source) (pick : Node → Option Node) (clause : Node) : List String :=
  (clause.namedChildren.filter (·.kind == .exportSpecifier)).filterMap fun specifier =>
    (pick specifier).map fun name => (source.stringValue? name).getD (source.text name)

/-- The import of `export ... from "path"`. -/
def reexport (source : Source) (node : Node) (path : String) : Import :=
  let plain : Import := { path, isModule := true, location := source.location node }
  match node.childOf? .exportClause with
  | some clause => { plain with names := source.exportedNames outerName? clause }
  | none =>
    { plain with
      isNamespace := true
      binding := ((node.childOf? .namespaceExport).bind (·.childOf? .identifier)).map source.text }

/-- An export statement with a path imports; one without publishes local names. -/
def exportStatement (source : Source) (node : Node) : Contribution :=
  match source.modulePath? node with
  | some path => .ofImport (source.reexport node path)
  | none =>
    match node.childOf? .exportClause with
    | some clause => { published := source.exportedNames (·.child? .name) clause }
    | none =>
      match (node.child? .value).filter (·.kind = .identifier) with
      | some value => { published := [source.text value] }
      | none => {}

end ScriptAtlas.Source
