import ScriptAtlas.Extract.Traversal

/-! The last pass over the tables: exports reach back to earlier declarations, the type that the
aliases stand for gets a class, and private symbols may be dropped. -/
namespace ScriptAtlas
open SyntaxTree

/-- A symbol whose name is an alias or was published anywhere in the file is exported. -/
def Symbol.publish (symbol : Symbol) (aliases : Aliases) (published : List String) : Symbol :=
  if aliases.contains symbol.name || published.contains symbol.name then
    { symbol with exported := true }
  else symbol

namespace Aliases

/-- The class of the aliases stands where the first of them is declared, else on the first line. -/
def location (aliases : Aliases) (path : String) (symbols : List Symbol) : Location :=
  let declared := aliases.names.head?.bind fun first => symbols.find? (·.name == first)
  (declared.map (·.location)).getD ⟨path, 1, 0, 1, 0⟩

/-- The class made for the aliases; its members are the methods attached to them. -/
def syntheticClass (aliases : Aliases) (source : Source) (symbols : List Symbol) : Symbol :=
  let location := aliases.location source.path symbols
  let children := symbols.filter (·.receiver == some aliases.typeName)
  { id := source.identifier aliases.typeName location.startLine
    name := aliases.typeName
    kind := .classType
    location
    signature := Source.classSignature aliases.typeName none
    docComment := "Synthetic class for module alias(es): " ++ ", ".intercalate aliases.names
    exported := true
    receiver := none
    children
    calls := []
    metadata := some {
      methods := (children.filter (·.kind == .method)).map Symbol.methodSignature } }

/-- A class is made only if there are aliases and no class or interface has their type's name. -/
def synthetic? (aliases : Aliases) (source : Source) (symbols : List Symbol) : Option Symbol :=
  if aliases.names.isEmpty || symbols.any fun symbol =>
      symbol.isClassLike && symbol.name == aliases.typeName then none
  else some (aliases.syntheticClass source symbols)

end Aliases

/-- The symbols after the last pass, before any are dropped. -/
def completeSymbols (source : Source) (aliases : Aliases) (published : List String)
    (symbols : List Symbol) : List Symbol :=
  let marked := symbols.map (·.publish aliases published)
  marked ++ (aliases.synthetic? source marked).toList

/-- Leave out what is not exported, unless private symbols are wanted. -/
def visibleSymbols (includePrivate : Bool) (symbols : List Symbol) : List Symbol :=
  if includePrivate then symbols else symbols.filter (·.exported)

end ScriptAtlas
