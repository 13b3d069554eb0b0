import ScriptAtlas.Extract.Completion
import ScriptAtlas.Record.Report

/-! The extraction of one file from its tree. -/
namespace ScriptAtlas
open SyntaxTree

/-- The result of an extraction and the notices on its course. -/
structure Outcome where
  extraction : Extraction
  notices : List Notice

namespace Context

/-- The tables of a file after the walk over its tree. -/
def tables (context : Context) (aliases : Aliases) (root : Node) : Table :=
  context.visit aliases [.root root] {}

/-- The diagnostics of the tree itself. -/
def treeErrors (context : Context) (root : Node) : List String :=
  if root.hasError then [context.source.path ++ ": syntax errors present in tree"] else []

/-- Extract the symbols and imports of a file. The language is only mentioned in a notice. -/
def extract (context : Context) (includePrivate : Bool) (language : String) (root : Node) :
    Outcome :=
  let aliases := Aliases.resolve context.source root
  let table := context.tables aliases root
  let walked := table.symbols.toList
  let complete := completeSymbols context.source aliases table.published walked
  let symbols := visibleSymbols includePrivate complete
  let imports := table.imports.toList
  let aliasNotices :=
    if aliases.names.isEmpty then [] else [Notice.aliases aliases.names.length aliases.typeName]
  let classNotices :=
    if aliases.names.isEmpty then [] else [Notice.synthetic (complete.length - walked.length)]
  let privacyNotices :=
    if includePrivate then [] else [Notice.dropped (complete.length - symbols.length)]
  { extraction := { symbols, imports, errors := context.treeErrors root }
    notices :=
      aliasNotices ++ table.notices.toList ++ classNotices ++ privacyNotices ++
        [.finished language symbols.length imports.length] }

end Context
end ScriptAtlas
