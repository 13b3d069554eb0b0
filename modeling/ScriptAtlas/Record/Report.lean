import ScriptAtlas.Instant.Basic
import ScriptAtlas.Record.Import
import ScriptAtlas.Record.Symbol

/-! What is known about one file after its extraction. -/
namespace ScriptAtlas

/-- The symbols and imports of a file, with diagnostics that did not stop the extraction. -/
structure Extraction where
  symbols : List Symbol
  imports : List Import
  errors : List String

/-- An extraction together with the identity of the file that it describes. -/
structure Report extends Extraction where
  filePath : String
  language : String
  hash : String

/-- A report with the moment at which it was made. -/
structure DatedReport extends Report where
  parsedAt : Instant

/-- The top-level symbols of a given name. -/
def Report.symbolsNamed (report : Report) (name : String) : List Symbol :=
  report.symbols.filter (·.name == name)

end ScriptAtlas
