import ScriptAtlas.Extract.Calls
import ScriptAtlas.Record.Symbol

/-! What a node adds to the tables of its file. -/
namespace ScriptAtlas

/-- A symbol, with the dynamic imports and the notices of the bodies that were read for it. -/
structure Declared where
  symbol : Symbol
  imports : List Import := []
  notices : List Notice := []

/-- The additions of one node: new symbols and imports, names made public, and possibly an
inheritance edge between symbols of the table. -/
structure Contribution where
  symbols : List Symbol := []
  imports : List Import := []
  published : List String := []
  edge : Option Edge := none
  notices : List Notice := []

namespace Contribution

def ofDeclared (declared : Declared) : Contribution :=
  { symbols := [declared.symbol], imports := declared.imports, notices := declared.notices }

def ofImport (dependency : Import) : Contribution := { imports := [dependency] }

/-- Several contributions without edges as one. -/
def join (parts : List Contribution) : Contribution :=
  { symbols := parts.flatMap (·.symbols)
    imports := parts.flatMap (·.imports)
    published := parts.flatMap (·.published)
    notices := parts.flatMap (·.notices) }

end Contribution

/-- The tables of a file while it is read. -/
structure Table where
  symbols : Array Symbol := #[]
  imports : Array Import := #[]
  published : List String := []
  notices : Array Notice := #[]

namespace Table

/-- Record an edge at the first symbol with the child's name; without one it is only noted. -/
def inherit (table : Table) (edge : Edge) : Table :=
  match table.symbols.findIdx? (·.name == edge.child) with
  | some index =>
    { table with symbols := table.symbols.modify index (·.setParent edge.parent) }
  | none => { table with notices := table.notices.push (.orphan edge) }

/-- Add a contribution; an edge finds the symbols added before it. -/
def absorb (table : Table) (part : Contribution) : Table :=
  let added : Table :=
    { symbols := table.symbols.appendList part.symbols
      imports := table.imports.appendList part.imports
      published := part.published ++ table.published
      notices := table.notices.appendList part.notices }
  match part.edge with
  | some edge => added.inherit edge
  | none => added

end Table
end ScriptAtlas
