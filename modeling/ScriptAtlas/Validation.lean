import ScriptAtlas.Record.Report

/-! Structural checks on the symbols and imports of a file. Findings are diagnostics: they never
stop an extraction. -/
namespace ScriptAtlas

/-- One violated rule. -/
inductive Violation where
  | duplicateId (id name : String)
  | emptyName (line : UInt32)
  | startsAtZero (name : String)
  | endsBeforeStart (name : String) (last first : UInt32)
  | unexpectedChildren (name : String) (kind : SymbolKind)
  | missingReceiver (name : String)
  | emptyTarget (name : String) (line : UInt32)
  | emptyPath (line : UInt32)
deriving DecidableEq

namespace Violation

/-- The diagnostic text of a violation in the file at `path`. -/
def message (path : String) (violation : Violation) : String :=
  path ++ ": " ++
    match violation with
    | .duplicateId id name => "duplicate symbol id " ++ id ++ " for " ++ name
    | .emptyName line => "symbol at line " ++ toString line.toNat ++ " has an empty name"
    | .startsAtZero name => name ++ " has start line 0"
    | .endsBeforeStart name last first =>
      name ++ " ends (line " ++ toString last.toNat ++ ") before it starts (line " ++
        toString first.toNat ++ ")"
    | .unexpectedChildren name kind => name ++ " is a " ++ kind.name ++ " but has children"
    | .missingReceiver name => "member " ++ name ++ " has no receiver"
    | .emptyTarget name line =>
      name ++ " has a call site with an empty target at line " ++ toString line.toNat
    | .emptyPath line => "import at line " ++ toString line.toNat ++ " has an empty path"

/-- The violations of a symbol taken by itself, as a member or at the top level. -/
def ofSymbol (symbol : Symbol) (isMember : Bool) : List Violation :=
  (if symbol.name.isEmpty then [.emptyName symbol.location.startLine] else []) ++
  (if symbol.location.startLine < 1 then [.startsAtZero symbol.name] else []) ++
  (if symbol.location.endLine < symbol.location.startLine then
    [.endsBeforeStart symbol.name symbol.location.endLine symbol.location.startLine] else []) ++
  (if !symbol.children.isEmpty && symbol.kind != .classType then
    [.unexpectedChildren symbol.name symbol.kind] else []) ++
  (if isMember && symbol.receiver.isNone then [.missingReceiver symbol.name] else []) ++
  (symbol.calls.filter (·.target.isEmpty)).map
    fun call => .emptyTarget symbol.name call.location.startLine

mutual
/-- The violations of a symbol and then those of its members. -/
def ofTree (isMember : Bool) : Symbol → List Violation
  | symbol@{ children, .. } => ofSymbol symbol isMember ++ ofMembers children

def ofMembers : List Symbol → List Violation
  | [] => []
  | member :: rest => ofTree true member ++ ofMembers rest
end

/-- The violations of top-level symbols, given the identifiers that came before them. -/
def ofSymbols (seen : List String) : List Symbol → List Violation
  | [] => []
  | symbol :: rest =>
    (if seen.contains symbol.id then [.duplicateId symbol.id symbol.name] else []) ++
      ofTree false symbol ++ ofSymbols (symbol.id :: seen) rest

def ofImport (dependency : Import) : List Violation :=
  if dependency.path.isEmpty then [.emptyPath dependency.location.startLine] else []

end Violation

/-- Every violation in the symbols and then in the imports of a file. -/
def violations (symbols : List Symbol) (imports : List Import) : List Violation :=
  Violation.ofSymbols [] symbols ++ imports.flatMap Violation.ofImport

/-- The diagnostics of a file. -/
def validate (path : String) (symbols : List Symbol) (imports : List Import) : List String :=
  (violations symbols imports).map (Violation.message path)

end ScriptAtlas
