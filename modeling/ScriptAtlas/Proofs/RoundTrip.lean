import Mathlib.Tactic.Simproc.ExistsAndEq
import ScriptAtlas.Proofs.Moments
import ScriptAtlas.Proofs.Schema
import ScriptAtlas.Record.Codec

/-! Every record is read back from what is written for it. Each has its schema, which its writing
and reading follow. Symbols nest, and are followed down their members. -/
namespace ScriptAtlas

namespace Location

def schema : List (Json.Field Location) := [
  .required "file_path" filePath .string Json.text?,
  .required "start_line" startLine (fun line => .ofNat line.toNat) Json.word?,
  .required "start_column" startColumn (fun column => .ofNat column.toNat) Json.word?,
  .required "end_line" endLine (fun line => .ofNat line.toNat) Json.word?,
  .required "end_column" endColumn (fun column => .ofNat column.toNat) Json.word?]

theorem follows_schema : Json.Follows toJson ofJson? schema where
  distinct := by decide
  strict := by simp [schema, Json.Field.Strict]
  writes _ := rfl
  finds json location := by
    cases location
    simp [schema, fields, Json.Field.key, Json.Field.Found, ofJson?, Option.bind_eq_some_iff]

@[simp] theorem ofJson?_toJson (location : Location) : ofJson? location.toJson = some location :=
  follows_schema.restores (by simp [schema, Json.Field.Restored])

end Location

@[simp] theorem SymbolKind.ofJson?_toJson (kind : SymbolKind) : ofJson? kind.toJson = some kind :=
  ofName?_name kind

namespace MethodSignature

def schema : List (Json.Field MethodSignature) := [
  .required "name" name .string Json.text?,
  .required "signature" signature .string Json.text?,
  .required "is_static" isStatic .bool Json.flag?,
  .required "is_async" isAsync .bool Json.flag?]

theorem follows_schema : Json.Follows toJson ofJson? schema where
  distinct := by decide
  strict := by simp [schema, Json.Field.Strict]
  writes _ := rfl
  finds json method := by
    cases method
    -- a flag that was found stays a variable, instead of being split into its two values
    simp [schema, fields, Json.Field.key, Json.Field.Found, ofJson?, Option.bind_eq_some_iff,
      -Bool.exists_bool]

@[simp] theorem ofJson?_toJson (method : MethodSignature) : ofJson? method.toJson = some method :=
  follows_schema.restores (by simp [schema, Json.Field.Restored])

end MethodSignature

namespace SymbolMetadata

def schema : List (Json.Field SymbolMetadata) := [
  .required "is_async" isAsync .bool Json.flag?,
  .required "is_generator" isGenerator .bool Json.flag?,
  .required "is_static" isStatic .bool Json.flag?,
  .required "is_constructor" isConstructor .bool Json.flag?,
  .optional "access_modifier" accessModifier .string Json.text?,
  .optional "extends" parent .string Json.text?,
  .required "methods" methods (fun methods => .array (methods.map MethodSignature.toJson))
    (Json.list? MethodSignature.ofJson?)]

theorem follows_schema : Json.Follows toJson ofJson? schema where
  distinct := by decide
  strict := by simp [schema, Json.Field.Strict]
  writes _ := rfl
  finds json metadata := by
    cases metadata
    simp [schema, fields, Json.Field.key, Json.Field.Found, ofJson?, Option.bind_eq_some_iff,
      -Bool.exists_bool]

@[simp] theorem ofJson?_toJson (metadata : SymbolMetadata) :
    ofJson? metadata.toJson = some metadata :=
  follows_schema.restores (by simp [schema, Json.Field.Restored, Json.list?_map])

@[simp] theorem toJson_ne_null (metadata : SymbolMetadata) : metadata.toJson ≠ .null := nofun

end SymbolMetadata

namespace CallSite

def schema : List (Json.Field CallSite) := [
  .required "target" target .string Json.text?,
  .optional "receiver" receiver .string Json.text?,
  .required "is_method" isMethod .bool Json.flag?,
  .required "function_args" functionArgs .strings (Json.list? Json.text?),
  .required "location" location Location.toJson Location.ofJson?]

theorem follows_schema : Json.Follows toJson ofJson? schema where
  distinct := by decide
  strict := by simp [schema, Json.Field.Strict, Location.ofJson?]
  writes _ := rfl
  finds json call := by
    cases call
    simp [schema, fields, Json.Field.key, Json.Field.Found, ofJson?, Option.bind_eq_some_iff,
      -Bool.exists_bool]

@[simp] theorem ofJson?_toJson (call : CallSite) : ofJson? call.toJson = some call :=
  follows_schema.restores (by simp [schema, Json.Field.Restored])

end CallSite

namespace Import

def schema : List (Json.Field Import) := [
  .required "path" path .string Json.text?,
  .optional "alias" binding .string Json.text?,
  .required "names" names .strings (Json.list? Json.text?),
  .required "is_default" isDefault .bool Json.flag?,
  .required "is_namespace" isNamespace .bool Json.flag?,
  .required "is_module" isModule .bool Json.flag?,
  .required "is_common_js" isCommonJs .bool Json.flag?,
  .required "is_dynamic" isDynamic .bool Json.flag?,
  .required "is_relative" isRelative .bool Json.flag?,
  .required "location" location Location.toJson Location.ofJson?]

theorem follows_schema : Json.Follows toJson ofJson? schema where
  distinct := by decide
  strict := by simp [schema, Json.Field.Strict, Location.ofJson?]
  writes _ := rfl
  finds json dependency := by
    cases dependency
    simp [schema, fields, Json.Field.key, Json.Field.Found, ofJson?, Option.bind_eq_some_iff,
      -Bool.exists_bool]

@[simp] theorem ofJson?_toJson (dependency : Import) :
    ofJson? dependency.toJson = some dependency :=
  follows_schema.restores (by simp [schema, Json.Field.Restored])

end Import

namespace Symbol

def schema : List (Json.Field Symbol) := [
  .required "id" id .string Json.text?,
  .required "name" name .string Json.text?,
  .required "kind" kind SymbolKind.toJson SymbolKind.ofJson?,
  .required "location" location Location.toJson Location.ofJson?,
  .required "signature" signature .string Json.text?,
  .required "doc_comment" docComment .string Json.text?,
  .required "exported" exported .bool Json.flag?,
  .optional "receiver" receiver .string Json.text?,
  .required "children" children (fun children => .array (children.map toJson)) (Json.list? ofJson?),
  .required "calls" calls (fun calls => .array (calls.map CallSite.toJson))
    (Json.list? CallSite.ofJson?),
  .optional "metadata" metadata SymbolMetadata.toJson SymbolMetadata.ofJson?]

theorem listToJson_eq_map (symbols : List Symbol) : listToJson symbols = symbols.map toJson := by
  induction symbols with
  | nil => rfl
  | cons symbol rest ih => rw [listToJson, ih, List.map_cons]

theorem follows_schema : Json.Follows toJson ofJson? schema where
  distinct := by decide
  strict := by simp [schema, Json.Field.Strict, Location.ofJson?, SymbolKind.ofJson?]
  writes symbol := by
    cases symbol
    rw [toJson, listToJson_eq_map]
    rfl
  finds json symbol := by
    cases symbol
    rw [ofJson?, Option.bind_eq_bind, Option.bind_eq_some_iff]
    refine exists_congr fun given => and_congr_right fun shaped => ?_
    -- the bound on the children serves the recursion alone
    rw [Json.nested_eq_required shaped]
    simp [schema, Json.Field.Found, Option.bind_eq_some_iff, -Bool.exists_bool]

@[simp] theorem ofJson?_toJson (symbol : Symbol) : ofJson? symbol.toJson = some symbol := by
  obtain ⟨id, name, kind, location, signature, docComment, exported, receiver, children, calls,
    metadata⟩ := symbol
  -- the children are smaller symbols; every other field is read without recursion
  have members : Json.list? ofJson? (.array (children.map toJson)) = some children :=
    Json.list?_map fun child _ => child.ofJson?_toJson
  exact follows_schema.restores (by simp [schema, Json.Field.Restored, Json.list?_map, members])
termination_by sizeOf symbol

end Symbol

@[simp] theorem Instant.ofJson?_toJson (instant : Instant) :
    ofJson? instant.toJson = some instant := by
  rw [toJson, ofJson?, Json.text?_string, Option.bind_some, parse?_render]

namespace DatedReport

def schema : List (Json.Field DatedReport) := [
  .required "file_path" (·.filePath) .string Json.text?,
  .required "language" (·.language) .string Json.text?,
  .required "hash" (·.hash) .string Json.text?,
  .required "parsed_at" parsedAt Instant.toJson Instant.ofJson?,
  .required "symbols" (·.symbols) (fun symbols => .array (symbols.map Symbol.toJson))
    (Json.list? Symbol.ofJson?),
  .required "imports" (·.imports) (fun imports => .array (imports.map Import.toJson))
    (Json.list? Import.ofJson?),
  .required "errors" (·.errors) .strings (Json.list? Json.text?)]

theorem follows_schema : Json.Follows toJson ofJson? schema where
  distinct := by decide
  strict := by simp [schema, Json.Field.Strict, Instant.ofJson?]
  writes dated := by
    rw [toJson, Symbol.listToJson_eq_map]
    rfl
  finds json dated := by
    obtain ⟨⟨⟨symbols, imports, errors⟩, filePath, language, hash⟩, parsedAt⟩ := dated
    simp [schema, fields, Json.Field.key, Json.Field.Found, ofJson?, Option.bind_eq_some_iff]

theorem ofJson?_toJson (dated : DatedReport) : ofJson? dated.toJson = some dated :=
  follows_schema.restores (by simp [schema, Json.Field.Restored, Json.list?_map])

end DatedReport

/-- Every kind and every record, with members nested to any depth, is read back from what is
written for it, and so is whatever was read from anything else: members that are not known are
dropped, optional ones that were missing become null, and an array of the fields of a record becomes
an object. -/
theorem records_faithful :
    Json.RoundTrips SymbolKind.toJson SymbolKind.ofJson? ∧
    Json.Faithful Location.toJson Location.ofJson?
      ["file_path", "start_line", "start_column", "end_line", "end_column"] [] ∧
    Json.Faithful MethodSignature.toJson MethodSignature.ofJson?
      ["name", "signature", "is_static", "is_async"] [] ∧
    Json.Faithful SymbolMetadata.toJson SymbolMetadata.ofJson?
      ["is_async", "is_generator", "is_static", "is_constructor", "access_modifier", "extends",
       "methods"] ["access_modifier", "extends"] ∧
    Json.Faithful CallSite.toJson CallSite.ofJson?
      ["target", "receiver", "is_method", "function_args", "location"] ["receiver"] ∧
    Json.Faithful Import.toJson Import.ofJson?
      ["path", "alias", "names", "is_default", "is_namespace", "is_module", "is_common_js",
       "is_dynamic", "is_relative", "location"] ["alias"] ∧
    Json.Faithful Symbol.toJson Symbol.ofJson?
      ["id", "name", "kind", "location", "signature", "doc_comment", "exported", "receiver",
       "children", "calls", "metadata"] ["receiver", "metadata"] ∧
    Json.Faithful DatedReport.toJson DatedReport.ofJson?
      ["file_path", "language", "hash", "parsed_at", "symbols", "imports", "errors"] [] :=
  ⟨.of_restores SymbolKind.ofJson?_toJson,
    Location.follows_schema.faithful Location.ofJson?_toJson,
    MethodSignature.follows_schema.faithful MethodSignature.ofJson?_toJson,
    SymbolMetadata.follows_schema.faithful SymbolMetadata.ofJson?_toJson,
    CallSite.follows_schema.faithful CallSite.ofJson?_toJson,
    Import.follows_schema.faithful Import.ofJson?_toJson,
    Symbol.follows_schema.faithful Symbol.ofJson?_toJson,
    DatedReport.follows_schema.faithful DatedReport.ofJson?_toJson⟩

example :
    Location.ofJson? (.array [.string "a.js", .ofNat 1, .ofNat 0, .ofNat 2, .ofNat 5]) =
      some ⟨"a.js", 1, 0, 2, 5⟩ := rfl

end ScriptAtlas
