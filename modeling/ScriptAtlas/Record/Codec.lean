import ScriptAtlas.Instant.Reader
import ScriptAtlas.Instant.Writer
import ScriptAtlas.Json.Basic
import ScriptAtlas.Record.Report

/-! Records as JSON. A record is written as an object with all its members in a fixed order. It is
read from an object, whose members that are not known are ignored, or from an array of its fields in
that order. -/
namespace ScriptAtlas

def Location.toJson (location : Location) : Json :=
  .object [
    ("file_path", .string location.filePath),
    ("start_line", .ofNat location.startLine.toNat),
    ("start_column", .ofNat location.startColumn.toNat),
    ("end_line", .ofNat location.endLine.toNat),
    ("end_column", .ofNat location.endColumn.toNat)]

def Location.fields : List String :=
  ["file_path", "start_line", "start_column", "end_line", "end_column"]

def Location.ofJson? (json : Json) : Option Location := do
  let given ← json.labelled? fields
  let filePath ← given.required "file_path" Json.text?
  let startLine ← given.required "start_line" Json.word?
  let startColumn ← given.required "start_column" Json.word?
  let endLine ← given.required "end_line" Json.word?
  let endColumn ← given.required "end_column" Json.word?
  return { filePath, startLine, startColumn, endLine, endColumn }

def SymbolKind.toJson (kind : SymbolKind) : Json := .string kind.name

/-- A kind is its name, or an object with null under its name and nothing else. -/
def SymbolKind.ofJson? : Json → Option SymbolKind
  | .string name => ofName? name
  | .object [(name, .null)] => ofName? name
  | _ => none

def MethodSignature.toJson (method : MethodSignature) : Json :=
  .object [
    ("name", .string method.name),
    ("signature", .string method.signature),
    ("is_static", .bool method.isStatic),
    ("is_async", .bool method.isAsync)]

def MethodSignature.fields : List String :=
  ["name", "signature", "is_static", "is_async"]

def MethodSignature.ofJson? (json : Json) : Option MethodSignature := do
  let given ← json.labelled? fields
  let name ← given.required "name" Json.text?
  let signature ← given.required "signature" Json.text?
  let isStatic ← given.required "is_static" Json.flag?
  let isAsync ← given.required "is_async" Json.flag?
  return { name, signature, isStatic, isAsync }

def SymbolMetadata.toJson (metadata : SymbolMetadata) : Json :=
  .object [
    ("is_async", .bool metadata.isAsync),
    ("is_generator", .bool metadata.isGenerator),
    ("is_static", .bool metadata.isStatic),
    ("is_constructor", .bool metadata.isConstructor),
    ("access_modifier", .ofOption .string metadata.accessModifier),
    ("extends", .ofOption .string metadata.parent),
    ("methods", .array (metadata.methods.map MethodSignature.toJson))]

def SymbolMetadata.fields : List String :=
  ["is_async", "is_generator", "is_static", "is_constructor", "access_modifier", "extends",
    "methods"]

def SymbolMetadata.ofJson? (json : Json) : Option SymbolMetadata := do
  let given ← json.labelled? fields
  let isAsync ← given.required "is_async" Json.flag?
  let isGenerator ← given.required "is_generator" Json.flag?
  let isStatic ← given.required "is_static" Json.flag?
  let isConstructor ← given.required "is_constructor" Json.flag?
  let accessModifier ← given.optional "access_modifier" Json.text?
  let parent ← given.optional "extends" Json.text?
  let methods ← given.required "methods" (Json.list? MethodSignature.ofJson?)
  return { isAsync, isGenerator, isStatic, isConstructor, accessModifier, parent, methods }

def CallSite.toJson (call : CallSite) : Json :=
  .object [
    ("target", .string call.target),
    ("receiver", .ofOption .string call.receiver),
    ("is_method", .bool call.isMethod),
    ("function_args", .strings call.functionArgs),
    ("location", call.location.toJson)]

def CallSite.fields : List String :=
  ["target", "receiver", "is_method", "function_args", "location"]

def CallSite.ofJson? (json : Json) : Option CallSite := do
  let given ← json.labelled? fields
  let target ← given.required "target" Json.text?
  let receiver ← given.optional "receiver" Json.text?
  let isMethod ← given.required "is_method" Json.flag?
  let functionArgs ← given.required "function_args" (Json.list? Json.text?)
  let location ← given.required "location" Location.ofJson?
  return { target, receiver, isMethod, functionArgs, location }

def Import.toJson (dependency : Import) : Json :=
  .object [
    ("path", .string dependency.path),
    ("alias", .ofOption .string dependency.binding),
    ("names", .strings dependency.names),
    ("is_default", .bool dependency.isDefault),
    ("is_namespace", .bool dependency.isNamespace),
    ("is_module", .bool dependency.isModule),
    ("is_common_js", .bool dependency.isCommonJs),
    ("is_dynamic", .bool dependency.isDynamic),
    ("is_relative", .bool dependency.isRelative),
    ("location", dependency.location.toJson)]

def Import.fields : List String :=
  ["path", "alias", "names", "is_default", "is_namespace", "is_module", "is_common_js",
    "is_dynamic", "is_relative", "location"]

def Import.ofJson? (json : Json) : Option Import := do
  let given ← json.labelled? fields
  let path ← given.required "path" Json.text?
  let binding ← given.optional "alias" Json.text?
  let names ← given.required "names" (Json.list? Json.text?)
  let isDefault ← given.required "is_default" Json.flag?
  let isNamespace ← given.required "is_namespace" Json.flag?
  let isModule ← given.required "is_module" Json.flag?
  let isCommonJs ← given.required "is_common_js" Json.flag?
  let isDynamic ← given.required "is_dynamic" Json.flag?
  let isRelative ← given.required "is_relative" Json.flag?
  let location ← given.required "location" Location.ofJson?
  return { path, binding, names, isDefault, isNamespace, isModule, isCommonJs, isDynamic,
           isRelative, location }

mutual
def Symbol.toJson : Symbol → Json
  | { id, name, kind, location, signature, docComment, exported, receiver, children, calls,
      metadata } =>
    .object [
      ("id", .string id),
      ("name", .string name),
      ("kind", kind.toJson),
      ("location", location.toJson),
      ("signature", .string signature),
      ("doc_comment", .string docComment),
      ("exported", .bool exported),
      ("receiver", .ofOption .string receiver),
      ("children", .array (Symbol.listToJson children)),
      ("calls", .array (calls.map CallSite.toJson)),
      ("metadata", .ofOption SymbolMetadata.toJson metadata)]

/-- The members of a class, each as an object. -/
def Symbol.listToJson : List Symbol → List Json
  | [] => []
  | symbol :: rest => symbol.toJson :: Symbol.listToJson rest
end

def Symbol.fields : List String :=
  ["id", "name", "kind", "location", "signature", "doc_comment", "exported", "receiver",
    "children", "calls", "metadata"]

/-- Members may nest to any depth. -/
def Symbol.ofJson? (json : Json) : Option Symbol := do
  let given ← json.labelled? fields
  let id ← given.required "id" Json.text?
  let name ← given.required "name" Json.text?
  let kind ← given.required "kind" SymbolKind.ofJson?
  let location ← given.required "location" Location.ofJson?
  let signature ← given.required "signature" Json.text?
  let docComment ← given.required "doc_comment" Json.text?
  let exported ← given.required "exported" Json.flag?
  let receiver ← given.optional "receiver" Json.text?
  let children ← json.nested fields "children" fun item _ => Symbol.ofJson? item
  let calls ← given.required "calls" (Json.list? CallSite.ofJson?)
  let metadata ← given.optional "metadata" SymbolMetadata.ofJson?
  return { id, name, kind, location, signature, docComment, exported, receiver, children, calls,
           metadata }
termination_by sizeOf json

/-- A moment is written as its text. -/
def Instant.toJson (instant : Instant) : Json := .string instant.render

def Instant.ofJson? (json : Json) : Option Instant := json.text?.bind Instant.parse?

def Extraction.toJson (extraction : Extraction) : Json :=
  .object [
    ("symbols", .array (Symbol.listToJson extraction.symbols)),
    ("imports", .array (extraction.imports.map Import.toJson)),
    ("errors", .strings extraction.errors)]

/-- A report without a moment. -/
def Report.toJson (report : Report) : Json :=
  .object [
    ("file_path", .string report.filePath),
    ("language", .string report.language),
    ("hash", .string report.hash),
    ("symbols", .array (Symbol.listToJson report.symbols)),
    ("imports", .array (report.imports.map Import.toJson)),
    ("errors", .strings report.errors)]

def DatedReport.toJson (dated : DatedReport) : Json :=
  .object [
    ("file_path", .string dated.filePath),
    ("language", .string dated.language),
    ("hash", .string dated.hash),
    ("parsed_at", dated.parsedAt.toJson),
    ("symbols", .array (Symbol.listToJson dated.symbols)),
    ("imports", .array (dated.imports.map Import.toJson)),
    ("errors", .strings dated.errors)]

def DatedReport.fields : List String :=
  ["file_path", "language", "hash", "parsed_at", "symbols", "imports", "errors"]

def DatedReport.ofJson? (json : Json) : Option DatedReport := do
  let given ← json.labelled? fields
  let filePath ← given.required "file_path" Json.text?
  let language ← given.required "language" Json.text?
  let hash ← given.required "hash" Json.text?
  let parsedAt ← given.required "parsed_at" Instant.ofJson?
  let symbols ← given.required "symbols" (Json.list? Symbol.ofJson?)
  let imports ← given.required "imports" (Json.list? Import.ofJson?)
  let errors ← given.required "errors" (Json.list? Json.text?)
  return { symbols, imports, errors, filePath, language, hash, parsedAt }

end ScriptAtlas
