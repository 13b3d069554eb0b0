import ScriptAtlas.Digest.Md5
import ScriptAtlas.Path
import ScriptAtlas.Record.Symbol
import ScriptAtlas.Text.Trim
import ScriptAtlas.Text.Utf8
import ScriptAtlas.SyntaxTree.Cursor

/-! The text of one file and what its nodes stand for in it: their text, their place, their doc
comment and the identifiers of the symbols declared there. -/
namespace ScriptAtlas
open SyntaxTree

/-- The offsets of the line breaks of a byte sequence. -/
def lineBreaksOf (bytes : ByteArray) : List Nat :=
  (List.range bytes.size).filter fun offset => bytes[offset]? == some 10

/-- A file: its path with slashes, its bytes, and where its lines end. -/
structure Source where
  path : String
  bytes : ByteArray
  lineBreaks : List Nat
  lineBreaks_eq : lineBreaks = lineBreaksOf bytes

namespace Source

def ofBytes (path : String) (bytes : ByteArray) : Source :=
  ⟨Path.unix path, bytes, lineBreaksOf bytes, rfl⟩

/-- The line breaks before an offset. -/
def breaksBefore (source : Source) (offset : Nat) : List Nat :=
  source.lineBreaks.takeWhile (· < offset)

/-- The number of lines before the one that holds an offset. -/
def row (source : Source) (offset : Nat) : Nat := (source.breaksBefore offset).length

/-- The number of bytes between an offset and the beginning of its line. -/
def column (source : Source) (offset : Nat) : Nat :=
  match (source.breaksBefore offset).getLast? with
  | none => offset
  | some lineBreak => offset - (lineBreak + 1)

/-- The text of a node; a range that does not lie in the file has none. -/
def text (source : Source) (node : Node) : String :=
  if node.start < source.bytes.size && node.stop ≤ source.bytes.size then
    Text.Utf8.decode (source.bytes.extract node.start node.stop)
  else ""

/-- The text of the child under a field. -/
def fieldText? (source : Source) (node : Node) (field : Field) : Option String :=
  (node.child? field).map source.text

/-- The range of a node. -/
def location (source : Source) (node : Node) : Location :=
  { filePath := source.path
    startLine := (source.row node.start + 1).toUInt32
    startColumn := (source.column node.start).toUInt32
    endLine := (source.row node.stop + 1).toUInt32
    endColumn := (source.column node.stop).toUInt32 }

/-- The contents of a string literal: its text without any quotation marks at either end. -/
def stringValue? (source : Source) (node : Node) : Option String :=
  if node.kind = .stringLiteral then some (Text.trim Text.isQuote (source.text node)) else none

/-- The identifier of a symbol: a digest of its file, its first line and its qualified name. -/
def identifier (source : Source) (qualified : String) (line : UInt32) : String :=
  Digest.Md5.hex (source.path ++ ":" ++ toString line.toNat ++ ":" ++ qualified).toUTF8

/-- The named sibling right before a node, if it is a comment that opens with `/**`. -/
def precedingDoc? (source : Source) (cursor : Cursor) : Option String :=
  match cursor.previousNamed? with
  | none => none
  | some sibling =>
    let text := source.text sibling
    if sibling.kind = .comment ∧
        "/**".toList.isPrefixOf (text.toList.dropWhile Text.isBlank) then
      some (Text.trim Text.isBlank text)
    else none

/-- The doc comment of a node: the one before it, or before the export statement around it. -/
def docComment (source : Source) (cursor : Cursor) : String :=
  match source.precedingDoc? cursor with
  | some doc => doc
  | none =>
    match cursor.parent? with
    | none => ""
    | some parent =>
      if parent.node.kind = .exportStatement then (source.precedingDoc? parent).getD "" else ""

/-- What a new symbol is given besides its place, name and kind. Without a doc comment of its own
it takes the one found before its node. -/
structure SymbolOptions where
  signature : String := ""
  docComment : Option String := none
  exported : Bool := false
  receiver : Option String := none
  calls : List CallSite := []
  metadata : Option SymbolMetadata := none
deriving DecidableEq

/-- A symbol placed at a node. -/
def symbolAt (source : Source) (cursor : Cursor) (name : String) (kind : SymbolKind)
    (options : SymbolOptions) : Symbol :=
  let location := source.location cursor.node
  { id := source.identifier (Symbol.qualify options.receiver name) location.startLine
    name
    kind
    location
    signature := options.signature
    docComment := options.docComment.getD (source.docComment cursor)
    exported := options.exported
    receiver := options.receiver
    children := []
    calls := options.calls
    metadata := options.metadata }

end Source
end ScriptAtlas
