/-! Places in a source file. -/
namespace ScriptAtlas

/-- A range of a file: lines count from one, columns are bytes and count from zero. -/
structure Location where
  filePath : String
  startLine : UInt32
  startColumn : UInt32
  endLine : UInt32
  endColumn : UInt32
deriving DecidableEq

end ScriptAtlas
