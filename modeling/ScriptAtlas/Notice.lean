/-! What an extraction tells about its own course, apart from its result. -/
namespace ScriptAtlas

/-- How serious a log entry is. -/
inductive Level where
  | debug
  | warn
deriving DecidableEq

def Level.name : Level → String
  | .debug => "DEBUG"
  | .warn => "WARN"

structure LogEntry where
  level : Level
  message : String
deriving DecidableEq

/-- The statement that one type inherits from another. -/
structure Edge where
  child : String
  parent : String
deriving DecidableEq

/-- A remark on the course of an extraction. -/
inductive Notice where
  | aliases (count : Nat) (typeName : String)
  | scanCancelled (visited : Nat)
  | scanTruncated (line : Nat)
  | orphan (edge : Edge)
  | synthetic (count : Nat)
  | dropped (count : Nat)
  | finished (language : String) (symbols imports : Nat)
deriving DecidableEq

namespace Notice

/-- The text of a notice about the file at `path`. -/
def message (path : String) : Notice → String
  | .aliases count typeName =>
    path ++ ": " ++ toString count ++ " module alias(es) for " ++ typeName
  | .scanCancelled visited => "call-site scan cancelled after " ++ toString visited ++ " nodes"
  | .scanTruncated line =>
    "call-site scan truncated in " ++ path ++ " at line " ++ toString line
  | .orphan edge =>
    path ++ ": inheritance edge " ++ edge.child ++ " -> " ++ edge.parent ++
      " has no registered child"
  | .synthetic count => path ++ ": " ++ toString count ++ " synthetic class(es)"
  | .dropped count => path ++ ": dropped " ++ toString count ++ " private top-level symbol(s)"
  | .finished language symbols imports =>
    path ++ " (" ++ language ++ "): " ++ toString symbols ++ " symbol(s), " ++ toString imports ++
      " import(s) after post-pass"

/-- Notices are logged for debugging only. -/
def entry (path : String) (notice : Notice) : LogEntry := ⟨.debug, notice.message path⟩

end Notice
end ScriptAtlas
