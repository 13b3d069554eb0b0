import ScriptAtlas.Digest.Blake3
import ScriptAtlas.Extract.Outcome
import ScriptAtlas.Language
import ScriptAtlas.Validation

/-! The extraction of files: checks on the input, the reading of the tree, validation and the
final report. -/
namespace ScriptAtlas
open SyntaxTree

/-- A file to be read: its path as given, its bytes, and its tree if a parser has made one. -/
structure InputFile where
  path : String
  bytes : ByteArray
  tree : Option Node

/-- Why a file yields no report. -/
inductive ExtractError where
  | cancelled
  | fileTooLarge (size limit : Nat)
  | invalidUtf8 (fault : Text.Utf8.Fault)
  | unsupportedLanguage (reason : Language.Unsupported)
  | parseFailed
deriving DecidableEq

namespace ExtractError

/-- The text of an error about the file at `path`. -/
def message (path : String) : ExtractError → String
  | .cancelled => "extraction of " ++ path ++ " was cancelled"
  | .fileTooLarge size limit =>
    path ++ " is " ++ toString size ++ " bytes, larger than the " ++ toString limit ++ " byte limit"
  | .invalidUtf8 _ => path ++ " is not valid UTF-8"
  | .unsupportedLanguage reason => "unsupported language for " ++ path ++ ": " ++ reason.message
  | .parseFailed => "failed to parse " ++ path ++ ": parser produced no tree"

/-- Only rejected contents are logged. -/
def log (path : String) : ExtractError → List LogEntry
  | .fileTooLarge size limit =>
    [⟨.warn, "Rejecting " ++ path ++ ": " ++ toString size ++ " bytes exceeds " ++ toString limit⟩]
  | .invalidUtf8 _ => [⟨.warn, "Rejecting " ++ path ++ ": invalid UTF-8"⟩]
  | _ => []

end ExtractError

/-- What has been established about a file before it is read. -/
structure Admitted where
  language : Language
  root : Node

/-- The checks on a file, in their order: cancellation, size, encoding, language, tree. -/
def InputFile.admission (file : InputFile) (config : Config) (cancelled : Bool) :
    Except ExtractError Admitted :=
  if cancelled then .error .cancelled
  else if config.maxFileSize < file.bytes.size then
    .error (.fileTooLarge file.bytes.size config.maxFileSize)
  else
    match Text.Utf8.fault? file.bytes with
    | some fault => .error (.invalidUtf8 fault)
    | none =>
      match Language.ofPath file.path with
      | .error reason => .error (.unsupportedLanguage reason)
      | .ok language =>
        match file.tree with
        | none => .error .parseFailed
        | some root => .ok ⟨language, root⟩

/-- The answer to a request for one file, with what was logged meanwhile. -/
structure FileAnswer where
  path : String
  result : Except ExtractError Report
  log : List LogEntry

/-- The report of an admitted file. -/
def InputFile.report (file : InputFile) (config : Config) (admitted : Admitted) :
    Report × List LogEntry :=
  let source := Source.ofBytes file.path file.bytes
  let context : Context := ⟨source, config.callLimits, false⟩
  let language := admitted.language.name
  let outcome := context.extract config.includePrivate language admitted.root
  let { symbols, imports, errors } := outcome.extraction
  let errors := errors ++ validate file.path symbols imports
  let summary :=
    "Extracted " ++ toString symbols.length ++ " symbols and " ++ toString imports.length ++
      " imports from " ++ language ++ " file: " ++ file.path
  ({ symbols
     imports
     errors
     filePath := source.path
     language
     hash := Digest.Blake3.hex file.bytes },
    outcome.notices.map (·.entry source.path) ++ errors.map (⟨.warn, ·⟩) ++ [⟨.debug, summary⟩])

/-- Read one file. -/
def extractFile (config : Config) (cancelled : Bool) (file : InputFile) : FileAnswer :=
  match file.admission config cancelled with
  | .error error => ⟨file.path, .error error, error.log file.path⟩
  | .ok admitted =>
    let (report, log) := file.report config admitted
    ⟨file.path, .ok report, log⟩

/-- Read several files, each by itself. -/
def extractBatch (config : Config) (cancelled : Bool) (files : List InputFile) : List FileAnswer :=
  files.map (extractFile config cancelled)

end ScriptAtlas
