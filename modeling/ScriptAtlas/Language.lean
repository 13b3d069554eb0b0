import ScriptAtlas.Path

/-! The languages that can be read, and how a path chooses one. -/
namespace ScriptAtlas

/-- JSX files share the grammar of JavaScript and keep their own name. -/
inductive Language where
  | javascript
  | jsx
deriving DecidableEq

namespace Language

/-- Every language, in the order in which they are listed to callers. -/
def all : List Language := [.javascript, .jsx]

def name : Language → String
  | .javascript => "javascript"
  | .jsx => "jsx"

/-- Why no language was found. -/
inductive Unsupported where
  | unknownExtension (extension path : String)
  | unknownName (name : String)
deriving DecidableEq

def Unsupported.message : Unsupported → String
  | .unknownExtension extension path => "No extractor for '." ++ extension ++ "' files: " ++ path
  | .unknownName name =>
    "Unsupported language: '" ++ name ++ "'. Supported languages: " ++
      ", ".intercalate (all.map Language.name)

def ofName (name : String) : Except Unsupported Language :=
  match all.find? (·.name == name) with
  | some language => .ok language
  | none => .error (.unknownName name)

def ofExtension? : String → Option Language
  | "js" | "mjs" | "cjs" => some .javascript
  | "jsx" => some .jsx
  | _ => none

/-- The language of a path's extension, if it has a known one. -/
def detect? (path : String) : Option Language :=
  (Path.extension? path).bind ofExtension?

/-- The language of a path; a path without extension is taken for JavaScript. -/
def ofPath (path : String) : Except Unsupported Language :=
  match Path.extension? path with
  | none => .ok .javascript
  | some extension =>
    match ofExtension? extension with
    | some language => .ok language
    | none => .error (.unknownExtension extension path)

theorem ofName_name (language : Language) : ofName language.name = .ok language := by
  cases language <;> rfl

end Language
end ScriptAtlas
