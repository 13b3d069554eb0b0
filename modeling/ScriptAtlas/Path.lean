import ScriptAtlas.Text.Split
import ScriptAtlas.Text.Uppercase

/-! File paths as plain texts: separator style, file extension, and the type name that a module
takes from its place in the tree. Nothing here looks at a disk. -/
namespace ScriptAtlas.Path

/-- Write every separator as a slash. -/
def unix (path : String) : String :=
  String.ofList (path.toList.map fun char => if char = '\\' then '/' else char)

/-- The non-empty pieces between slashes. -/
def segments (path : String) : List (List Char) :=
  (Text.split '/' path.toList).filter (!·.isEmpty)

/-- The extension of the last segment, empty after a final dot. Segments that are a single dot do
not count, and neither `..` nor a name whose only dot comes first has an extension. -/
def extension? (path : String) : Option String :=
  match ((segments path).filter (· != ['.'])).getLast? with
  | none => none
  | some file =>
    if file = ['.', '.'] then none
    else
      match Text.cutLast? '.' file with
      | none => none
      | some (before, after) => if before.isEmpty then none else some (String.ofList after)

/-- A file name without its last extension; a leading dot does not begin an extension. -/
def stem (file : List Char) : List Char :=
  match Text.cutLast? '.' file with
  | none => file
  | some (before, _) => if before.isEmpty then file else before

/-- The segment that names a module: the stem of the file, or the directory of an `index` file. -/
def moduleName? (path : String) : Option (List Char) :=
  match (segments (unix path)).reverse with
  | [] => none
  | file :: directories =>
    if stem file = "index".toList then directories.head? else some (stem file)

/-- The type name that a module stands for, if its path yields a usable one. -/
def typeName? (path : String) : Option String :=
  match moduleName? path with
  | none => none
  | some base =>
    if base.isEmpty || base == ['.'] || base == ['.', '.'] then none
    else some (Text.Uppercase.capitalize (String.ofList base))

/-- Module specifiers that begin with a dot or a slash are relative. -/
def isRelative (specifier : String) : Bool :=
  match specifier.toList with
  | [] => false
  | first :: _ => first == '.' || first == '/'

end ScriptAtlas.Path
