import ScriptAtlas.Path
import ScriptAtlas.Record.Location

/-! References from one module to another. -/
namespace ScriptAtlas

/-- A module dependency. The binding is the local name of the module as a whole, the names are
those of its parts. -/
structure Import where
  path : String
  binding : Option String := none
  names : List String := []
  isDefault : Bool := false
  isNamespace : Bool := false
  isModule : Bool := false
  isCommonJs : Bool := false
  isDynamic : Bool := false
  isRelative : Bool := Path.isRelative path
  location : Location
deriving DecidableEq

end ScriptAtlas
