import ScriptAtlas.Record.Location

/-! Invocations found inside a body. -/
namespace ScriptAtlas

/-- A call of a function, a method or a constructor. The receiver is the text of the object whose
method is called; the arguments are those that may be callbacks. -/
structure CallSite where
  target : String
  receiver : Option String
  isMethod : Bool
  functionArgs : List String
  location : Location
deriving DecidableEq

end ScriptAtlas
