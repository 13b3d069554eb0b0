/-! The settings of an extraction. -/
namespace ScriptAtlas

/-- Bounds on the search for calls in one body: how deep below the body a node may lie, and how
many calls are recorded. -/
structure CallLimits where
  depth : Nat
  sites : Nat
deriving DecidableEq

def CallLimits.standard : CallLimits := ⟨64, 1000⟩

/-- Whether symbols that are not exported stay in the result, the largest file size in bytes that
is accepted, and the bounds on the search for calls. -/
structure Config where
  includePrivate : Bool := true
  maxFileSize : Nat := 5 * 1024 * 1024
  callLimits : CallLimits := CallLimits.standard
deriving DecidableEq

end ScriptAtlas
