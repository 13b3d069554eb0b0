import ScriptAtlas.Record.CallSite

/-! Declared entities of a file. -/
namespace ScriptAtlas

/-- What a symbol is. -/
inductive SymbolKind where
  | function
  | classType
  | interface
  | method
  | field
  | property
  | variableBinding
  | constant
  | importBinding
deriving DecidableEq

namespace SymbolKind

def name : SymbolKind → String
  | .function => "function"
  | .classType => "class"
  | .interface => "interface"
  | .method => "method"
  | .field => "field"
  | .property => "property"
  | .variableBinding => "variable"
  | .constant => "constant"
  | .importBinding => "import"

def ofName? : String → Option SymbolKind
  | "function" => some .function
  | "class" => some .classType
  | "interface" => some .interface
  | "method" => some .method
  | "field" => some .field
  | "property" => some .property
  | "variable" => some .variableBinding
  | "constant" => some .constant
  | "import" => some .importBinding
  | _ => none

@[simp] theorem ofName?_name (kind : SymbolKind) : ofName? kind.name = some kind := by
  cases kind <;> rfl

/-- Kinds that own members. -/
def isClassLike : SymbolKind → Bool
  | .classType | .interface => true
  | _ => false

end SymbolKind

/-- A method in the summary of its class. -/
structure MethodSignature where
  name : String
  signature : String
  isStatic : Bool
  isAsync : Bool
deriving DecidableEq

/-- Details that only some kinds of symbols have. -/
structure SymbolMetadata where
  isAsync : Bool := false
  isGenerator : Bool := false
  isStatic : Bool := false
  isConstructor : Bool := false
  accessModifier : Option String := none
  parent : Option String := none
  methods : List MethodSignature := []
deriving DecidableEq

/-- A declared entity with its members and the calls of its body. -/
structure Symbol where
  id : String
  name : String
  kind : SymbolKind
  location : Location
  signature : String
  docComment : String
  exported : Bool
  receiver : Option String
  children : List Symbol
  calls : List CallSite
  metadata : Option SymbolMetadata

namespace Symbol

/-- The metadata, or the default if there are none. -/
def details (symbol : Symbol) : SymbolMetadata := symbol.metadata.getD {}

def isClassLike (symbol : Symbol) : Bool := symbol.kind.isClassLike

theorem isClassLike_iff {symbol : Symbol} :
    symbol.isClassLike = true ↔ symbol.kind = .classType ∨ symbol.kind = .interface := by
  unfold isClassLike
  cases symbol.kind <;> simp [SymbolKind.isClassLike]

/-- The name that identifies a symbol in its file: members carry their owner's name. -/
def qualify (receiver : Option String) (name : String) : String :=
  match receiver with
  | some owner => owner ++ "." ++ name
  | none => name

/-- Record which type the symbol inherits from. -/
def setParent (symbol : Symbol) (parent : String) : Symbol :=
  { symbol with metadata := some { symbol.details with parent := some parent } }

/-- The summary of a method. -/
def methodSignature (symbol : Symbol) : MethodSignature :=
  { name := symbol.name
    signature := symbol.signature
    isStatic := symbol.details.isStatic
    isAsync := symbol.details.isAsync }

end Symbol

/-- The summaries of the methods among the members of a class, constructors left out. -/
def SymbolMetadata.summarize (members : List Symbol) : List MethodSignature :=
  (members.filter fun member => member.kind == .method && !member.details.isConstructor).map
    Symbol.methodSignature

end ScriptAtlas
