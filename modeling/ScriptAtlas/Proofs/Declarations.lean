import ScriptAtlas.Extract.Traversal
import ScriptAtlas.Proofs.Scan
import Mathlib.Data.Option.Basic

/-! Where symbols come from. Every symbol that a node adds to the tables is made in one of a few
ways, and from parts that lie within the node; every member of a class is a method or a field
that stands in the body of the class. -/
namespace ScriptAtlas
open SyntaxTree

namespace SyntaxTree

theorem Node.chainValue_within (node : Node) : node.chainValue.Within node := by
  fun_induction Node.chainValue node with
  | case1 node _ right found ih => exact ih.trans (within_of_child? found)
  | case2 node => exact .refl node
  | case3 node _ inner found ih => exact ih.trans (within_of_firstNamed? found)
  | case4 node => exact .refl node
  | case5 node => exact .refl node

theorem Node.chainLinks_within (node : Node) : node.chainLinks.2.Within node := by
  fun_induction Node.chainLinks node with
  | case1 node _ left right found _ links value same ih =>
    rw [same] at ih
    exact ih.trans (within_of_child? found)
  | case2 node => exact .refl node
  | case3 node _ inner found ih => exact ih.trans (within_of_firstNamed? found)
  | case4 node => exact .refl node
  | case5 node => exact .refl node

end SyntaxTree

namespace Source

section SymbolAt

variable (source : Source) (cursor : Cursor) (name : String) (kind : SymbolKind)
  (options : SymbolOptions)

@[simp] theorem symbolAt_name : (source.symbolAt cursor name kind options).name = name := rfl

@[simp] theorem symbolAt_kind : (source.symbolAt cursor name kind options).kind = kind := rfl

@[simp] theorem symbolAt_location :
    (source.symbolAt cursor name kind options).location = source.location cursor.node := rfl

@[simp] theorem symbolAt_exported :
    (source.symbolAt cursor name kind options).exported = options.exported := rfl

@[simp] theorem symbolAt_receiver :
    (source.symbolAt cursor name kind options).receiver = options.receiver := rfl

@[simp] theorem symbolAt_children : (source.symbolAt cursor name kind options).children = [] := rfl

@[simp] theorem symbolAt_calls :
    (source.symbolAt cursor name kind options).calls = options.calls := rfl

@[simp] theorem symbolAt_metadata :
    (source.symbolAt cursor name kind options).metadata = options.metadata := rfl

end SymbolAt

theorem target?_named {source : Source} {aliases : Aliases} {left : Node} {target : Target}
    (found : source.target? aliases left = some target) : target.name ≠ "" := by
  unfold target? at found
  obtain ⟨_, found⟩ := guard_bind_eq_some.mp found
  obtain ⟨object, _, found⟩ := Option.bind_eq_some_iff.mp found
  obtain ⟨property, _, found⟩ := Option.bind_eq_some_iff.mp found
  obtain ⟨named, found⟩ := guard_bind_eq_some.mp found
  have same : target.name = source.text property := by
    split at found
    · obtain rfl := Option.some.inj found
      rfl
    · split at found
      · obtain rfl := Option.some.inj found
        rfl
      · split at found
        · obtain rfl := Option.some.inj found
          rfl
        · cases found
  rw [same]
  simpa using named

theorem memberFunction?_within {member key function : Node}
    (found : memberFunction? member = some (key, function)) : function.Within member := by
  unfold memberFunction? at found
  split at found
  · obtain ⟨_, _, found⟩ := Option.bind_eq_some_iff.mp found
    obtain ⟨value, valued, found⟩ := Option.bind_eq_some_iff.mp found
    obtain ⟨_, found⟩ := guard_bind_eq_some.mp found
    cases found
    exact Node.within_of_child? valued
  · obtain ⟨_, _, same⟩ := Option.map_eq_some_iff.mp found
    cases same
    exact .refl member
  · cases found

/-- A method of a prototype object has a name and lies within its member. -/
theorem literalMethod?_spec {source : Source} {member : Cursor} {method : LiteralMethod}
    (found : source.literalMethod? member = some method) :
    method.member = member ∧ method.function.Within member.node ∧ method.name ≠ "" := by
  unfold literalMethod? at found
  obtain ⟨⟨key, function⟩, held, found⟩ := Option.bind_eq_some_iff.mp found
  obtain ⟨named, found⟩ := guard_bind_eq_some.mp found
  obtain rfl := Option.some.inj found
  exact ⟨rfl, memberFunction?_within held, by simpa using named⟩

end Source

namespace Idiom

/-- The idioms that declare symbols, with the parts of the statement they were read from. -/
inductive Declaring (source : Source) (statement : Node) : Idiom → Prop where
  | assigned (function : Node) (targets : List Target) (inside : function.Within statement)
      (named : ∀ target ∈ targets, target.name ≠ "") :
      Declaring source statement (.assigned function targets)
  | literal (owner : String) (value : Node) (inside : value.Within statement) :
      Declaring source statement (.literal owner
        ((Cursor.root value).namedChildren.filterMap source.literalMethod?))

theorem Declaring.within {source : Source} {inner outer : Node} {idiom : Idiom}
    (declaring : Declaring source inner idiom) (inside : inner.Within outer) :
    Declaring source outer idiom := by
  cases declaring with
  | assigned function targets below named =>
    exact .assigned function targets (below.trans inside) named
  | literal owner value below => exact .literal owner value (below.trans inside)

theorem methods?_declaring {source : Source} {aliases : Aliases} {expression : Node} {idiom : Idiom}
    (found : methods? source aliases expression = some idiom) :
    Declaring source expression idiom := by
  have inside := expression.chainLinks_within
  unfold methods? at found
  split at found
  · dsimp only at found
    split at found
    · split at found
      · obtain ⟨owner, _, found⟩ := Option.bind_eq_some_iff.mp found
        obtain ⟨_, found⟩ := guard_bind_eq_some.mp found
        obtain rfl := Option.some.inj found
        exact .literal owner _ inside
      · cases found
    · split at found
      · obtain ⟨_, found⟩ := guard_bind_eq_some.mp found
        obtain rfl := Option.some.inj found
        refine .assigned _ _ inside fun target member => ?_
        obtain ⟨left, _, bound⟩ := List.mem_filterMap.mp member
        exact Source.target?_named bound
      · cases found
  · cases found

/-- What an expression may turn out to be. -/
theorem ofExpression_declaring (source : Source) (aliases : Aliases) (expression : Node) :
    (∃ dependency, ofExpression source aliases expression = .required dependency ∧
      source.requiredExport? expression = some dependency) ∨
    (∃ edge, ofExpression source aliases expression = .inherits edge) ∨
    (∃ published, ofExpression source aliases expression = .plain published) ∨
    Declaring source expression (ofExpression source aliases expression) := by
  unfold ofExpression
  split
  · rename_i dependency required
    exact .inl ⟨dependency, rfl, required⟩
  split
  · rename_i idiom attached
    exact .inr (.inr (.inr (methods?_declaring attached)))
  split
  · rename_i edge _
    exact .inr (.inl ⟨edge, rfl⟩)
  · exact .inr (.inr (.inl ⟨_, rfl⟩))

end Idiom

theorem Keyword.symbolKind_binds (keyword : Keyword) :
    keyword.symbolKind = .variableBinding ∨ keyword.symbolKind = .constant ∨
      keyword.symbolKind = .importBinding := by
  cases keyword <;> simp [Keyword.symbolKind]

/-- Only expression statements have the form of a statement, and they are read as such. -/
theorem Form.statement_idiom {source : Source} {aliases : Aliases} {cursor : Cursor} {idiom : Idiom}
    (form : Form.of source aliases cursor = .statement idiom) :
    idiom = Idiom.ofStatement source aliases cursor.node := by
  unfold Form.of at form
  simp only at form
  split at form
  · cases form
  split at form
  · cases form
  split at form
  · split at form <;> cases form
  split at form
  · cases form
  split at form
  · cases form
  split at form
  · exact (Form.statement.inj form).symm
  split at form
  · split at form <;> cases form
  · cases form

namespace Context

/-- The ways in which a node declares a symbol. The parts that a symbol is read from lie within
the node, and a function within the place of its symbol. -/
inductive Declares (context : Context) (node : Node) : Symbol → Prop where
  | function (anchor : Cursor) (function : Node) (name : String) (exported : Bool)
      (docComment : Option String) (place : anchor.node.Within node)
      (inside : function.Within anchor.node) :
      Declares context node
        (context.functionSymbol anchor function name exported docComment).symbol
  | classType (cursor : Cursor) (name : String) (exported : Bool) (docComment : String)
      (place : cursor.node.Within node) (named : name ≠ "") :
      Declares context node
        { (context.classSymbol cursor name).symbol with exported, docComment }
  | variableBinding (declaration : Declaration) (declarator : Cursor) (kind : SymbolKind)
      (name : String) (value? : Option Node) (place : declarator.node.Within node)
      (binds : kind = .variableBinding ∨ kind = .constant ∨ kind = .importBinding) :
      Declares context node (context.boundSymbol declaration declarator kind name value?)
  | assigned (statement : Cursor) (function : Node) (docComment : String) (target : Target)
      (place : statement.node.Within node) (inside : function.Within statement.node)
      (named : target.name ≠ "") :
      Declares context node (context.assignedSymbol statement function
        (context.bodyOf function).calls docComment target)
  | literal (owner : String) (method : LiteralMethod) (place : method.member.node.Within node)
      (inside : method.function.Within method.member.node) (named : method.name ≠ "") :
      Declares context node (context.literalSymbol owner method).symbol

variable {context : Context} {symbol : Symbol}

theorem class?_eq_some {cursor : Cursor} {given : Option String} {declared : Declared}
    (found : context.class? cursor given = some declared) :
    ∃ name, name ≠ "" ∧ declared = context.classSymbol cursor name := by
  unfold class? at found
  obtain ⟨name, _, found⟩ := Option.bind_eq_some_iff.mp found
  obtain ⟨named, found⟩ := guard_bind_eq_some.mp found
  exact ⟨name, by simpa using named, (Option.some.inj found).symm⟩

theorem functionDeclaration?_eq_some {cursor : Cursor} {declared : Declared}
    (found : context.functionDeclaration? cursor = some declared) :
    ∃ name, name ≠ "" ∧
      declared = context.functionSymbol cursor cursor.node name cursor.isExported none := by
  unfold functionDeclaration? at found
  obtain ⟨name, _, found⟩ := Option.bind_eq_some_iff.mp found
  obtain ⟨named, found⟩ := guard_bind_eq_some.mp found
  exact ⟨name, by simpa using named, (Option.some.inj found).symm⟩

theorem Declares.within {inner outer : Node} (declares : context.Declares inner symbol)
    (inside : inner.Within outer) : context.Declares outer symbol := by
  cases declares with
  | function anchor function name exported docComment place below =>
    exact .function anchor function name exported docComment (place.trans inside) below
  | classType cursor name exported docComment place named =>
    exact .classType cursor name exported docComment (place.trans inside) named
  | variableBinding declaration declarator kind name value? place binds =>
    exact .variableBinding declaration declarator kind name value? (place.trans inside) binds
  | assigned statement function docComment target place below named =>
    exact .assigned statement function docComment target (place.trans inside) below named
  | literal owner method place below named =>
    exact .literal owner method (place.trans inside) below named

theorem namedDeclarator_declares {declaration : Declaration} {declarator : Cursor} {name : String}
    {value? : Option Node} (valued : ∀ value, value? = some value → value.Within declarator.node)
    (member : symbol ∈ (context.namedDeclarator declaration declarator name value?).symbols) :
    context.Declares declarator.node symbol := by
  unfold namedDeclarator at member
  split at member
  · obtain rfl := List.mem_singleton.mp member
    exact .variableBinding _ declarator _ name _ (.refl _) (Keyword.symbolKind_binds _)
  · rename_i value
    have inside := value.chainValue_within.trans (valued value rfl)
    simp only at member
    split at member
    · obtain rfl := List.mem_singleton.mp member
      exact .variableBinding _ declarator _ name _ (.refl _) (.inr (.inr rfl))
    split at member
    · obtain rfl := List.mem_singleton.mp member
      exact .function declarator _ name _ _ (.refl _) inside
    split at member
    · split at member
      · simp at member
      · rename_i declared found
        obtain ⟨given, named, rfl⟩ := class?_eq_some found
        obtain rfl := List.mem_singleton.mp member
        exact .classType (.root _) given _ _ inside named
    · obtain rfl := List.mem_singleton.mp member
      exact .variableBinding _ declarator _ name _ (.refl _) (Keyword.symbolKind_binds _)

theorem patternDeclarator_declares {declaration : Declaration} {declarator : Cursor}
    {pattern : Node} {value? : Option Node}
    (member : symbol ∈ (context.patternDeclarator declaration declarator pattern value?).symbols) :
    context.Declares declarator.node symbol := by
  unfold patternDeclarator at member
  simp only at member
  split at member
  · simp [Contribution.ofImport] at member
  · obtain ⟨name, _, rfl⟩ := List.mem_map.mp member
    exact .variableBinding _ declarator _ name _ (.refl _) (Keyword.symbolKind_binds _)

theorem declarator_declares {declaration : Declaration} {cursor : Cursor}
    (member : symbol ∈ (context.declarator declaration cursor).symbols) :
    context.Declares cursor.node symbol := by
  unfold declarator at member
  split at member
  · simp at member
  · simp only at member
    split at member
    · exact namedDeclarator_declares (fun value found => Node.within_of_child? found) member
    · exact patternDeclarator_declares member
    · exact patternDeclarator_declares member
    · simp at member

theorem variableDeclaration_declares {cursor : Cursor}
    (member : symbol ∈ (context.variableDeclaration cursor).symbols) :
    context.Declares cursor.node symbol := by
  unfold variableDeclaration Contribution.join at member
  simp only [List.mem_flatMap, List.mem_map] at member
  obtain ⟨_, ⟨declarator, present, rfl⟩, member⟩ := member
  have inside := Cursor.within_of_mem_namedChildren (List.mem_filter.mp present).1
  exact (declarator_declares member).within inside

theorem idiom_declares {cursor : Cursor} {idiom : Idiom}
    (declaring : Idiom.Declaring context.source cursor.node idiom)
    (member : symbol ∈ (idiom.contribution context cursor).symbols) :
    context.Declares cursor.node symbol := by
  cases declaring with
  | assigned function targets inside named =>
    obtain ⟨target, present, rfl⟩ := List.mem_map.mp member
    exact .assigned cursor function _ target (.refl _) inside (named target present)
  | literal owner value inside =>
    simp only [Idiom.contribution, literalMethods, Contribution.join, List.mem_flatMap,
      List.mem_map] at member
    obtain ⟨_, ⟨method, present, rfl⟩, member⟩ := member
    obtain rfl := List.mem_singleton.mp member
    obtain ⟨cell, child, read⟩ := List.mem_filterMap.mp present
    obtain ⟨rfl, below, named⟩ := Source.literalMethod?_spec read
    have place := (Cursor.within_of_mem_namedChildren child).trans inside
    exact .literal owner method place below named

theorem statement_declares {aliases : Aliases} {cursor : Cursor}
    (member : symbol ∈
      ((Idiom.ofStatement context.source aliases cursor.node).contribution context cursor).symbols) :
    context.Declares cursor.node symbol := by
  unfold Idiom.ofStatement at member
  split at member
  · simp [Idiom.contribution] at member
  · rename_i expression found
    rcases Idiom.ofExpression_declaring context.source aliases expression with
      ⟨_, same, _⟩ | ⟨_, same⟩ | ⟨_, same⟩ | declaring
    · simp [same, Idiom.contribution, Contribution.ofImport] at member
    · simp [same, Idiom.contribution] at member
    · simp [same, Idiom.contribution] at member
    · exact idiom_declares (declaring.within (Node.within_of_firstNamed? found)) member

theorem exportStatement_symbols (source : Source) (node : Node) :
    (source.exportStatement node).symbols = [] := by
  unfold Source.exportStatement
  split
  · rfl
  split
  · rfl
  split <;> rfl

/-- Every symbol that a node adds is declared by it in one of the known ways. -/
theorem contribution_declares {aliases : Aliases} {cursor : Cursor}
    (member : symbol ∈ ((Form.of context.source aliases cursor).contribution context cursor).symbols) :
    context.Declares cursor.node symbol := by
  cases form : Form.of context.source aliases cursor with
  | function =>
    rw [form, Form.contribution] at member
    cases found : context.functionDeclaration? cursor with
    | none => simp [found] at member
    | some declared =>
      obtain ⟨name, _, rfl⟩ := functionDeclaration?_eq_some found
      rw [found] at member
      obtain rfl := List.mem_singleton.mp member
      exact .function cursor cursor.node name _ _ (.refl _) (.refl _)
  | classType =>
    rw [form, Form.contribution] at member
    cases found : context.class? cursor none with
    | none => simp [found] at member
    | some declared =>
      obtain ⟨name, named, rfl⟩ := class?_eq_some found
      rw [found] at member
      obtain rfl := List.mem_singleton.mp member
      exact .classType cursor name _ _ (.refl _) named
  | binding =>
    rw [form] at member
    exact variableDeclaration_declares member
  | importing =>
    rw [form, Form.contribution] at member
    cases found : context.source.importStatement? cursor.node <;>
      simp [found, Contribution.ofImport] at member
  | exporting => simp [form, Form.contribution, exportStatement_symbols] at member
  | statement idiom =>
    rw [form, Form.statement_idiom form] at member
    exact statement_declares member
  | sealed => simp [form, Form.contribution] at member
  | passing => simp [form, Form.contribution] at member

/-- What is known of a member of a class: it belongs to its owner, stands at its own node, is
identified by both, has no members or methods of its own, and calls what one body within it
calls. -/
structure ClassMember (context : Context) (owner : String) (cursor : Cursor) (declared : Declared) :
    Prop where
  named : declared.symbol.name ≠ ""
  kind : declared.symbol.kind = .method ∨ declared.symbol.kind = .field
  receiver : declared.symbol.receiver = some owner
  place : declared.symbol.location = context.source.location cursor.node
  id : declared.symbol.id = context.source.identifier
    (Symbol.qualify (some owner) declared.symbol.name)
    (context.source.location cursor.node).startLine
  leaf : declared.symbol.children = []
  methods : declared.symbol.details.methods = []
  access : declared.symbol.exported = false ↔
    declared.symbol.metadata.bind (·.accessModifier) = some "private"
  body : declared.symbol.calls = [] ∧ declared.imports = [] ∨
    ∃ function : Node, function.Within cursor.node ∧
      declared.symbol.calls = (context.bodyOf function).calls ∧
      declared.imports = (context.bodyOf function).imports

theorem methodMember?_spec {cursor : Cursor} {owner : String} {declared : Declared}
    (found : context.methodMember? cursor owner = some declared) :
    context.ClassMember owner cursor declared := by
  unfold methodMember? at found
  obtain ⟨nameNode, _, found⟩ := Option.bind_eq_some_iff.mp found
  obtain ⟨named, found⟩ := guard_bind_eq_some.mp found
  obtain rfl := Option.some.inj found
  exact {
    named := by simpa using named
    kind := .inl rfl
    receiver := rfl
    place := rfl
    id := rfl
    leaf := rfl
    methods := rfl
    access := by simp
    body := .inr ⟨cursor.node, .refl _, rfl, rfl⟩ }

theorem fieldMember?_spec {cursor : Cursor} {owner : String} {declared : Declared}
    (found : context.fieldMember? cursor owner = some declared) :
    context.ClassMember owner cursor declared := by
  unfold fieldMember? at found
  obtain ⟨nameNode, _, found⟩ := Option.bind_eq_some_iff.mp found
  obtain ⟨named, found⟩ := guard_bind_eq_some.mp found
  have named : context.source.text nameNode ≠ "" := by simpa using named
  simp only at found
  split at found
  · obtain rfl := Option.some.inj found
    exact {
      named
      kind := .inr rfl
      receiver := rfl
      place := rfl
      id := rfl
      leaf := rfl
      methods := rfl
      access := by simp
      body := .inl ⟨rfl, rfl⟩ }
  · rename_i function valued
    have inside := Node.within_of_child? (Option.filter_eq_some_iff.mp valued).1
    obtain rfl := Option.some.inj found
    exact {
      named
      kind := .inl rfl
      receiver := rfl
      place := rfl
      id := rfl
      leaf := rfl
      methods := rfl
      access := by simp
      body := .inr ⟨function, inside, rfl, rfl⟩ }

theorem classMember?_spec {cursor : Cursor} {owner : String} {declared : Declared}
    (found : context.classMember? owner cursor = some declared) :
    context.ClassMember owner cursor declared := by
  unfold classMember? at found
  split at found
  · exact methodMember?_spec found
  split at found
  · exact fieldMember?_spec found
  · cases found

theorem classMembers_spec {cursor : Cursor} {owner : String} {declared : Declared}
    (member : declared ∈ context.classMembers cursor owner) :
    ∃ place : Cursor, place.node.Within cursor.node ∧
      context.ClassMember owner place declared := by
  unfold classMembers at member
  split at member
  · simp at member
  · rename_i body found
    obtain ⟨place, present, read⟩ := List.mem_filterMap.mp member
    have inside := (Cursor.within_of_mem_namedChildren present).trans
      (Cursor.within_of_child? found)
    exact ⟨place, inside, classMember?_spec read⟩

end Context
end ScriptAtlas
