import ScriptAtlas.Proofs.Declarations
import ScriptAtlas.Proofs.Tables

/-! What the limits of call scans and a cancellation can change: the lists of calls and the dynamic
imports, and nothing else. Two readings of one file are compared by a relation that is carried from
the bodies through every declaration, the tables and the last pass. -/
namespace ScriptAtlas
open SyntaxTree

namespace Symbol

mutual
/-- A symbol without its calls and those of its members. -/
def eraseCalls : Symbol → Symbol
  | symbol@{ children, .. } => { symbol with calls := [], children := eraseAll children }

def eraseAll : List Symbol → List Symbol
  | [] => []
  | symbol :: rest => symbol.eraseCalls :: eraseAll rest
end

mutual
/-- The lists of calls of a symbol and of its members, in order. -/
def callLists : Symbol → List (List CallSite)
  | { children, calls, .. } => calls :: callListsOf children

def callListsOf : List Symbol → List (List CallSite)
  | [] => []
  | symbol :: rest => symbol.callLists ++ callListsOf rest
end

theorem eraseAll_eq_map (symbols : List Symbol) : eraseAll symbols = symbols.map eraseCalls := by
  induction symbols with
  | nil => rfl
  | cons symbol rest ih => simp [eraseAll, ih]

theorem eraseCalls_eq (symbol : Symbol) :
    symbol.eraseCalls =
      { symbol with calls := [], children := symbol.children.map eraseCalls } := by
  rw [← eraseAll_eq_map]
  cases symbol; rfl

theorem callListsOf_eq_flatMap (symbols : List Symbol) :
    callListsOf symbols = symbols.flatMap callLists := by
  induction symbols with
  | nil => rfl
  | cons symbol rest ih => simp [callListsOf, ih]

theorem callLists_eq (symbol : Symbol) :
    symbol.callLists = symbol.calls :: symbol.children.flatMap callLists := by
  rw [← callListsOf_eq_flatMap]
  cases symbol; rfl

@[simp] theorem eraseCalls_name (symbol : Symbol) : symbol.eraseCalls.name = symbol.name := by
  cases symbol; rfl

@[simp] theorem eraseCalls_kind (symbol : Symbol) : symbol.eraseCalls.kind = symbol.kind := by
  cases symbol; rfl

@[simp] theorem eraseCalls_location (symbol : Symbol) :
    symbol.eraseCalls.location = symbol.location := by
  cases symbol; rfl

@[simp] theorem eraseCalls_exported (symbol : Symbol) :
    symbol.eraseCalls.exported = symbol.exported := by
  cases symbol; rfl

@[simp] theorem eraseCalls_receiver (symbol : Symbol) :
    symbol.eraseCalls.receiver = symbol.receiver := by
  cases symbol; rfl

@[simp] theorem eraseCalls_details (symbol : Symbol) :
    symbol.eraseCalls.details = symbol.details := by
  cases symbol; rfl

@[simp] theorem eraseCalls_methodSignature (symbol : Symbol) :
    symbol.eraseCalls.methodSignature = symbol.methodSignature := by
  cases symbol; rfl

end Symbol

/-- How far two readings of a file may differ in their lists of calls and of imports. -/
structure Slack where
  calls : List CallSite → List CallSite → Prop
  imports : List Import → List Import → Prop
  calls_nil : calls [] []
  imports_refl : ∀ list, imports list list
  imports_append : ∀ {first second third fourth}, imports first second → imports third fourth →
    imports (first ++ third) (second ++ fourth)

/-- Calls may differ in any way, imports in the dynamic ones. -/
def Slack.erasing : Slack where
  calls := fun _ _ => True
  imports := fun first second => first.filter (!·.isDynamic) = second.filter (!·.isDynamic)
  calls_nil := trivial
  imports_refl := fun _ => rfl
  imports_append := fun left right => by simp [left, right]

/-- The first reading may have been cut short. -/
def Slack.cutting : Slack where
  calls := fun first second => first <+: second
  imports := List.Sublist
  calls_nil := List.prefix_refl []
  imports_refl := List.Sublist.refl
  imports_append := List.Sublist.append

/-- Symbols that are alike apart from their calls, and whose calls differ within the slack. -/
structure Symbol.Agree (slack : Slack) (first second : Symbol) : Prop where
  erased : first.eraseCalls = second.eraseCalls
  calls : List.Forall₂ slack.calls first.callLists second.callLists

variable {slack : Slack}

namespace Symbol

variable {first second : Symbol}

theorem Agree.name (agree : Agree slack first second) : first.name = second.name := by
  simpa using congrArg Symbol.name agree.erased

theorem Agree.kind (agree : Agree slack first second) : first.kind = second.kind := by
  simpa using congrArg Symbol.kind agree.erased

theorem Agree.exported (agree : Agree slack first second) : first.exported = second.exported := by
  simpa using congrArg Symbol.exported agree.erased

theorem Agree.receiver (agree : Agree slack first second) : first.receiver = second.receiver := by
  simpa using congrArg Symbol.receiver agree.erased

/-- A change that neither reads nor writes calls and members keeps symbols alike. -/
theorem Agree.update (agree : Agree slack first second) (change : Symbol → Symbol)
    (erased : ∀ symbol, (change symbol).eraseCalls = change symbol.eraseCalls)
    (calls : ∀ symbol, (change symbol).callLists = symbol.callLists) :
    Agree slack (change first) (change second) where
  erased := by rw [erased, erased, agree.erased]
  calls := by
    rw [calls, calls]
    exact agree.calls

theorem Agree.setParent (agree : Agree slack first second) (parent : String) :
    Agree slack (first.setParent parent) (second.setParent parent) := by
  refine agree.update (·.setParent parent) ?_ ?_
  · intro symbol
    simp only [Symbol.setParent, eraseCalls_details]
    cases symbol; rfl
  · intro symbol
    cases symbol; rfl

theorem Agree.promote (agree : Agree slack first second) (function : Node) :
    Agree slack (first.promote function) (second.promote function) := by
  refine agree.update (·.promote function) ?_ ?_
  · intro symbol
    simp only [Symbol.promote, eraseCalls_details, eraseCalls_name]
    split
    · cases symbol; rfl
    · rfl
  · intro symbol
    unfold Symbol.promote
    split
    · cases symbol; rfl
    · rfl

theorem Agree.publish (agree : Agree slack first second) (aliases : Aliases)
    (published : List String) :
    Agree slack (first.publish aliases published) (second.publish aliases published) := by
  refine agree.update (·.publish aliases published) ?_ ?_
  · intro symbol
    simp only [Symbol.publish, eraseCalls_name]
    split
    · cases symbol; rfl
    · rfl
  · intro symbol
    unfold Symbol.publish
    split
    · cases symbol; rfl
    · rfl

theorem Agree.redeclare (agree : Agree slack first second) (exported : Bool) (docComment : String) :
    Agree slack { first with exported, docComment } { second with exported, docComment } := by
  refine agree.update (fun symbol => { symbol with exported, docComment }) ?_ ?_
  · intro symbol
    cases symbol; rfl
  · intro symbol
    cases symbol; rfl

theorem map_eraseCalls_eq {left right : List Symbol}
    (pairs : List.Forall₂ (Agree slack) left right) :
    left.map eraseCalls = right.map eraseCalls := by
  induction pairs with
  | nil => rfl
  | cons head _ ih => simp [head.erased, ih]

/-- What is read off symbols without looking at their calls is the same of like symbols. -/
theorem eq_of_blind {α : Type} (view : List Symbol → α)
    (blind : ∀ symbols, view (symbols.map eraseCalls) = view symbols) {left right : List Symbol}
    (pairs : List.Forall₂ (Agree slack) left right) : view left = view right := by
  rw [← blind left, map_eraseCalls_eq pairs, blind right]

theorem forall₂_callLists {left right : List Symbol}
    (pairs : List.Forall₂ (Agree slack) left right) :
    List.Forall₂ slack.calls (left.flatMap callLists) (right.flatMap callLists) :=
  List.rel_flatMap pairs fun _ _ agree => agree.calls

/-- Like symbols may be given lists of calls within the slack and like members. -/
theorem agree_of_members (symbol : Symbol) {calls calls' : List CallSite}
    {children children' : List Symbol} (related : slack.calls calls calls')
    (members : List.Forall₂ (Agree slack) children children') :
    Agree slack { symbol with calls, children }
      { symbol with calls := calls', children := children' } where
  erased := by simp only [eraseCalls_eq, map_eraseCalls_eq members]
  calls := by
    simp only [callLists_eq]
    exact .cons related (forall₂_callLists members)

theorem symbolAt_agree (source : Source) (cursor : Cursor) (name : String) (kind : SymbolKind)
    (signature : String) (docComment : Option String) (exported : Bool) (receiver : Option String)
    (metadata : Option SymbolMetadata) {calls calls' : List CallSite}
    (related : slack.calls calls calls') :
    Agree slack
      (source.symbolAt cursor name kind ⟨signature, docComment, exported, receiver, calls, metadata⟩)
      (source.symbolAt cursor name kind
        ⟨signature, docComment, exported, receiver, calls', metadata⟩) :=
  agree_of_members (source.symbolAt cursor name kind
    ⟨signature, docComment, exported, receiver, [], metadata⟩) related .nil

end Symbol

/-- Declarations whose symbols and imports differ within the slack. -/
structure Declared.Agree (slack : Slack) (first second : Declared) : Prop where
  symbol : Symbol.Agree slack first.symbol second.symbol
  imports : slack.imports first.imports second.imports

/-- Contributions that differ within the slack; names and edges are the same. -/
structure Contribution.Agree (slack : Slack) (first second : Contribution) : Prop where
  symbols : List.Forall₂ (Symbol.Agree slack) first.symbols second.symbols
  imports : slack.imports first.imports second.imports
  published : first.published = second.published
  edge : first.edge = second.edge

namespace Contribution

theorem agree_refl (part : Contribution) (plain : ∀ symbol ∈ part.symbols, symbol.calls = [])
    (leaves : ∀ symbol ∈ part.symbols, symbol.children = []) : Agree slack part part where
  symbols := by
    apply List.forall₂_same.mpr
    intro symbol member
    refine ⟨rfl, ?_⟩
    rw [Symbol.callLists_eq, plain symbol member, leaves symbol member]
    exact .cons slack.calls_nil .nil
  imports := slack.imports_refl _
  published := rfl
  edge := rfl

theorem agree_bare {part : Contribution} (bare : part.symbols = []) : Agree slack part part :=
  agree_refl part (by simp [bare]) (by simp [bare])

theorem agree_ofDeclared {first second : Declared} (agree : Declared.Agree slack first second) :
    Agree slack (.ofDeclared first) (.ofDeclared second) where
  symbols := .cons agree.symbol .nil
  imports := agree.imports
  published := rfl
  edge := rfl

theorem agree_elim {left right : Option Declared}
    (agree : Option.Rel (Declared.Agree slack) left right) :
    Agree slack (left.elim {} .ofDeclared) (right.elim {} .ofDeclared) := by
  cases agree with
  | none => exact agree_bare rfl
  | some agree => exact agree_ofDeclared agree

theorem imports_flatMap {α β : Type} {related : α → β → Prop} {left : List α} {right : List β}
    {importsOf : α → List Import} {importsOf' : β → List Import}
    (pairs : List.Forall₂ related left right)
    (each : ∀ item item', related item item' → slack.imports (importsOf item) (importsOf' item')) :
    slack.imports (left.flatMap importsOf) (right.flatMap importsOf') := by
  induction pairs with
  | nil => exact slack.imports_refl []
  | cons head _ ih => exact slack.imports_append (each _ _ head) ih

theorem agree_join {left right : List Contribution}
    (pairs : List.Forall₂ (Agree slack) left right) : Agree slack (join left) (join right) where
  symbols := List.rel_flatMap pairs fun _ _ agree => agree.symbols
  imports := imports_flatMap pairs fun _ _ agree => agree.imports
  published := by
    simp only [join]
    induction pairs with
    | nil => rfl
    | cons head _ ih => simp [head.published, ih]
  edge := rfl

end Contribution

theorem Symbol.summarize_eq {left right : List Symbol}
    (pairs : List.Forall₂ (Symbol.Agree slack) left right) :
    SymbolMetadata.summarize left = SymbolMetadata.summarize right := by
  refine eq_of_blind SymbolMetadata.summarize ?_ pairs
  intro members
  simp [SymbolMetadata.summarize, List.filter_map, Function.comp_def]

theorem rel_bind {α β : Type} {related : β → β → Prop} {option : Option α}
    {left right : α → Option β} (each : ∀ value, Option.Rel related (left value) (right value)) :
    Option.Rel related (option >>= left) (option >>= right) := by
  cases option with
  | none => exact .none
  | some value => exact each value

namespace Context

/-- Two readings of one file whose bodies differ within the slack. -/
structure Related (slack : Slack) (first second : Context) : Prop where
  source : first.source = second.source
  calls : ∀ function, slack.calls (first.bodyOf function).calls (second.bodyOf function).calls
  imports : ∀ function,
    slack.imports (first.bodyOf function).imports (second.bodyOf function).imports

variable {first second : Context} (related : Related slack first second)
include related

theorem functionSymbol_agree (anchor : Cursor) (function : Node) (name : String) (exported : Bool)
    (docComment : Option String) :
    Declared.Agree slack (first.functionSymbol anchor function name exported docComment)
      (second.functionSymbol anchor function name exported docComment) where
  symbol := by
    simp only [functionSymbol, related.source]
    exact (Symbol.symbolAt_agree _ _ _ _ _ _ _ _ _ (related.calls function)).promote function
  imports := related.imports function

theorem functionDeclaration?_agree (cursor : Cursor) :
    Option.Rel (Declared.Agree slack) (first.functionDeclaration? cursor)
      (second.functionDeclaration? cursor) := by
  simp only [functionDeclaration?, related.source]
  refine rel_bind fun name => rel_bind fun _ => .some ?_
  exact functionSymbol_agree related cursor cursor.node name _ none

theorem methodMember?_agree (cursor : Cursor) (owner : String) :
    Option.Rel (Declared.Agree slack) (first.methodMember? cursor owner)
      (second.methodMember? cursor owner) := by
  simp only [methodMember?, related.source]
  refine rel_bind fun nameNode => rel_bind fun _ => .some ⟨?_, related.imports cursor.node⟩
  exact Symbol.symbolAt_agree _ _ _ _ _ _ _ _ _ (related.calls cursor.node)

theorem fieldMember?_agree (cursor : Cursor) (owner : String) :
    Option.Rel (Declared.Agree slack) (first.fieldMember? cursor owner)
      (second.fieldMember? cursor owner) := by
  simp only [fieldMember?, related.source]
  refine rel_bind fun nameNode => rel_bind fun _ => ?_
  split
  · refine .some ⟨?_, slack.imports_refl []⟩
    exact Symbol.symbolAt_agree _ _ _ _ _ _ _ _ _ slack.calls_nil
  · rename_i function _
    refine .some ⟨?_, related.imports function⟩
    exact Symbol.symbolAt_agree _ _ _ _ _ _ _ _ _ (related.calls function)

theorem classMember?_agree (owner : String) (cursor : Cursor) :
    Option.Rel (Declared.Agree slack) (first.classMember? owner cursor)
      (second.classMember? owner cursor) := by
  unfold classMember?
  split
  · exact methodMember?_agree related cursor owner
  split
  · exact fieldMember?_agree related cursor owner
  · exact .none

theorem classMembers_agree (cursor : Cursor) (owner : String) :
    List.Forall₂ (Declared.Agree slack) (first.classMembers cursor owner)
      (second.classMembers cursor owner) := by
  unfold classMembers
  split
  · exact .nil
  · rename_i body _
    refine List.rel_filterMap ?_ (List.forall₂_same.mpr fun _ _ => Eq.refl _)
    rintro member _ rfl
    exact classMember?_agree related owner member

theorem classSymbol_agree (cursor : Cursor) (name : String) :
    Declared.Agree slack (first.classSymbol cursor name) (second.classSymbol cursor name) := by
  have members := classMembers_agree related cursor name
  have children : List.Forall₂ (Symbol.Agree slack)
      ((first.classMembers cursor name).map (·.symbol))
      ((second.classMembers cursor name).map (·.symbol)) :=
    List.rel_map (fun _ _ agree => agree.symbol) members
  refine ⟨?_, Contribution.imports_flatMap members fun _ _ agree => agree.imports⟩
  simp only [classSymbol, related.source, Symbol.summarize_eq children]
  exact Symbol.agree_of_members _ slack.calls_nil children

theorem class?_agree (cursor : Cursor) (given : Option String) :
    Option.Rel (Declared.Agree slack) (first.class? cursor given) (second.class? cursor given) := by
  simp only [class?, related.source]
  exact rel_bind fun name => rel_bind fun _ => .some (classSymbol_agree related cursor name)

theorem boundSymbol_eq (declaration : Declaration) (declarator : Cursor) (kind : SymbolKind)
    (name : String) (value? : Option Node) :
    first.boundSymbol declaration declarator kind name value? =
      second.boundSymbol declaration declarator kind name value? := by
  simp only [boundSymbol, related.source]

theorem namedDeclarator_agree (declaration : Declaration) (declarator : Cursor) (name : String)
    (value? : Option Node) :
    Contribution.Agree slack (first.namedDeclarator declaration declarator name value?)
      (second.namedDeclarator declaration declarator name value?) := by
  simp only [namedDeclarator, plainVariable, boundSymbol_eq related, related.source]
  split
  · exact Contribution.agree_refl _ (by simp [boundSymbol]) (by simp [boundSymbol])
  rename_i value
  split
  · exact Contribution.agree_refl _ (by simp [boundSymbol]) (by simp [boundSymbol])
  split
  · exact Contribution.agree_ofDeclared (functionSymbol_agree related _ _ _ _ _)
  split
  · have agree := class?_agree related (.root value.chainValue) (some name)
    generalize first.class? (.root value.chainValue) (some name) = left at agree ⊢
    generalize second.class? (.root value.chainValue) (some name) = right at agree ⊢
    cases agree with
    | none => exact Contribution.agree_bare rfl
    | some agree =>
      exact Contribution.agree_ofDeclared ⟨agree.symbol.redeclare _ _, agree.imports⟩
  · exact Contribution.agree_refl _ (by simp [boundSymbol]) (by simp [boundSymbol])

theorem patternDeclarator_agree (declaration : Declaration) (declarator : Cursor) (pattern : Node)
    (value? : Option Node) :
    Contribution.Agree slack (first.patternDeclarator declaration declarator pattern value?)
      (second.patternDeclarator declaration declarator pattern value?) := by
  have same : first.patternDeclarator declaration declarator pattern value? =
      second.patternDeclarator declaration declarator pattern value? := by
    unfold patternDeclarator plainVariable
    rw [related.source]
    simp only [boundSymbol_eq related]
  rw [same]
  unfold patternDeclarator plainVariable
  simp only
  split
  · exact Contribution.agree_bare rfl
  · exact Contribution.agree_refl _ (by simp [boundSymbol]) (by simp [boundSymbol])

theorem declarator_agree (declaration : Declaration) (cursor : Cursor) :
    Contribution.Agree slack (first.declarator declaration cursor)
      (second.declarator declaration cursor) := by
  simp only [declarator, related.source]
  split
  · exact Contribution.agree_bare rfl
  split
  · exact namedDeclarator_agree related _ _ _ _
  · exact patternDeclarator_agree related _ _ _ _
  · exact patternDeclarator_agree related _ _ _ _
  · exact Contribution.agree_bare rfl

theorem variableDeclaration_agree (cursor : Cursor) :
    Contribution.Agree slack (first.variableDeclaration cursor)
      (second.variableDeclaration cursor) := by
  simp only [variableDeclaration, related.source]
  apply Contribution.agree_join
  rw [List.forall₂_map_left_iff, List.forall₂_map_right_iff, List.forall₂_same]
  exact fun declarator _ => declarator_agree related _ declarator

theorem assignedSymbol_agree (statement : Cursor) (function : Node) (docComment : String)
    (target : Target) :
    Symbol.Agree slack
      (first.assignedSymbol statement function (first.bodyOf function).calls docComment target)
      (second.assignedSymbol statement function (second.bodyOf function).calls docComment target) := by
  have agree (kind : SymbolKind) := Symbol.symbolAt_agree second.source statement target.name kind
    (second.source.functionSignature function target.name) (some docComment) true target.owner
    (some (Extract.Modifiers.of function).functionMetadata) (related.calls function)
  simp only [assignedSymbol, related.source]
  split
  · exact agree .method
  · exact (agree .function).promote function

theorem assignedMethods_agree (statement : Cursor) (function : Node) (targets : List Target) :
    Contribution.Agree slack (first.assignedMethods statement function targets)
      (second.assignedMethods statement function targets) where
  symbols := by
    simp only [assignedMethods, related.source]
    rw [List.forall₂_map_left_iff, List.forall₂_map_right_iff, List.forall₂_same]
    exact fun target _ => assignedSymbol_agree related statement function _ target
  imports := related.imports function
  published := rfl
  edge := rfl

theorem literalSymbol_agree (owner : String) (method : LiteralMethod) :
    Declared.Agree slack (first.literalSymbol owner method) (second.literalSymbol owner method) where
  symbol := by
    simp only [literalSymbol, related.source]
    exact Symbol.symbolAt_agree _ _ _ _ _ _ _ _ _ (related.calls method.function)
  imports := related.imports method.function

theorem literalMethods_agree (owner : String) (methods : List LiteralMethod) :
    Contribution.Agree slack (first.literalMethods owner methods)
      (second.literalMethods owner methods) := by
  apply Contribution.agree_join
  rw [List.forall₂_map_left_iff, List.forall₂_map_right_iff, List.forall₂_same]
  exact fun method _ => Contribution.agree_ofDeclared (literalSymbol_agree related owner method)

theorem idiom_agree (statement : Cursor) (idiom : Idiom) :
    Contribution.Agree slack (idiom.contribution first statement)
      (idiom.contribution second statement) := by
  cases idiom with
  | required dependency => exact Contribution.agree_bare rfl
  | assigned function targets => exact assignedMethods_agree related statement function targets
  | literal owner methods => exact literalMethods_agree related owner methods
  | inherits edge => exact Contribution.agree_bare rfl
  | plain published => exact Contribution.agree_bare rfl

/-- What a node adds to the tables is the same up to the slack. -/
theorem contribution_agree (cursor : Cursor) (form : Form) :
    Contribution.Agree slack (form.contribution first cursor) (form.contribution second cursor) := by
  cases form with
  | function => exact Contribution.agree_elim (functionDeclaration?_agree related cursor)
  | classType => exact Contribution.agree_elim (class?_agree related cursor none)
  | binding => exact variableDeclaration_agree related cursor
  | importing =>
    simp only [Form.contribution, related.source]
    cases second.source.importStatement? cursor.node with
    | none => exact Contribution.agree_bare rfl
    | some dependency => exact Contribution.agree_bare rfl
  | exporting =>
    simp only [Form.contribution, related.source]
    exact Contribution.agree_bare (exportStatement_symbols _ _)
  | statement idiom => exact idiom_agree related cursor idiom
  | sealed => exact Contribution.agree_bare rfl
  | passing => exact Contribution.agree_bare rfl

end Context

/-- Tables that differ within the slack. -/
structure Table.Agree (slack : Slack) (first second : Table) : Prop where
  symbols : List.Forall₂ (Symbol.Agree slack) first.symbols.toList second.symbols.toList
  imports : slack.imports first.imports.toList second.imports.toList
  published : first.published = second.published

/-- Like symbols have their names in the same places, so an edge finds the same one of them. -/
theorem Edge.applyTo_agree (edge : Edge) {left right : List Symbol}
    (pairs : List.Forall₂ (Symbol.Agree slack) left right) :
    List.Forall₂ (Symbol.Agree slack) (edge.applyTo left) (edge.applyTo right) := by
  have place : left.findIdx (·.name == edge.child) = right.findIdx (·.name == edge.child) := by
    refine Symbol.eq_of_blind (List.findIdx (·.name == edge.child)) ?_ pairs
    intro symbols
    simp [List.findIdx_map, Function.comp_def]
  unfold Edge.applyTo
  rw [place]
  exact forall₂_modify pairs (fun _ _ agree => agree.setParent edge.parent) _

theorem Table.absorb_agree {first second : Table} {part part' : Contribution}
    (tables : Table.Agree slack first second) (parts : Contribution.Agree slack part part') :
    Table.Agree slack (first.absorb part) (second.absorb part') where
  symbols := by
    have joined := List.rel_append tables.symbols parts.symbols
    rw [absorb_symbols, absorb_symbols, parts.edge]
    cases part'.edge with
    | none => exact joined
    | some edge => exact edge.applyTo_agree joined
  imports := by
    rw [absorb_imports, absorb_imports]
    exact slack.imports_append tables.imports parts.imports
  published := by rw [absorb_published, absorb_published, tables.published, parts.published]

theorem Context.tables_agree {first second : Context} (related : Related slack first second)
    (aliases : Aliases) (root : Node) :
    Table.Agree slack (first.tables aliases root) (second.tables aliases root) := by
  have parts : List.Forall₂ (Contribution.Agree slack) (first.contributions aliases root)
      (second.contributions aliases root) := by
    simp only [contributions, related.source]
    rw [List.forall₂_map_left_iff, List.forall₂_map_right_iff, List.forall₂_same]
    intro cursor _
    simp only [contributionAt, related.source]
    exact contribution_agree related cursor _
  rw [tables_eq_foldl, tables_eq_foldl]
  refine List.rel_foldl (P := Table.Agree slack) ?_ ⟨.nil, slack.imports_refl [], rfl⟩ parts
  intro table table' tables part part' parts
  exact Table.absorb_agree tables parts

section LastPass

variable {left right : List Symbol} (pairs : List.Forall₂ (Symbol.Agree slack) left right)
include pairs

theorem Aliases.location_eq (aliases : Aliases) (path : String) :
    aliases.location path left = aliases.location path right := by
  refine Symbol.eq_of_blind (aliases.location path) ?_ pairs
  intro symbols
  unfold location
  cases aliases.names.head? with
  | none => rfl
  | some name => simp [List.find?_map, Function.comp_def]

/-- The class of the aliases has like members on both sides, and the same of all the rest. -/
theorem Aliases.syntheticClass_agree (aliases : Aliases) (source : Source) :
    Symbol.Agree slack (aliases.syntheticClass source left)
      (aliases.syntheticClass source right) := by
  have children : List.Forall₂ (Symbol.Agree slack)
      (left.filter (·.receiver == some aliases.typeName))
      (right.filter (·.receiver == some aliases.typeName)) :=
    List.rel_filter (fun _ _ agree => by simp [agree.receiver]) pairs
  have methods := Symbol.eq_of_blind
    (fun members => (members.filter (·.kind == .method)).map Symbol.methodSignature)
    (fun members => by simp [List.filter_map, Function.comp_def]) children
  have made : aliases.syntheticClass source left = { aliases.syntheticClass source right with
      calls := [], children := left.filter (·.receiver == some aliases.typeName) } := by
    simp only [syntheticClass, Aliases.location_eq pairs, methods]
  rw [made]
  exact Symbol.agree_of_members (aliases.syntheticClass source right) slack.calls_nil children

theorem Aliases.synthetic?_agree (aliases : Aliases) (source : Source) :
    List.Forall₂ (Symbol.Agree slack) (aliases.synthetic? source left).toList
      (aliases.synthetic? source right).toList := by
  have owned := Symbol.eq_of_blind
    (List.any · fun symbol => symbol.isClassLike && symbol.name == aliases.typeName)
    (fun symbols => by simp [Symbol.isClassLike, Function.comp_def]) pairs
  unfold Aliases.synthetic?
  rw [owned]
  split
  · exact .nil
  · exact .cons (aliases.syntheticClass_agree pairs source) .nil

theorem completeSymbols_agree (source : Source) (aliases : Aliases) (published : List String) :
    List.Forall₂ (Symbol.Agree slack) (completeSymbols source aliases published left)
      (completeSymbols source aliases published right) := by
  have marked : List.Forall₂ (Symbol.Agree slack) (left.map (·.publish aliases published))
      (right.map (·.publish aliases published)) :=
    List.rel_map (fun _ _ agree => agree.publish aliases published) pairs
  exact List.rel_append marked (Aliases.synthetic?_agree marked aliases source)

theorem visibleSymbols_agree (includePrivate : Bool) :
    List.Forall₂ (Symbol.Agree slack) (visibleSymbols includePrivate left)
      (visibleSymbols includePrivate right) := by
  unfold visibleSymbols
  split
  · exact pairs
  · exact List.rel_filter (fun _ _ agree => by simp [agree.exported]) pairs

end LastPass

/-- Extractions that differ within the slack. -/
structure Extraction.Agree (slack : Slack) (first second : Extraction) : Prop where
  symbols : List.Forall₂ (Symbol.Agree slack) first.symbols second.symbols
  imports : slack.imports first.imports second.imports
  errors : first.errors = second.errors

namespace Context

theorem extract_agree {first second : Context} (related : Related slack first second)
    (includePrivate : Bool) (language : String) (root : Node) :
    Extraction.Agree slack (first.extract includePrivate language root).extraction
      (second.extract includePrivate language root).extraction := by
  simp only [extract, treeErrors, related.source]
  have tables := tables_agree related (Aliases.resolve second.source root) root
  refine ⟨?_, tables.imports, rfl⟩
  simp only [tables.published]
  exact visibleSymbols_agree (completeSymbols_agree tables.symbols _ _ _) includePrivate

theorem related_erasing {first second : Context} (same : first.source = second.source) :
    Related .erasing first second where
  source := same
  calls := fun _ => trivial
  imports := fun function => by
    have dynamic (context : Context) :
        (context.bodyOf function).imports.filter (!·.isDynamic) = [] := by
      apply List.filter_eq_nil_iff.mpr
      intro dependency member
      simp [bodyOf_dynamic member]
    exact (dynamic first).trans (dynamic second).symm

theorem related_cutting {first second : Context} (same : first.source = second.source)
    (depth : first.limits.depth = second.limits.depth)
    (sites : first.limits.sites ≤ second.limits.sites)
    (cancelled : second.cancelled = true → first.cancelled = true) :
    Related .cutting first second where
  source := same
  calls := fun function => (bodyOf_cut same depth sites cancelled function).1
  imports := fun function => (bodyOf_cut same depth sites cancelled function).2.sublist

/-- The limits of call scans and a cancellation only cut call information. Whatever they are, two
extractions of one file are equal without calls and dynamic imports; and if the first is limited
and cancelled at least as tightly as the second, each of its lists of calls begins the one that
stands in the same place of the second, and its imports come in the same order there. -/
theorem extract_limits_only_cut (first second : Context) (same : first.source = second.source)
    (includePrivate : Bool) (language : String) (root : Node) :
    ((first.extract includePrivate language root).extraction.symbols.map Symbol.eraseCalls =
        (second.extract includePrivate language root).extraction.symbols.map Symbol.eraseCalls ∧
      (first.extract includePrivate language root).extraction.imports.filter (!·.isDynamic) =
        (second.extract includePrivate language root).extraction.imports.filter (!·.isDynamic) ∧
      (first.extract includePrivate language root).extraction.errors =
        (second.extract includePrivate language root).extraction.errors) ∧
    (first.limits.depth = second.limits.depth → first.limits.sites ≤ second.limits.sites →
      (second.cancelled = true → first.cancelled = true) →
      List.Forall₂ (fun symbol symbol' : Symbol =>
          List.Forall₂ (· <+: ·) symbol.callLists symbol'.callLists)
        (first.extract includePrivate language root).extraction.symbols
        (second.extract includePrivate language root).extraction.symbols ∧
      (first.extract includePrivate language root).extraction.imports.Sublist
        (second.extract includePrivate language root).extraction.imports) := by
  constructor
  · have agree := extract_agree (related_erasing same) includePrivate language root
    exact ⟨Symbol.map_eraseCalls_eq agree.symbols, agree.imports, agree.errors⟩
  · intro depth sites cancelled
    have agree := extract_agree (related_cutting same depth sites cancelled) includePrivate
      language root
    exact ⟨agree.symbols.imp fun _ _ pair => pair.calls, agree.imports⟩

/-- The tree of `function f(){g();import("m");h()}`. -/
def sampleFunction : Node :=
  ⟨.program, true, false, none, 0, 33, [
    ⟨.functionDeclaration, true, false, none, 0, 33, [
      ⟨.identifier, true, false, some .name, 9, 10, []⟩,
      ⟨.other "formal_parameters", true, false, some .parameters, 10, 12, []⟩,
      ⟨.statementBlock, true, false, some .body, 12, 33, [
        ⟨.expressionStatement, true, false, none, 13, 17, [
          ⟨.callExpression, true, false, none, 13, 16, [
            ⟨.identifier, true, false, some .callee, 13, 14, []⟩,
            ⟨.arguments, true, false, some .arguments, 14, 16, []⟩]⟩]⟩,
        ⟨.expressionStatement, true, false, none, 17, 29, [
          ⟨.callExpression, true, false, none, 17, 28, [
            ⟨.importKeyword, true, false, some .callee, 17, 23, []⟩,
            ⟨.arguments, true, false, some .arguments, 23, 28, [
              ⟨.stringLiteral, true, false, none, 24, 27, []⟩]⟩]⟩]⟩,
        ⟨.expressionStatement, true, false, none, 29, 32, [
          ⟨.callExpression, true, false, none, 29, 32, [
            ⟨.identifier, true, false, some .callee, 29, 30, []⟩,
            ⟨.arguments, true, false, some .arguments, 30, 32, []⟩]⟩]⟩]⟩]⟩]⟩

/-- A reading of `sampleFunction` that records at most `sites` calls. -/
def sampleReading (sites : Nat) : Context :=
  ⟨Source.ofBytes "lib/f.js" "function f()\x7bg();import(\"m\");h()\x7d".toUTF8, ⟨64, sites⟩, false⟩

theorem extract_limits_only_cut_sampleFunction :
    ((sampleReading 1).extract true "javascript" sampleFunction).extraction.symbols.map
        (·.calls.map (·.target)) = [["g"]] ∧
    ((sampleReading 9).extract true "javascript" sampleFunction).extraction.symbols.map
        (·.calls.map (·.target)) = [["g", "h"]] ∧
    ((sampleReading 9).extract true "javascript" sampleFunction).extraction.imports.map
        (·.path) = ["m"] ∧
    List.Forall₂ (fun symbol symbol' : Symbol =>
        List.Forall₂ (· <+: ·) symbol.callLists symbol'.callLists)
      ((sampleReading 1).extract true "javascript" sampleFunction).extraction.symbols
      ((sampleReading 9).extract true "javascript" sampleFunction).extraction.symbols ∧
    ((sampleReading 1).extract true "javascript" sampleFunction).extraction.imports.Sublist
      ((sampleReading 9).extract true "javascript" sampleFunction).extraction.imports := by
  refine ⟨by decide +kernel, by decide +kernel, by decide +kernel, ?_⟩
  exact (extract_limits_only_cut (sampleReading 1) (sampleReading 9) rfl true "javascript"
    sampleFunction).2 rfl (by decide) (by decide)

end Context
end ScriptAtlas
