import ScriptAtlas.Proofs.FanOut

/-! Functions that are called where they are written. The walk goes into a function value exactly
if it is, in any number of parentheses, the callee of a call, or if it is handed to a call; the
functions declared in its body are then symbols of the file. A function that is called through its
method `call` or `apply` is not the callee, and nothing inside it is found. -/
namespace ScriptAtlas
open SyntaxTree

namespace SyntaxTree.Cursor

/-- The second cursor is the first in any number of parentheses. -/
inductive Wrapped : Cursor → Cursor → Prop where
  | bare (cursor : Cursor) : Wrapped cursor cursor
  | enclosed {cursor around outer : Cursor} (up : cursor.parent? = some around)
      (kind : around.node.kind = .parenthesizedExpression) (rest : Wrapped around outer) :
      Wrapped cursor outer

/-- What a call calls. -/
def IsCallee (cursor : Cursor) : Prop :=
  ∃ call, cursor.parent? = some call ∧ call.node.kind = .callExpression ∧
    cursor.isUnder .callee = true

/-- What a call calls through its method `call` or `apply`. -/
def IsApplied (source : Source) (cursor : Cursor) : Prop :=
  ∃ access method, cursor.parent? = some access ∧ access.node.kind = .memberExpression ∧
    cursor.isUnder .object = true ∧ access.node.child? .property = some method ∧
    (source.text method = "call" ∨ source.text method = "apply") ∧ access.IsCallee

variable {cursor outer : Cursor}

theorem Wrapped.parent_cases (wrapped : cursor.Wrapped outer) :
    outer = cursor ∨ cursor.parentKind? = some .parenthesizedExpression := by
  cases wrapped with
  | bare => exact .inl rfl
  | enclosed up kind _ =>
    right
    rw [parentKind?, up, ← kind]
    rfl

/-- The way up through parentheses ends where a parent is something else. -/
theorem Wrapped.unique {first second : Cursor} (left : cursor.Wrapped first)
    (right : cursor.Wrapped second)
    (end₁ : first.parentKind? ≠ some .parenthesizedExpression)
    (end₂ : second.parentKind? ≠ some .parenthesizedExpression) : first = second := by
  induction left with
  | bare cursor =>
    rcases right.parent_cases with same | inside
    · exact same.symm
    · exact absurd inside end₁
  | enclosed up kind _ ih =>
    cases right with
    | bare =>
      rw [parentKind?, up] at end₂
      exact absurd (congrArg some kind) end₂
    | enclosed up' _ rest =>
      obtain rfl := Option.some.inj (up.symm.trans up')
      exact ih rest end₁

/-- The climb of the walk ends at the callee of a call, if it does. -/
theorem reachesCallee_iff (node : Node) (above : List Frame) :
    reachesCallee above = true ↔
      ∃ outer, (⟨node, above⟩ : Cursor).Wrapped outer ∧ outer.IsCallee := by
  induction above generalizing node with
  | nil =>
    constructor
    · intro reaches
      cases reaches
    · rintro ⟨outer, wrapped, call, up, _⟩
      cases wrapped with
      | bare => cases up
      | enclosed up => cases up
  | cons frame rest ih =>
    rw [reachesCallee]
    constructor
    · intro reaches
      split at reaches
      · rename_i kind
        obtain ⟨outer, wrapped, callee⟩ := (ih frame.parent).mp reaches
        exact ⟨outer, .enclosed rfl kind wrapped, callee⟩
      · rename_i kind
        exact ⟨_, .bare _, _, rfl, kind, reaches⟩
      · cases reaches
    · rintro ⟨outer, wrapped, callee⟩
      cases wrapped with
      | bare =>
        obtain ⟨call, up, kind, under⟩ := callee
        obtain rfl := Option.some.inj up
        change frame.parent.kind = _ at kind
        rw [kind]
        exact under
      | enclosed up kind wrapped =>
        obtain rfl := Option.some.inj up
        change frame.parent.kind = _ at kind
        rw [kind]
        exact (ih frame.parent).mpr ⟨outer, wrapped, callee⟩

theorem isInvoked_iff (value : cursor.node.kind.isFunctionValue) :
    cursor.isInvoked = true ↔ ∃ outer, cursor.Wrapped outer ∧ outer.IsCallee := by
  rw [isInvoked, value, Bool.true_and, reachesCallee_iff cursor.node]

theorem IsCallee.parentKind? (callee : cursor.IsCallee) :
    cursor.parentKind? = some .callExpression := by
  obtain ⟨call, up, kind, _⟩ := callee
  rw [Cursor.parentKind?, up, ← kind]
  rfl

theorem IsApplied.parentKind? {source : Source} (applied : cursor.IsApplied source) :
    cursor.parentKind? = some .memberExpression := by
  obtain ⟨access, _, up, kind, _⟩ := applied
  rw [Cursor.parentKind?, up, ← kind]
  rfl

/-- A function that is called through a method of its own is not called itself, nor handed to a
call. -/
theorem IsApplied.not_isTransparent {source : Source} (value : cursor.node.kind.isFunctionValue)
    (wrapped : cursor.Wrapped outer) (applied : outer.IsApplied source) :
    cursor.isTransparent = false := by
  have invoked : cursor.isInvoked = false := by
    rw [Bool.eq_false_iff, Ne, isInvoked_iff value]
    rintro ⟨other, wrapped', callee⟩
    have same : outer = other := wrapped.unique wrapped' (by simp [applied.parentKind?])
      (by simp [callee.parentKind?])
    have kinds := applied.parentKind?
    rw [same, callee.parentKind?] at kinds
    simp at kinds
  have parent : cursor.parentKind? ≠ some .arguments := by
    rcases wrapped.parent_cases with rfl | inside
    · simp [applied.parentKind?]
    · simp [inside]
  simp [isTransparent, invoked, parent]

theorem isTransparent_iff (value : cursor.node.kind.isFunctionValue) :
    cursor.isTransparent = true ↔
      (∃ outer, cursor.Wrapped outer ∧ outer.IsCallee) ∨ cursor.parentKind? = some .arguments := by
  rw [isTransparent, Bool.or_eq_true, isInvoked_iff value, beq_iff_eq]

/-- The inside of a function value is left alone unless the function is transparent. -/
theorem isOpaque_of_isFunctionValue {source : Source} {aliases : Aliases}
    (value : cursor.node.kind.isFunctionValue) :
    cursor.isOpaque source aliases = !cursor.isTransparent := by
  rcases Kind.isFunctionValue_iff.mp value with kind | kind | kind <;>
    simp [isOpaque, kind, Kind.isFunctionValue, Kind.isFunctionDeclaration, Kind.isClass,
      Kind.isVariableDeclaration]

theorem mem_walk_of_mem {stack : List Cursor} (member : cursor ∈ stack) : cursor ∈ walk stack := by
  rw [walk_eq_flatMap]
  exact List.mem_flatMap.mpr ⟨cursor, member, by simp [walk]⟩

/-- The children of what a walk comes to lie on it too. -/
theorem mem_walk_of_mem_children {stack : List Cursor} {child : Cursor}
    (member : cursor ∈ walk stack) (below : child ∈ cursor.children) : child ∈ walk stack := by
  induction stack using stackInduction with
  | nil => simp at member
  | cons first rest _ ih =>
    rw [walk] at member ⊢
    rcases List.mem_cons.mp member with rfl | later
    · exact List.mem_cons_of_mem _ (mem_walk_of_mem (List.mem_append_left _ below))
    · exact List.mem_cons_of_mem _ (ih later)

theorem mem_reachedFrom_child {source : Source} {aliases : Aliases} {stack : List Cursor}
    {child : Cursor} (reached : cursor ∈ reachedFrom source aliases stack)
    (clear : cursor.isOpaque source aliases = false) (below : child ∈ cursor.children) :
    child ∈ reachedFrom source aliases stack := by
  obtain ⟨member, open'⟩ := List.mem_filter.mp reached
  exact List.mem_filter.mpr
    ⟨mem_walk_of_mem_children member below, isReached_child open' clear below⟩

theorem mem_reachedFrom_of_numbered {source : Source} {aliases : Aliases} {root : Node}
    (number : Nat) (found : numbered? root number = some cursor)
    (reached : cursor.isReached source aliases = true) :
    cursor ∈ reachedFrom source aliases [.root root] :=
  List.mem_filter.mpr ⟨List.mem_of_getElem? ((getElem?_walk _ number).trans found), reached⟩

/-- Nothing below an opaque node is reached. -/
theorem not_mem_reachedFrom {source : Source} {aliases : Aliases} {stack : List Cursor}
    {inner : Cursor} (sealed : cursor.isOpaque source aliases = true)
    (below : inner ∈ walk cursor.children) : inner ∉ reachedFrom source aliases stack := by
  intro reached
  have clear := List.all_eq_true.mp (List.mem_filter.mp reached).2 cursor
    (mem_ancestors_of_mem_walk_children below)
  simp [sealed] at clear

end SyntaxTree.Cursor

open SyntaxTree.Cursor

namespace Context

variable {context : Context} {aliases : Aliases} {root : Node} {cursor : Cursor}

/-- What a reached node declares is found in the tables, whatever became of its metadata. -/
theorem exists_mem_tables {created : Symbol}
    (reached : cursor ∈ reachedFrom context.source aliases [.root root])
    (added : created ∈ (context.contributionAt aliases cursor).symbols) :
    ∃ symbol ∈ (context.tables aliases root).symbols.toList,
      symbol = { created with metadata := symbol.metadata } := by
  let bare (symbol : Symbol) : Symbol := { symbol with metadata := none }
  have views : (context.tables aliases root).symbols.toList.map bare =
      (context.contributions aliases root).flatMap (·.symbols.map bare) := by
    rw [tables_eq_foldl, Table.foldl_absorb_map (fun _ _ => rfl)]
    rfl
  have viewed : bare created ∈ (context.tables aliases root).symbols.toList.map bare := by
    rw [views]
    exact List.mem_flatMap.mpr
      ⟨_, List.mem_map_of_mem reached, List.mem_map_of_mem added⟩
  obtain ⟨symbol, present, same⟩ := List.mem_map.mp viewed
  exact ⟨symbol, present, Symbol.eq_of_bare same⟩

/-- What a reached node declares is returned, if private symbols are; only its metadata and its
export flag may have changed. -/
theorem exists_mem_extract (language : String) {created : Symbol}
    (reached : cursor ∈
      reachedFrom context.source (Aliases.resolve context.source root) [.root root])
    (added : created ∈
      (context.contributionAt (Aliases.resolve context.source root) cursor).symbols) :
    ∃ symbol ∈ (context.extract true language root).extraction.symbols,
      symbol = { created with metadata := symbol.metadata, exported := symbol.exported } := by
  obtain ⟨symbol, present, same⟩ := exists_mem_tables reached added
  obtain ⟨metadata, rfl⟩ : ∃ metadata, symbol = { created with metadata } := ⟨_, same⟩
  refine ⟨_, mem_visibleSymbols_iff.mpr
    ⟨mem_completeSymbols_iff.mpr (.inl (List.mem_map_of_mem present)), .inl rfl⟩, ?_⟩
  rw [Symbol.publish_eq]

/-- A named function declaration that the walk comes to is a symbol of the result. -/
theorem extract_declares_function (language : String) {declaration : Cursor} {name : String}
    (reached : declaration ∈
      reachedFrom context.source (Aliases.resolve context.source root) [.root root])
    (kind : declaration.node.kind.isFunctionDeclaration)
    (named : context.source.fieldText? declaration.node .name = some name)
    (nonempty : name ≠ "") :
    ∃ symbol ∈ (context.extract true language root).extraction.symbols,
      symbol.name = name ∧ symbol.location = context.source.location declaration.node ∧
        symbol.receiver = none ∧ (symbol.kind = .function ∨ symbol.kind = .classType) := by
  have declares : context.functionDeclaration? declaration = some
      (context.functionSymbol declaration declaration.node name declaration.isExported none) := by
    simp [functionDeclaration?, named, nonempty]
  have added : (context.functionSymbol declaration declaration.node name declaration.isExported
      none).symbol ∈
        (context.contributionAt (Aliases.resolve context.source root) declaration).symbols := by
    simp [contributionAt, Form.of, kind, Form.contribution, declares, Contribution.ofDeclared]
  obtain ⟨symbol, returned, same⟩ := exists_mem_extract language reached added
  refine ⟨symbol, returned, ?_⟩
  rw [same, functionSymbol, Symbol.promote_eq]
  refine ⟨rfl, rfl, rfl, ?_⟩
  by_cases promoted : declaration.node.isConstructorFunction name
  · exact .inr (if_pos promoted)
  · exact .inl (if_neg promoted)

/-- Which function values the walk goes into, and what comes of it. A function value that the walk
comes to is entered exactly if it is, in any number of parentheses, the callee of a call, or if it
is handed to one; never if it is called through its method `call` or `apply`. The named functions
declared in the body of an entered function are symbols of the result, as long as private symbols
are returned; in one that is not entered nothing is visited. -/
theorem invoked_entered_iff (context : Context) (root : Node) (language : String)
    (function : Cursor) (value : function.node.kind.isFunctionValue)
    (dispatched : function ∈
      reachedFrom context.source (Aliases.resolve context.source root) [.root root]) :
    let aliases := Aliases.resolve context.source root
    (∀ table, (context.visitOne aliases function table).2 = true ↔
      (∃ outer, function.Wrapped outer ∧ outer.IsCallee) ∨
        function.parentKind? = some .arguments) ∧
    (∀ table outer, function.Wrapped outer → outer.IsApplied context.source →
      (context.visitOne aliases function table).2 = false) ∧
    (∀ table body declaration name, (context.visitOne aliases function table).2 = true →
      function.child? .body = some body → body.node.kind = .statementBlock →
      declaration ∈ body.children → declaration.node.kind.isFunctionDeclaration →
      context.source.fieldText? declaration.node .name = some name → name ≠ "" →
        ∃ symbol ∈ (context.extract true language root).extraction.symbols,
          symbol.name = name ∧ symbol.location = context.source.location declaration.node ∧
            symbol.receiver = none ∧ (symbol.kind = .function ∨ symbol.kind = .classType)) ∧
    (∀ table inner, (context.visitOne aliases function table).2 = false →
      inner ∈ walk function.children →
        inner ∉ reachedFrom context.source aliases [.root root]) := by
  intro aliases
  have entered : ∀ table, (context.visitOne aliases function table).2 = function.isTransparent := by
    intro table
    rw [visitOne_snd, isOpaque_of_isFunctionValue value, Bool.not_not]
  have clear : function.isOpaque context.source aliases = !function.isTransparent :=
    isOpaque_of_isFunctionValue value
  simp only [entered]
  refine ⟨fun _ => isTransparent_iff value, fun _ outer wrapped applied =>
    applied.not_isTransparent value wrapped, ?_, ?_⟩
  · intro _ body declaration name transparent found block member kind named nonempty
    have inside : body ∈ reachedFrom context.source aliases [.root root] :=
      mem_reachedFrom_child dispatched (by rw [clear, transparent]; rfl)
        (List.mem_of_find?_eq_some found)
    have passed : body.isOpaque context.source aliases = false := by
      simp [isOpaque, block, Kind.isFunctionDeclaration, Kind.isClass, Kind.isVariableDeclaration,
        Kind.isFunctionValue]
    exact extract_declares_function language (mem_reachedFrom_child inside passed member) kind
      named nonempty
  · intro _ inner sealed below
    exact not_mem_reachedFrom (by rw [clear, sealed]; rfl) below

end Context

/-- The declaration in `(function () { function p() {} })`. -/
def sampleInner : Node :=
  ⟨.functionDeclaration, true, false, none, 15, 30, [
    ⟨.other "function", false, false, none, 15, 23, []⟩,
    ⟨.identifier, true, false, some .name, 24, 25, []⟩,
    ⟨.other "formal_parameters", true, false, some .parameters, 25, 27, []⟩,
    ⟨.statementBlock, true, false, some .body, 28, 30, []⟩]⟩

def sampleBody : Node :=
  ⟨.statementBlock, true, false, some .body, 13, 32, [
    ⟨.other "\x7b", false, false, none, 13, 14, []⟩,
    sampleInner,
    ⟨.other "\x7d", false, false, none, 31, 32, []⟩]⟩

def sampleValue : Node :=
  ⟨.functionExpression, true, false, none, 1, 32, [
    ⟨.other "function", false, false, none, 1, 9, []⟩,
    ⟨.other "formal_parameters", true, false, some .parameters, 10, 12, []⟩,
    sampleBody]⟩

def sampleWrapper (field : Field) : Node :=
  ⟨.parenthesizedExpression, true, false, some field, 0, 33, [
    ⟨.other "(", false, false, none, 0, 1, []⟩,
    sampleValue,
    ⟨.other ")", false, false, none, 32, 33, []⟩]⟩

/-- A call with a callee, and the file with this call for its only statement. -/
def sampleInvocation (callee : Node) (stop : Nat) : Node :=
  ⟨.callExpression, true, false, none, 0, stop, [
    callee, ⟨.arguments, true, false, some .arguments, callee.stop, stop, []⟩]⟩

def sampleStatement (call : Node) : Node :=
  ⟨.expressionStatement, true, false, none, 0, call.stop + 1, [
    call, ⟨.other ";", false, false, none, call.stop, call.stop + 1, []⟩]⟩

def sampleProgram (call : Node) : Node :=
  ⟨.program, true, false, none, 0, call.stop + 1, [sampleStatement call]⟩

def invocationContext (text : String) : Context :=
  ⟨Source.ofBytes "lib/a.js" text.toUTF8, CallLimits.standard, false⟩

/-- The function of `(function () { function p() {} })();` is entered, and `p` is found. -/
theorem Context.invoked_entered_sampleInvocation :
    let context := invocationContext "(function () \x7b function p() \x7b\x7d \x7d)();"
    let call := sampleInvocation (sampleWrapper .callee) 35
    let root := sampleProgram call
    let function : Cursor := ⟨sampleValue,
      [⟨sampleWrapper .callee, 1⟩, ⟨call, 0⟩, ⟨sampleStatement call, 0⟩, ⟨root, 0⟩]⟩
    function ∈ reachedFrom context.source (Aliases.resolve context.source root) [.root root] ∧
    (context.visitOne (Aliases.resolve context.source root) function {}).2 = true ∧
    ∃ symbol ∈ (context.extract true "javascript" root).extraction.symbols, symbol.name = "p" := by
  intro context call root function
  have dispatched : function ∈
      reachedFrom context.source (Aliases.resolve context.source root) [.root root] :=
    mem_reachedFrom_of_numbered 5 rfl (by decide +kernel)
  obtain ⟨entered, _, declared, _⟩ :=
    context.invoked_entered_iff root "javascript" function rfl dispatched
  have callee : (⟨sampleWrapper .callee, function.above.tail⟩ : Cursor).IsCallee :=
    ⟨_, rfl, rfl, by decide +kernel⟩
  have enters := (entered {}).mpr (.inl ⟨_, .enclosed rfl rfl (.bare _), callee⟩)
  obtain ⟨symbol, returned, named, _⟩ := declared {}
    ⟨sampleBody, ⟨sampleValue, 2⟩ :: function.above⟩
    ⟨sampleInner, ⟨sampleBody, 1⟩ :: ⟨sampleValue, 2⟩ :: function.above⟩ "p" enters rfl rfl
    (List.mem_of_getElem? (i := 1) rfl) rfl (by decide +kernel) (by decide)
  exact ⟨dispatched, enters, symbol, returned, named⟩

/-- The function of `(function () { function p() {} }).call(this);` is called as well, but it is
not entered, and `p` is lost. -/
theorem Context.applied_not_entered :
    let context := invocationContext "(function () \x7b function p() \x7b\x7d \x7d).call(this);"
    let access : Node := ⟨.memberExpression, true, false, some .callee, 0, 38, [
      sampleWrapper .object,
      ⟨.other ".", false, false, none, 33, 34, []⟩,
      ⟨.propertyIdentifier, true, false, some .property, 34, 38, []⟩]⟩
    let call := sampleInvocation access 44
    let root := sampleProgram call
    let outer : Cursor := ⟨sampleWrapper .object,
      [⟨access, 0⟩, ⟨call, 0⟩, ⟨sampleStatement call, 0⟩, ⟨root, 0⟩]⟩
    let function : Cursor := ⟨sampleValue, ⟨sampleWrapper .object, 1⟩ :: outer.above⟩
    function ∈ reachedFrom context.source (Aliases.resolve context.source root) [.root root] ∧
    function.Wrapped outer ∧ outer.IsApplied context.source ∧
    (context.visitOne (Aliases.resolve context.source root) function {}).2 = false ∧
    (context.extract true "javascript" root).extraction.symbols.map (·.name) = [] := by
  intro context access call root outer function
  refine ⟨mem_reachedFrom_of_numbered 6 rfl (by decide +kernel),
    .enclosed rfl rfl (.bare _), ?_, by decide +kernel, by decide +kernel⟩
  exact ⟨_, _, rfl, rfl, by decide +kernel, rfl, .inl (by decide +kernel),
    _, rfl, rfl, by decide +kernel⟩

end ScriptAtlas
