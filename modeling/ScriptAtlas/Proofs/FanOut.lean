import ScriptAtlas.Proofs.Exports

/-! Functions bound through chains of assignments. A chain fans out into one symbol for each of its
left sides that means something to the file; the symbols share the statement they stand at and a
single reading of the function's body. -/
namespace ScriptAtlas
open SyntaxTree Extract

namespace SyntaxTree.Node

/-- The left sides on the way from an expression to a value: the way leads to the right side of an
assignment that has both sides, and to the first named child of parentheses. -/
inductive Chain : Node → List Node → Node → Prop where
  | done (value : Node) : Chain value [] value
  | wrapped {node inner value : Node} {links : List Node}
      (kind : node.kind = .parenthesizedExpression) (opened : node.firstNamed? = some inner)
      (rest : Chain inner links value) : Chain node links value
  | linked {node left right value : Node} {links : List Node}
      (kind : node.kind = .assignmentExpression) (assigned : node.child? .left = some left)
      (followed : node.child? .right = some right) (rest : Chain right links value) :
      Chain node (left :: links) value

/-- A member expression with its object and its property. -/
structure Accesses (node object property : Node) : Prop where
  kind : node.kind = .memberExpression
  object : node.child? .object = some object
  property : node.child? .property = some property

namespace Chain

variable {node value : Node} {links : List Node}

/-- A chain is followed to its end if nothing leads on from there. -/
theorem chainLinks_eq (chain : node.Chain links value) (final : value.chainLinks = ([], value)) :
    node.chainLinks = (links, value) := by
  induction chain with
  | done value => exact final
  | wrapped kind opened rest ih =>
    rw [chainLinks, kind]
    simp only
    split
    · rename_i found
      cases opened.symm.trans found
      exact ih final
    · rename_i absent
      cases opened.symm.trans absent
  | linked kind assigned followed rest ih =>
    rw [chainLinks, kind]
    simp only
    split
    · rename_i foundLeft foundRight
      cases assigned.symm.trans foundLeft
      cases followed.symm.trans foundRight
      rw [ih final]
    · rename_i lacking
      exact absurd followed (lacking _ _ assigned)

/-- Where a chain that ends in a function value may be met on the way. -/
theorem kind_cases (chain : node.Chain links value) (function : value.kind.isFunctionValue) :
    node.kind.isFunctionValue = true ∨ node.kind = .parenthesizedExpression ∨
      node.kind = .assignmentExpression := by
  cases chain with
  | done => exact .inl function
  | wrapped kind => exact .inr (.inl kind)
  | linked kind => exact .inr (.inr kind)

end Chain

theorem chainLinks_of_isFunctionValue {value : Node} (function : value.kind.isFunctionValue) :
    value.chainLinks = ([], value) := by
  rw [chainLinks]
  split
  · rename_i kind
    simp [kind, Kind.isFunctionValue] at function
  · rename_i kind
    simp [kind, Kind.isFunctionValue] at function
  · rfl

end SyntaxTree.Node

namespace Source

/-- What a left side binds a function to. A variable that is an alias comes first, then the
prototype of a type, then the export object. -/
inductive Binds (source : Source) (aliases : Aliases) (left : Node) : Target → Prop where
  | toAlias (object property : Node) (access : left.Accesses object property)
      (named : source.text property ≠ "") (kind : object.kind = .identifier)
      (known : source.text object ∈ aliases.names) :
      Binds source aliases left ⟨source.text property, some aliases.typeName⟩
  | toPrototype (object property owner key : Node) (access : left.Accesses object property)
      (named : source.text property ≠ "") (inner : object.Accesses owner key)
      (prototype : source.text key = "prototype") :
      Binds source aliases left ⟨source.text property, some (source.text owner)⟩
  | toExports (object property : Node) (access : left.Accesses object property)
      (named : source.text property ≠ "")
      (unknown : ¬(object.kind = .identifier ∧ source.text object ∈ aliases.names))
      (ownerless : source.prototypeOwner? object = none)
      (exports : source.text object = "module.exports" ∨ source.text object = "exports") :
      Binds source aliases left ⟨source.text property, none⟩

variable {source : Source} {aliases : Aliases} {node left : Node} {target : Target}

theorem prototypeOwner?_eq_some_iff {name : String} :
    source.prototypeOwner? node = some name ↔
      ∃ owner key, node.Accesses owner key ∧ source.text key = "prototype" ∧
        source.text owner = name := by
  unfold prototypeOwner?
  constructor
  · intro found
    obtain ⟨kind, found⟩ := guard_bind_eq_some.mp found
    obtain ⟨key, property, found⟩ := Option.bind_eq_some_iff.mp found
    obtain ⟨prototype, found⟩ := guard_bind_eq_some.mp found
    obtain ⟨owner, object, same⟩ := Option.bind_eq_some_iff.mp found
    exact ⟨owner, key, ⟨kind, object, property⟩, prototype, Option.some.inj same⟩
  · rintro ⟨owner, key, access, prototype, rfl⟩
    simp [access.kind, access.object, access.property, prototype, guard]

theorem isModuleExports_iff :
    source.isModuleExports node = true ↔
      source.text node = "module.exports" ∨ source.text node = "exports" := by
  simp [isModuleExports]

theorem binds_of_target? (found : source.target? aliases left = some target) :
    source.Binds aliases left target := by
  unfold target? at found
  obtain ⟨kind, found⟩ := guard_bind_eq_some.mp found
  obtain ⟨object, objectFound, found⟩ := Option.bind_eq_some_iff.mp found
  obtain ⟨property, propertyFound, found⟩ := Option.bind_eq_some_iff.mp found
  obtain ⟨nonempty, found⟩ := guard_bind_eq_some.mp found
  have access : left.Accesses object property := ⟨kind, objectFound, propertyFound⟩
  have named : source.text property ≠ "" := by simpa using nonempty
  split at found
  · rename_i aliased
    obtain rfl := Option.some.inj found
    have known : source.text object ∈ aliases.names := by
      simpa [Aliases.contains] using aliased.2
    exact .toAlias object property access named aliased.1 known
  · rename_i unaliased
    split at found
    · rename_i name owned
      obtain rfl := Option.some.inj found
      obtain ⟨owner, key, inner, prototype, rfl⟩ := prototypeOwner?_eq_some_iff.mp owned
      exact .toPrototype object property owner key access named inner prototype
    · rename_i ownerless
      split at found
      · rename_i exports
        obtain rfl := Option.some.inj found
        exact .toExports object property access named (by simpa [Aliases.contains] using unaliased)
          ownerless (isModuleExports_iff.mp exports)
      · cases found

theorem target?_of_binds (binds : source.Binds aliases left target) :
    source.target? aliases left = some target := by
  unfold target?
  cases binds with
  | toAlias object property access named kind known =>
    simp [access.kind, access.object, access.property, named, kind, known, Aliases.contains, guard]
  | toPrototype object property owner key access named inner prototype =>
    have owned := prototypeOwner?_eq_some_iff.mpr ⟨owner, key, inner, prototype, rfl⟩
    simp [access.kind, access.object, access.property, named, inner.kind, owned, guard]
  | toExports object property access named unknown ownerless exports =>
    have exported := isModuleExports_iff.mpr exports
    simp [access.kind, access.object, access.property, named, Aliases.contains, unknown, ownerless,
      exported, guard]

/-- The reading of a left side is the first that applies. -/
theorem target?_eq_some_iff :
    source.target? aliases left = some target ↔ source.Binds aliases left target :=
  ⟨binds_of_target?, target?_of_binds⟩

/-- A signature around its name is made from the function alone. -/
theorem functionSignature_eq (source : Source) (function : Node) :
    ∃ head tail, ∀ name, source.functionSignature function name = head ++ name ++ tail := by
  unfold functionSignature
  by_cases arrow : function.kind = .arrowFunction
  · refine ⟨wordIf (Modifiers.of function).isAsync "async ",
      " = " ++ source.parameterList function ++ " =>", fun name => ?_⟩
    simp [arrow, String.append_assoc]
  · refine ⟨wordIf (Modifiers.of function).isAsync "async " ++
      (if (Modifiers.of function).isGenerator then "function* " else "function "),
      source.parameterList function, fun name => ?_⟩
    simp [arrow, String.append_assoc]

end Source

namespace Idiom

variable {source : Source} {aliases : Aliases} {expression function : Node} {links : List Node}

/-- A chain that ends in a function value attaches the function to each left side that means
something, and nothing at all if none does. -/
theorem methods?_of_chain (assignment : expression.kind = .assignmentExpression)
    (chain : expression.Chain links function) (value : function.kind.isFunctionValue) :
    methods? source aliases expression =
      if links.filterMap (source.target? aliases) = [] then none
      else some (.assigned function (links.filterMap (source.target? aliases))) := by
  have followed := chain.chainLinks_eq (Node.chainLinks_of_isFunctionValue value)
  have other : function.kind ≠ .objectLiteral := by
    intro kind
    simp [kind, Kind.isFunctionValue] at value
  unfold methods?
  rw [if_pos assignment, followed]
  simp only [if_neg other, if_pos value]
  by_cases none : links.filterMap (source.target? aliases) = [] <;> simp [none, guard, failure]

/-- A chain that ends in a function value is read as methods or not at all. -/
theorem ofExpression_of_chain (assignment : expression.kind = .assignmentExpression)
    (chain : expression.Chain links function) (value : function.kind.isFunctionValue) :
    ofExpression source aliases expression =
      (methods? source aliases expression).getD (.plain []) := by
  obtain ⟨left, right, assigned, followed, onward⟩ : ∃ left right,
      expression.child? .left = some left ∧ expression.child? .right = some right ∧
        (right.kind.isFunctionValue = true ∨ right.kind = .parenthesizedExpression ∨
          right.kind = .assignmentExpression) := by
    cases chain with
    | done => simp [assignment, Kind.isFunctionValue] at value
    | wrapped kind => simp [assignment] at kind
    | linked _ assigned followed rest => exact ⟨_, _, assigned, followed, rest.kind_cases value⟩
  -- the right side is none of the kinds that the other readings ask for
  obtain ⟨notCall, notName, notObject⟩ : right.kind ≠ .callExpression ∧
      right.kind ≠ .identifier ∧ right.kind ≠ .objectLiteral := by
    refine ⟨?_, ?_, ?_⟩ <;> intro kind <;> simp [kind, Kind.isFunctionValue] at onward
  have unrequired : source.requiredExport? expression = none := by
    simp [Source.requiredExport?, Source.requirePath?, assigned, followed, notCall, guard, failure]
  have edgeless : source.edge? expression = none := by
    simp [Source.edge?, assignment, Source.createEdge?, assigned, followed, notCall, guard, failure]
  have unpublished : source.publishedNames expression = [] := by
    simp [Source.publishedNames, assigned, followed, notName, notObject]
  unfold ofExpression
  rw [unrequired, edgeless, unpublished]
  cases methods? source aliases expression <;> rfl

end Idiom

/-- A constructor function changes the kind and one flag of its symbol. -/
theorem Symbol.promote_eq (symbol : Symbol) (function : Node) :
    symbol.promote function = { symbol with
      kind := if function.isConstructorFunction symbol.name then .classType else symbol.kind
      metadata := if function.isConstructorFunction symbol.name then
        some { symbol.details with isConstructor := true } else symbol.metadata } := by
  cases symbol
  unfold promote
  split <;> rfl

theorem forall₂_filterMap {α β : Type} {related : α → β → Prop} {select : α → Option β}
    (items : List α) (selects : ∀ item value, select item = some value → related item value) :
    List.Forall₂ related (items.filter fun item => (select item).isSome)
      (items.filterMap select) := by
  induction items with
  | nil => exact .nil
  | cons item rest ih =>
    cases selected : select item with
    | none => simpa [selected] using ih
    | some value => simpa [selected] using ⟨selects item value selected, ih⟩

namespace Context

/-- The symbol of one link: its name and its owner come from its own left side, all else from the
statement and the function. Without an owner it is a function, or a class if the function is a
constructor. -/
structure Attached (context : Context) (aliases : Aliases) (statement : Cursor)
    (function left : Node) (symbol : Symbol) : Prop where
  bound : context.source.Binds aliases left ⟨symbol.name, symbol.receiver⟩
  kind : symbol.kind =
    if symbol.receiver.isSome then .method
    else if function.isConstructorFunction symbol.name then .classType else .function
  exported : symbol.exported = true
  location : symbol.location = context.source.location statement.node
  docComment : symbol.docComment = context.source.docComment statement
  signature : symbol.signature = context.source.functionSignature function symbol.name
  calls : symbol.calls =
    (function.child? .body).elim [] fun body => (context.scanCalls body).calls.toList
  isAsync : symbol.details.isAsync = (Modifiers.of function).isAsync
  isGenerator : symbol.details.isGenerator = (Modifiers.of function).isGenerator

/-- What an expression attaches to the file by assignment. -/
def attachedBy (context : Context) (aliases : Aliases) (statement : Cursor) (expression : Node) :
    Contribution :=
  (Idiom.methods? context.source aliases expression).elim {} (Idiom.contribution context statement)

variable {context : Context} {aliases : Aliases} {statement : Cursor}

theorem bodyOf_calls (function : Node) :
    (context.bodyOf function).calls =
      (function.child? .body).elim [] fun body => (context.scanCalls body).calls.toList := by
  unfold bodyOf
  cases function.child? .body <;> rfl

theorem bodyOf_imports (function : Node) :
    (context.bodyOf function).imports =
      (function.child? .body).elim [] fun body => (context.scanCalls body).imports.toList := by
  unfold bodyOf
  cases function.child? .body <;> rfl

theorem assignedSymbol_attached {function left : Node} {target : Target}
    (found : context.source.target? aliases left = some target) :
    context.Attached aliases statement function left
      (context.assignedSymbol statement function (context.bodyOf function).calls
        (context.source.docComment statement) target) := by
  obtain ⟨name, owner⟩ := target
  have bound := Source.target?_eq_some_iff.mp found
  unfold assignedSymbol
  cases owner with
  | some owner =>
    exact ⟨bound, rfl, rfl, rfl, rfl, rfl, bodyOf_calls function, rfl, rfl⟩
  | none =>
    simp only [Symbol.promote_eq]
    refine ⟨bound, rfl, rfl, rfl, rfl, rfl, bodyOf_calls function, ?_, ?_⟩
    · simp only [Symbol.details]
      split <;> rfl
    · simp only [Symbol.details]
      split <;> rfl

section Chain

variable {expression function : Node} {links : List Node}
  (assignment : expression.kind = .assignmentExpression)
  (chain : expression.Chain links function) (value : function.kind.isFunctionValue)

include assignment chain value

theorem attachedBy_eq :
    context.attachedBy aliases statement expression =
      if links.filterMap (context.source.target? aliases) = [] then {}
      else context.assignedMethods statement function
        (links.filterMap (context.source.target? aliases)) := by
  rw [attachedBy, Idiom.methods?_of_chain assignment chain value]
  split <;> rfl

theorem attachedBy_symbols :
    (context.attachedBy aliases statement expression).symbols =
      (links.filterMap (context.source.target? aliases)).map
        (context.assignedSymbol statement function (context.bodyOf function).calls
          (context.source.docComment statement)) := by
  rw [attachedBy_eq assignment chain value]
  split
  · rename_i none
    rw [none, List.map_nil]
  · rfl

theorem attachedBy_imports :
    (context.attachedBy aliases statement expression).imports =
      if links.filterMap (context.source.target? aliases) = [] then []
      else (context.bodyOf function).imports := by
  rw [attachedBy_eq assignment chain value]
  split <;> rfl

/-- Besides symbols and imports a chain adds nothing. -/
theorem attachedBy_plain :
    (context.attachedBy aliases statement expression).published = [] ∧
      (context.attachedBy aliases statement expression).edge = none := by
  rw [attachedBy_eq assignment chain value]
  split <;> exact ⟨rfl, rfl⟩

/-- The whole effect of a statement that consists of such a chain is what it attaches. -/
theorem contributionAt_of_chain (kind : statement.node.kind = .expressionStatement)
    (first : statement.node.firstNamed? = some expression) :
    context.contributionAt aliases statement = context.attachedBy aliases statement expression := by
  rw [contributionAt_statement kind, Idiom.ofStatement, first]
  simp only [Idiom.ofExpression_of_chain assignment chain value, attachedBy]
  cases Idiom.methods? context.source aliases expression <;> rfl

end Chain

/-- Chains of assignments fan out, however long they are and whatever the tables hold. A chain that
ends in a function attaches one symbol for each left side that means something, in order; the
signatures differ in the name only, and the body is scanned once for all of them, or not at all if
no left side means anything. -/
theorem chain_fans_out (context : Context) (aliases : Aliases) (statement : Cursor)
    (expression function : Node) (links : List Node)
    (kind : statement.node.kind = .expressionStatement)
    (first : statement.node.firstNamed? = some expression)
    (assignment : expression.kind = .assignmentExpression)
    (chain : expression.Chain links function) (value : function.kind.isFunctionValue = true) :
    let owned := links.filter fun left => (context.source.target? aliases left).isSome
    let attached := context.attachedBy aliases statement expression
    List.Forall₂ (context.Attached aliases statement function) owned attached.symbols ∧
    (∃ head tail, ∀ symbol ∈ attached.symbols, symbol.signature = head ++ symbol.name ++ tail) ∧
    attached.imports = (if owned = [] then [] else
      (function.child? .body).elim [] fun body => (context.scanCalls body).imports.toList) ∧
    (∀ dependency ∈ attached.imports, dependency.isDynamic = true) ∧
    ∀ table : Table,
      let grown := (context.visitOne aliases statement table).1
      grown.symbols.toList = table.symbols.toList ++ attached.symbols ∧
      grown.imports.toList = table.imports.toList ++ attached.imports ∧
      grown.published = table.published := by
  intro owned attached
  have symbols : attached.symbols = _ := attachedBy_symbols assignment chain value
  have imports : attached.imports = _ := attachedBy_imports assignment chain value
  obtain ⟨published, edgeless⟩ : attached.published = [] ∧ attached.edge = none :=
    attachedBy_plain assignment chain value
  have fanned : List.Forall₂ (context.Attached aliases statement function) owned
      attached.symbols := by
    rw [symbols, List.forall₂_map_right_iff]
    exact forall₂_filterMap links fun left target found => assignedSymbol_attached found
  have ownerless : owned = [] ↔ links.filterMap (context.source.target? aliases) = [] := by
    simp [owned, List.filterMap_eq_nil_iff]
  refine ⟨fanned, ?_, ?_, ?_, ?_⟩
  · obtain ⟨head, tail, signature⟩ := context.source.functionSignature_eq function
    refine ⟨head, tail, fun symbol member => ?_⟩
    rw [symbols] at member
    obtain ⟨target, present, rfl⟩ := List.mem_map.mp member
    obtain ⟨left, _, found⟩ := List.mem_filterMap.mp present
    rw [(assignedSymbol_attached found).signature, signature]
  · rw [imports, bodyOf_imports]
    simp only [ownerless]
  · intro dependency member
    rw [imports] at member
    split at member
    · cases member
    · exact bodyOf_dynamic member
  · intro table
    have effect : (context.visitOne aliases statement table).1 = table.absorb attached :=
      congrArg table.absorb (contributionAt_of_chain assignment chain value kind first)
    simp only [effect]
    refine ⟨?_, table.absorb_imports attached, ?_⟩
    · rw [table.absorb_symbols attached, edgeless, Option.elim_none]
    · rw [table.absorb_published attached, published, List.nil_append]

end Context

/-- A member expression `object.property`, by where its object begins and ends and where its
property ends. -/
def sampleMember (field : Option Field) (start middle stop : Nat) : Node :=
  ⟨.memberExpression, true, false, field, start, stop, [
    ⟨.identifier, true, false, some .object, start, middle, []⟩,
    ⟨.propertyIdentifier, true, false, some .property, middle + 1, stop, []⟩]⟩

/-- The function of the sample chain: it imports dynamically and assigns to a member of `this`. -/
def sampleMethod : Node :=
  ⟨.functionExpression, true, false, some .right, 33, 65, [
    ⟨.other "formal_parameters", true, false, some .parameters, 41, 43, []⟩,
    ⟨.statementBlock, true, false, some .body, 43, 65, [
      ⟨.expressionStatement, true, false, none, 44, 56, [
        ⟨.callExpression, true, false, none, 44, 55, [
          ⟨.importKeyword, true, false, some .callee, 44, 50, []⟩,
          ⟨.arguments, true, false, some .arguments, 50, 55, [
            ⟨.stringLiteral, true, false, none, 51, 54, []⟩]⟩]⟩]⟩,
      ⟨.expressionStatement, true, false, none, 56, 64, [
        ⟨.assignmentExpression, true, false, none, 56, 64, [
          ⟨.memberExpression, true, false, some .left, 56, 62, [
            ⟨.thisExpression, true, false, some .object, 56, 60, []⟩,
            ⟨.propertyIdentifier, true, false, some .property, 61, 62, []⟩]⟩,
          ⟨.other "number", true, false, some .right, 63, 64, []⟩]⟩]⟩]⟩]⟩

/-- The tree of `p.a=exports.B=x.c=(T.prototype.d=...)` around the function. -/
def sampleChain : Node :=
  ⟨.assignmentExpression, true, false, none, 0, 66, [
    sampleMember (some .left) 0 1 3,
    ⟨.assignmentExpression, true, false, some .right, 4, 66, [
      sampleMember (some .left) 4 11 13,
      ⟨.assignmentExpression, true, false, some .right, 14, 66, [
        sampleMember (some .left) 14 15 17,
        ⟨.parenthesizedExpression, true, false, some .right, 18, 66, [
          ⟨.assignmentExpression, true, false, none, 19, 65, [
            ⟨.memberExpression, true, false, some .left, 19, 32, [
              sampleMember (some .object) 19 20 30,
              ⟨.propertyIdentifier, true, false, some .property, 31, 32, []⟩]⟩,
            sampleMethod]⟩]⟩]⟩]⟩]⟩

def chainContext : Context :=
  ⟨Source.ofBytes "lib/a.js"
    "p.a=exports.B=x.c=(T.prototype.d=function()\x7bimport(\"y\");this.z=1\x7d)".toUTF8,
    CallLimits.standard, false⟩

def chainStatement : Cursor :=
  .root ⟨.expressionStatement, true, false, none, 0, 66, [sampleChain]⟩

/-- An alias, the export object and a prototype each take the function, an unknown variable does
not. The function is a constructor under the one name that has no owner, and what it loads is found
once. -/
theorem Context.chain_fans_out_sampleChain :
    let attached := chainContext.attachedBy ⟨"A", ["p"]⟩ chainStatement sampleChain
    attached.symbols.map (fun symbol => (symbol.name, symbol.receiver, symbol.kind)) =
      [("a", some "A", .method), ("B", none, .classType), ("d", some "T", .method)] ∧
    attached.imports.map (·.path) = ["y"] ∧
    ∃ links, links.length = 4 ∧ sampleChain.Chain links sampleMethod ∧
      List.Forall₂ (chainContext.Attached ⟨"A", ["p"]⟩ chainStatement sampleMethod)
        (links.filter fun left => (chainContext.source.target? ⟨"A", ["p"]⟩ left).isSome)
        attached.symbols := by
  have chain : sampleChain.Chain _ sampleMethod :=
    .linked rfl rfl rfl (.linked rfl rfl rfl (.linked rfl rfl rfl
      (.wrapped rfl rfl (.linked rfl rfl rfl (.done sampleMethod)))))
  refine ⟨by decide +kernel, by decide +kernel, _, rfl, chain, ?_⟩
  exact (chain_fans_out chainContext ⟨"A", ["p"]⟩ chainStatement sampleChain sampleMethod _ rfl rfl
    rfl chain rfl).1

end ScriptAtlas
