import ScriptAtlas.Proofs.LastPass

/-! When a symbol is exported. Its flag is set by the place of its declaration alone and raised in
the last pass, for the aliases and for each name that a statement of the file publishes, wherever
that statement stands. -/
namespace ScriptAtlas
open SyntaxTree

namespace Form

variable {source : Source} {aliases : Aliases} {cursor : Cursor}

theorem of_eq_exporting_iff :
    Form.of source aliases cursor = .exporting ↔ cursor.node.kind = .exportStatement := by
  constructor
  · intro form
    unfold Form.of at form
    simp only at form
    split_ifs at form
    assumption
  · intro kind
    simp [Form.of, kind, Kind.isFunctionDeclaration, Kind.isClass, Kind.isVariableDeclaration]

theorem of_eq_statement_iff {idiom : Idiom} :
    Form.of source aliases cursor = .statement idiom ↔
      cursor.node.kind = .expressionStatement ∧
        idiom = Idiom.ofStatement source aliases cursor.node := by
  constructor
  · intro form
    refine ⟨?_, Form.statement_idiom form⟩
    unfold Form.of at form
    simp only at form
    split_ifs at form
    assumption
  · rintro ⟨kind, rfl⟩
    simp [Form.of, kind, Kind.isFunctionDeclaration, Kind.isClass, Kind.isVariableDeclaration]

end Form

namespace Source

/-- The names that an export statement releases: without a path, those of its clause, or else the
variable that it exports. -/
inductive Releases (source : Source) (node : Node) : String → Prop where
  | specifier (clause specifier name : Node) (sourceless : source.modulePath? node = none)
      (listed : node.childOf? .exportClause = some clause)
      (member : specifier ∈ clause.namedChildren) (kind : specifier.kind = .exportSpecifier)
      (named : specifier.child? .name = some name) :
      Releases source node ((source.stringValue? name).getD (source.text name))
  | value (value : Node) (sourceless : source.modulePath? node = none)
      (clauseless : node.childOf? .exportClause = none) (held : node.child? .value = some value)
      (kind : value.kind = .identifier) :
      Releases source node (source.text value)

/-- The names that an assignment reveals: a variable assigned to the export object or to one of its
members, and the variables in an object assigned to the export object. -/
inductive Reveals (source : Source) (left right : Node) : String → Prop where
  | identifier (target : source.text left = "module.exports" ∨ source.isExportsMember left = true)
      (kind : right.kind = .identifier) :
      Reveals source left right (source.text right)
  | shorthand (member : Node) (target : source.text left = "module.exports")
      (literal : right.kind = .objectLiteral) (present : member ∈ right.namedChildren)
      (kind : member.kind = .shorthandPropertyIdentifier) :
      Reveals source left right (source.text member)
  | pair (member value : Node) (target : source.text left = "module.exports")
      (literal : right.kind = .objectLiteral) (present : member ∈ right.namedChildren)
      (kind : member.kind = .pair) (held : member.child? .value = some value)
      (named : value.kind = .identifier) :
      Reveals source left right (source.text value)

variable {source : Source} {node expression : Node} {name : String}

theorem mem_exportedNames_iff {pick : Node → Option Node} {clause : Node} :
    name ∈ source.exportedNames pick clause ↔
      ∃ specifier ∈ clause.namedChildren, specifier.kind = .exportSpecifier ∧
        ∃ picked, pick specifier = some picked ∧
          (source.stringValue? picked).getD (source.text picked) = name := by
  unfold exportedNames
  simp only [List.mem_filterMap, List.mem_filter, beq_iff_eq, Option.map_eq_some_iff, and_assoc]

theorem mem_exportStatement_published_iff :
    name ∈ (source.exportStatement node).published ↔ source.Releases node name := by
  unfold exportStatement
  constructor
  · intro member
    split at member
    · simp [Contribution.ofImport] at member
    · rename_i sourceless
      split at member
      · rename_i clause listed
        obtain ⟨specifier, present, kind, picked, named, rfl⟩ := mem_exportedNames_iff.mp member
        exact .specifier clause specifier picked sourceless listed present kind named
      · rename_i clauseless
        split at member
        · rename_i value held
          obtain ⟨found, kind⟩ := Option.filter_eq_some_iff.mp held
          obtain rfl := List.mem_singleton.mp member
          exact .value value sourceless clauseless found (by simpa using kind)
        · simp at member
  · intro releases
    cases releases with
    | specifier clause specifier picked sourceless listed present kind named =>
      simp only [sourceless, listed]
      exact mem_exportedNames_iff.mpr ⟨specifier, present, kind, picked, named, rfl⟩
    | value value sourceless clauseless held kind =>
      have kept : (node.child? .value).filter (·.kind = .identifier) = some value :=
        Option.filter_eq_some_iff.mpr ⟨held, by simpa using kind⟩
      simp only [sourceless, clauseless, kept, List.mem_singleton]

theorem mem_publishedNames_iff :
    name ∈ source.publishedNames expression ↔
      ∃ left right, expression.kind = .assignmentExpression ∧
        expression.child? .left = some left ∧ expression.child? .right = some right ∧
          source.Reveals left right name := by
  unfold publishedNames
  constructor
  · intro member
    split at member
    · rename_i assignment
      split at member
      · rename_i left right leftFound rightFound
        refine ⟨left, right, assignment, leftFound, rightFound, ?_⟩
        simp only at member
        split at member
        · rename_i kind
          split at member
          · rename_i target
            obtain rfl := List.mem_singleton.mp member
            exact .identifier (by simpa using target) kind
          · simp at member
        split at member
        · rename_i literal
          obtain ⟨part, present, found⟩ := List.mem_filterMap.mp member
          have target : source.text left = "module.exports" := by simpa using literal.2
          split at found
          · rename_i kind
            obtain rfl := Option.some.inj found
            exact .shorthand part target literal.1 present kind
          split at found
          · rename_i kind
            obtain ⟨value, held, rfl⟩ := Option.map_eq_some_iff.mp found
            obtain ⟨valued, named⟩ := Option.filter_eq_some_iff.mp held
            exact .pair part value target literal.1 present kind valued (by simpa using named)
          · cases found
        · simp at member
      · simp at member
    · simp at member
  · rintro ⟨left, right, assignment, leftFound, rightFound, reveals⟩
    rw [if_pos assignment, leftFound, rightFound]
    cases reveals with
    | identifier target kind =>
      simpa [kind] using target
    | shorthand part target literal present kind =>
      simp only [literal, target]
      refine List.mem_filterMap.mpr ⟨part, present, ?_⟩
      simp [kind]
    | pair part value target literal present kind held named =>
      simp only [literal, target]
      refine List.mem_filterMap.mpr ⟨part, present, ?_⟩
      simp [kind, held, named]

end Source

namespace Idiom

variable {source : Source} {aliases : Aliases} {statement : Node} {names : List String}

/-- A statement that nothing else is read from publishes the names that its assignment reveals. -/
theorem ofStatement_eq_plain (plain : ofStatement source aliases statement = .plain names) :
    names = (statement.firstNamed?.map source.publishedNames).getD [] := by
  unfold ofStatement at plain
  split at plain
  · rename_i absent
    obtain rfl := Idiom.plain.inj plain
    rw [absent]
    rfl
  · rename_i expression found
    rw [found]
    unfold ofExpression at plain
    split at plain
    · cases plain
    split at plain
    · rename_i idiom attached
      rw [plain] at attached
      cases methods?_declaring attached
    split at plain
    · cases plain
    · exact (Idiom.plain.inj plain).symm

theorem consumes_eq_false_iff {idiom : Idiom} :
    idiom.consumes = false ↔ ∃ names, idiom = .plain names := by
  cases idiom <;> simp [consumes]

end Idiom

namespace SyntaxTree.Cursor

/-- The sides of the assignment that an expression statement consists of, if no method, import or
inheritance is read from it. -/
structure Assigns (source : Source) (aliases : Aliases) (statement : Cursor) (left right : Node) :
    Prop where
  kind : statement.node.kind = .expressionStatement
  unconsumed : (Idiom.ofStatement source aliases statement.node).consumes = false
  sides : ∃ expression, statement.node.firstNamed? = some expression ∧
    expression.kind = .assignmentExpression ∧ expression.child? .left = some left ∧
      expression.child? .right = some right

/-- The ways in which a statement publishes a name. -/
inductive Publishes (source : Source) (aliases : Aliases) (statement : Cursor) (name : String) :
    Prop where
  | exporting (kind : statement.node.kind = .exportStatement)
      (releases : source.Releases statement.node name)
  | assigning (left right : Node) (assigns : statement.Assigns source aliases left right)
      (reveals : source.Reveals left right name)

/-- A node whose symbols are public from the start: a declaration wrapped directly in an export
statement, or a statement that attaches functions by assignment or as members of a prototype. -/
inductive DeclaresPublic (source : Source) (aliases : Aliases) (cursor : Cursor) : Prop where
  | wrapped (parent : cursor.parentKind? = some .exportStatement)
  | assigned (function : Node) (targets : List Target)
      (form : Form.of source aliases cursor = .statement (.assigned function targets))
  | literal (owner : String) (methods : List LiteralMethod)
      (form : Form.of source aliases cursor = .statement (.literal owner methods))

end SyntaxTree.Cursor

open SyntaxTree.Cursor

namespace Contribution

/-- Symbols that all carry the same export flag, and no published names. -/
structure Uniform (exported : Bool) (part : Contribution) : Prop where
  symbols : ∀ symbol ∈ part.symbols, symbol.exported = exported
  published : part.published = []

variable {exported : Bool}

theorem uniform_of_empty {part : Contribution} (symbols : part.symbols = [])
    (published : part.published = []) : part.Uniform exported :=
  ⟨by simp [symbols], published⟩

theorem uniform_ofDeclared {declared : Declared} (flag : declared.symbol.exported = exported) :
    (ofDeclared declared).Uniform exported :=
  ⟨by simpa [ofDeclared] using flag, rfl⟩

theorem uniform_elim {found : Option Declared}
    (flag : ∀ declared, found = some declared → declared.symbol.exported = exported) :
    (found.elim {} ofDeclared).Uniform exported := by
  cases found with
  | none => exact uniform_of_empty rfl rfl
  | some declared => exact uniform_ofDeclared (flag declared rfl)

theorem uniform_join {parts : List Contribution} (uniform : ∀ part ∈ parts, part.Uniform exported) :
    (join parts).Uniform exported where
  symbols := by
    intro symbol member
    obtain ⟨part, present, inside⟩ := List.mem_flatMap.mp member
    exact (uniform part present).symbols symbol inside
  published := by
    apply List.flatMap_eq_nil_iff.mpr
    intro part present
    exact (uniform part present).published

end Contribution

namespace Context

variable {context : Context} {aliases : Aliases} {cursor : Cursor}

theorem namedDeclarator_uniform (declaration : Declaration) (declarator : Cursor) (name : String)
    (value? : Option Node) :
    (context.namedDeclarator declaration declarator name value?).Uniform declaration.exported := by
  unfold namedDeclarator
  split
  · exact ⟨by simp [plainVariable, boundSymbol], rfl⟩
  · simp only
    split
    · exact ⟨by simp [boundSymbol], rfl⟩
    split
    · exact Contribution.uniform_ofDeclared (by simp [functionSymbol])
    split
    · split
      · exact Contribution.uniform_of_empty rfl rfl
      · exact Contribution.uniform_ofDeclared rfl
    · exact ⟨by simp [plainVariable, boundSymbol], rfl⟩

theorem patternDeclarator_uniform (declaration : Declaration) (declarator : Cursor)
    (pattern : Node) (value? : Option Node) :
    (context.patternDeclarator declaration declarator pattern value?).Uniform
      declaration.exported := by
  unfold patternDeclarator
  simp only
  split
  · exact Contribution.uniform_of_empty rfl rfl
  · exact ⟨by simp [plainVariable, boundSymbol], rfl⟩

theorem declarator_uniform (declaration : Declaration) (cursor : Cursor) :
    (context.declarator declaration cursor).Uniform declaration.exported := by
  unfold declarator
  split
  · exact Contribution.uniform_of_empty rfl rfl
  · simp only
    split
    · exact namedDeclarator_uniform _ _ _ _
    · exact patternDeclarator_uniform _ _ _ _
    · exact patternDeclarator_uniform _ _ _ _
    · exact Contribution.uniform_of_empty rfl rfl

theorem variableDeclaration_uniform (cursor : Cursor) :
    (context.variableDeclaration cursor).Uniform cursor.isExported := by
  apply Contribution.uniform_join
  intro part member
  obtain ⟨declarator, _, rfl⟩ := List.mem_map.mp member
  exact declarator_uniform ⟨_, cursor.isExported, _⟩ declarator

/-- Whatever is read from an expression statement is public. -/
theorem idiom_exported {idiom : Idiom} {symbol : Symbol}
    (member : symbol ∈ (idiom.contribution context cursor).symbols) : symbol.exported = true := by
  cases idiom with
  | required dependency => simp [Idiom.contribution, Contribution.ofImport] at member
  | assigned function targets =>
    obtain ⟨target, _, rfl⟩ := List.mem_map.mp member
    unfold assignedSymbol
    cases target.owner <;> simp
  | literal owner methods =>
    refine (Contribution.uniform_join ?_).symbols symbol member
    intro part present
    obtain ⟨method, _, rfl⟩ := List.mem_map.mp present
    exact Contribution.uniform_ofDeclared rfl
  | inherits edge => simp [Idiom.contribution] at member
  | plain names => simp [Idiom.contribution] at member

theorem idiom_published {idiom : Idiom} {name : String} :
    name ∈ (idiom.contribution context cursor).published ↔
      ∃ names, idiom = .plain names ∧ name ∈ names := by
  cases idiom with
  | required | inherits | assigned =>
    simp [Idiom.contribution, Contribution.ofImport, assignedMethods]
  | literal owner methods =>
    simp [Idiom.contribution, literalMethods, Contribution.join, Contribution.ofDeclared]
  | plain names => simp [Idiom.contribution]

/-- Nodes other than export and expression statements give their symbols the flag of their own
place and publish nothing. -/
theorem contributionAt_uniform (exporting : cursor.node.kind ≠ .exportStatement)
    (statement : cursor.node.kind ≠ .expressionStatement) :
    (context.contributionAt aliases cursor).Uniform cursor.isExported := by
  unfold contributionAt
  cases form : Form.of context.source aliases cursor with
  | function =>
    refine Contribution.uniform_elim ?_
    intro declared found
    obtain ⟨name, _, rfl⟩ := functionDeclaration?_eq_some found
    simp [functionSymbol]
  | classType =>
    refine Contribution.uniform_elim ?_
    intro declared found
    obtain ⟨name, _, rfl⟩ := class?_eq_some found
    rfl
  | binding => exact variableDeclaration_uniform cursor
  | importing =>
    rw [Form.contribution]
    cases context.source.importStatement? cursor.node with
    | none => exact Contribution.uniform_of_empty rfl rfl
    | some dependency => exact Contribution.uniform_of_empty rfl rfl
  | exporting => exact absurd (Form.of_eq_exporting_iff.mp form) exporting
  | statement idiom => exact absurd (Form.of_eq_statement_iff.mp form).1 statement
  | sealed | passing => exact Contribution.uniform_of_empty rfl rfl

theorem contributionAt_exporting (kind : cursor.node.kind = .exportStatement) :
    context.contributionAt aliases cursor = context.source.exportStatement cursor.node := by
  rw [contributionAt, Form.of_eq_exporting_iff.mpr kind, Form.contribution]

theorem contributionAt_statement (kind : cursor.node.kind = .expressionStatement) :
    context.contributionAt aliases cursor =
      (Idiom.ofStatement context.source aliases cursor.node).contribution context cursor := by
  rw [contributionAt, Form.of_eq_statement_iff.mpr ⟨kind, rfl⟩, Form.contribution]

/-- A symbol is exported from the start exactly if the node that declares it is a public place. -/
theorem contributionAt_exported_iff {symbol : Symbol}
    (member : symbol ∈ (context.contributionAt aliases cursor).symbols) :
    symbol.exported = true ↔ cursor.DeclaresPublic context.source aliases := by
  by_cases statement : cursor.node.kind = .expressionStatement
  · rw [contributionAt_statement statement] at member
    refine iff_of_true (idiom_exported member) ?_
    have form := Form.of_eq_statement_iff.mpr
      ⟨statement, (rfl : Idiom.ofStatement context.source aliases cursor.node = _)⟩
    cases idiom : Idiom.ofStatement context.source aliases cursor.node with
    | assigned function targets => exact .assigned function targets (idiom ▸ form)
    | literal owner methods => exact .literal owner methods (idiom ▸ form)
    | required | inherits | plain =>
      simp [idiom, Idiom.contribution, Contribution.ofImport] at member
  · have notExporting : cursor.node.kind ≠ .exportStatement := by
      intro kind
      rw [contributionAt_exporting kind, exportStatement_symbols] at member
      cases member
    rw [(contributionAt_uniform notExporting statement).symbols symbol member, isExported,
      beq_iff_eq]
    constructor
    · exact .wrapped
    · intro isPublic
      cases isPublic with
      | wrapped parent => exact parent
      | assigned _ _ form => exact absurd (Form.of_eq_statement_iff.mp form).1 statement
      | literal _ _ form => exact absurd (Form.of_eq_statement_iff.mp form).1 statement

theorem statement_published_iff {name : String}
    (kind : cursor.node.kind = .expressionStatement) :
    name ∈ (context.contributionAt aliases cursor).published ↔
      ∃ left right, cursor.Assigns context.source aliases left right ∧
        context.source.Reveals left right name := by
  rw [contributionAt_statement kind, idiom_published]
  constructor
  · rintro ⟨names, plain, listed⟩
    have unconsumed := Idiom.consumes_eq_false_iff.mpr ⟨names, plain⟩
    rw [Idiom.ofStatement_eq_plain plain] at listed
    cases found : cursor.node.firstNamed? with
    | none => simp [found] at listed
    | some expression =>
      rw [found] at listed
      obtain ⟨left, right, assignment, leftFound, rightFound, reveals⟩ :=
        Source.mem_publishedNames_iff.mp listed
      refine ⟨left, right, ⟨kind, unconsumed, ?_⟩, reveals⟩
      exact ⟨expression, found, assignment, leftFound, rightFound⟩
  · rintro ⟨left, right, assigns, reveals⟩
    obtain ⟨expression, found, assignment, leftFound, rightFound⟩ := assigns.sides
    obtain ⟨names, plain⟩ := Idiom.consumes_eq_false_iff.mp assigns.unconsumed
    refine ⟨names, plain, ?_⟩
    rw [Idiom.ofStatement_eq_plain plain, found]
    exact Source.mem_publishedNames_iff.mpr
      ⟨left, right, assignment, leftFound, rightFound, reveals⟩

/-- A node publishes a name exactly in the known ways. -/
theorem contributionAt_published_iff {name : String} :
    name ∈ (context.contributionAt aliases cursor).published ↔
      cursor.Publishes context.source aliases name := by
  constructor
  · intro member
    by_cases statement : cursor.node.kind = .expressionStatement
    · obtain ⟨left, right, assigns, reveals⟩ := (statement_published_iff statement).mp member
      exact .assigning left right assigns reveals
    by_cases exporting : cursor.node.kind = .exportStatement
    · rw [contributionAt_exporting exporting] at member
      exact .exporting exporting (Source.mem_exportStatement_published_iff.mp member)
    · rw [(contributionAt_uniform exporting statement).published] at member
      cases member
  · intro publishes
    cases publishes with
    | exporting kind releases =>
      rw [contributionAt_exporting kind]
      exact Source.mem_exportStatement_published_iff.mpr releases
    | assigning left right assigns reveals =>
      exact (statement_published_iff assigns.kind).mpr ⟨left, right, assigns, reveals⟩

end Context

namespace Table

theorem mem_foldl_absorb_published {parts : List Contribution} {table : Table} {name : String} :
    name ∈ (parts.foldl absorb table).published ↔
      name ∈ table.published ∨ ∃ part ∈ parts, name ∈ part.published := by
  induction parts generalizing table with
  | nil => simp
  | cons part rest ih =>
    rw [List.foldl_cons, ih, absorb_published, List.mem_append, List.exists_mem_cons_iff]
    tauto

end Table

/-- Symbols that are equal without their metadata differ in nothing else. -/
theorem Symbol.eq_of_bare {first second : Symbol}
    (same : { first with metadata := none } = { second with metadata := none }) :
    first = { second with metadata := first.metadata } := by
  cases first
  cases second
  cases same
  rfl

namespace Context

/-- The names published in the tables are those that some reached statement publishes. -/
theorem tables_published_iff (context : Context) (aliases : Aliases) (root : Node) (name : String) :
    name ∈ (context.tables aliases root).published ↔
      ∃ statement ∈ Cursor.reachedFrom context.source aliases [.root root],
        statement.Publishes context.source aliases name := by
  rw [tables_eq_foldl, Table.mem_foldl_absorb_published]
  simp only [contributions, List.mem_map, exists_exists_and_eq_and, contributionAt_published_iff]
  simp

/-- Each symbol that the walk adds, in order, with the node that declares it. -/
def creations (context : Context) (aliases : Aliases) (root : Node) : List (Cursor × Symbol) :=
  (Cursor.reachedFrom context.source aliases [.root root]).flatMap fun cursor =>
    (context.contributionAt aliases cursor).symbols.map (cursor, ·)

theorem mem_creations {aliases : Aliases} {root : Node} {origin : Cursor × Symbol}
    {context : Context} (member : origin ∈ context.creations aliases root) :
    origin.2 ∈ (context.contributionAt aliases origin.1).symbols := by
  obtain ⟨cursor, _, inside⟩ := List.mem_flatMap.mp member
  obtain ⟨symbol, added, rfl⟩ := List.mem_map.mp inside
  exact added

/-- A view of symbols that no edge changes shows the symbols of the tables as they were created. -/
theorem tables_view {α : Type} (view : Symbol → α)
    (unseen : ∀ symbol parent, view (symbol.setParent parent) = view symbol)
    (context : Context) (aliases : Aliases) (root : Node) :
    List.Forall₂ (fun (created : Cursor × Symbol) symbol => view symbol = view created.2)
      (context.creations aliases root) (context.tables aliases root).symbols.toList := by
  have same : (context.tables aliases root).symbols.toList.map view =
      (context.creations aliases root).map fun created => view created.2 := by
    rw [tables_eq_foldl, Table.foldl_absorb_map unseen]
    simp [contributions, creations, List.flatMap_map, List.map_flatMap, Function.comp_def]
  rw [eq_comm, ← List.forall₂_eq_eq_eq, List.forall₂_map_left_iff,
    List.forall₂_map_right_iff] at same
  exact same.imp fun _ _ equal => equal.symm

/-- The walk leaves every symbol as it was created, apart from its metadata. -/
theorem tables_creations (context : Context) (aliases : Aliases) (root : Node) :
    List.Forall₂ (fun (origin : Cursor × Symbol) symbol =>
        symbol = { origin.2 with metadata := symbol.metadata })
      (context.creations aliases root) (context.tables aliases root).symbols.toList := by
  have kept := tables_view (fun symbol => { symbol with metadata := none }) (fun _ _ => rfl)
    context aliases root
  exact kept.imp fun _ _ => Symbol.eq_of_bare

theorem visitOne_exported_prefix (context : Context) (aliases : Aliases) (cursor : Cursor)
    (table : Table) :
    table.symbols.toList.map (·.exported) <+:
      (context.visitOne aliases cursor table).1.symbols.toList.map (·.exported) := by
  have grown := Table.foldl_absorb_map (fun _ _ => rfl : ∀ (symbol : Symbol) (parent : String),
    (symbol.setParent parent).exported = symbol.exported)
      [context.contributionAt aliases cursor] table
  exact ⟨_, grown.symm⟩

/-- When a symbol is exported, whatever the order of the statements. Before private symbols are
dropped, a declared symbol is exported exactly if its declaration is a public place, if it is an
alias, or if some statement that the walk reaches publishes its name; the class made for the
aliases always is. And no step lowers a flag: visiting a node leaves those of the symbols before
it, and the last pass only raises them. -/
theorem extract_exported_iff (context : Context) (language : String) (root : Node) :
    let aliases := Aliases.resolve context.source root
    (∃ declared : List Symbol,
      (context.extract true language root).extraction.symbols =
        declared ++ (aliases.synthetic? context.source declared).toList ∧
      List.Forall₂ (fun origin symbol =>
          symbol = { origin.2 with exported := symbol.exported, metadata := symbol.metadata } ∧
          (symbol.exported = true ↔
            origin.1.DeclaresPublic context.source aliases ∨
            aliases.contains symbol.name = true ∨
            ∃ statement ∈ Cursor.reachedFrom context.source aliases [.root root],
              statement.Publishes context.source aliases symbol.name))
        (context.creations aliases root) declared ∧
      ∀ made ∈ aliases.synthetic? context.source declared, made.exported = true) ∧
    (∀ (cursor : Cursor) (table : Table), table.symbols.toList.map (·.exported) <+:
      (context.visitOne aliases cursor table).1.symbols.toList.map (·.exported)) ∧
    ∀ (symbol : Symbol) (published : List String),
      symbol.Raised (symbol.publish aliases published) := by
  intro aliases
  let table := context.tables aliases root
  refine ⟨⟨table.symbols.toList.map (·.publish aliases table.published), rfl, ?_, ?_⟩,
    context.visitOne_exported_prefix aliases, fun symbol => symbol.raised_publish aliases⟩
  · rw [List.forall₂_map_right_iff]
    have origins := (List.forall₂_and_left _ _).mpr
      ⟨fun origin => mem_creations, context.tables_creations aliases root⟩
    refine origins.imp ?_
    rintro ⟨cursor, created⟩ symbol ⟨added, same⟩
    obtain ⟨metadata, rfl⟩ : ∃ metadata, symbol = { created with metadata } := ⟨_, same⟩
    refine ⟨by rw [Symbol.publish_eq], ?_⟩
    rw [Symbol.publish_exported, Symbol.publish_name, Bool.or_eq_true, Bool.or_eq_true,
      contributionAt_exported_iff added, List.contains_iff_mem, tables_published_iff]
  · intro made found
    obtain ⟨_, _, rfl⟩ := Aliases.synthetic?_eq_some_iff.mp found
    rfl

/-- The tree of `export var a; var b, c; export { b };`. -/
def sampleExports : Node :=
  ⟨.program, true, false, none, 0, 37, [
    ⟨.exportStatement, true, false, none, 0, 13, [
      ⟨.other "export", false, false, none, 0, 6, []⟩,
      ⟨.variableDeclaration, true, false, some (.other "declaration"), 7, 13, [
        ⟨.varToken, false, false, none, 7, 10, []⟩,
        ⟨.variableDeclarator, true, false, none, 11, 12, [
          ⟨.identifier, true, false, some .name, 11, 12, []⟩]⟩,
        ⟨.other ";", false, false, none, 12, 13, []⟩]⟩]⟩,
    ⟨.variableDeclaration, true, false, none, 14, 23, [
      ⟨.varToken, false, false, none, 14, 17, []⟩,
      ⟨.variableDeclarator, true, false, none, 18, 19, [
        ⟨.identifier, true, false, some .name, 18, 19, []⟩]⟩,
      ⟨.other ",", false, false, none, 19, 20, []⟩,
      ⟨.variableDeclarator, true, false, none, 21, 22, [
        ⟨.identifier, true, false, some .name, 21, 22, []⟩]⟩,
      ⟨.other ";", false, false, none, 22, 23, []⟩]⟩,
    ⟨.exportStatement, true, false, none, 24, 37, [
      ⟨.other "export", false, false, none, 24, 30, []⟩,
      ⟨.exportClause, true, false, none, 31, 36, [
        ⟨.other "\x7b", false, false, none, 31, 32, []⟩,
        ⟨.exportSpecifier, true, false, none, 33, 34, [
          ⟨.identifier, true, false, some .name, 33, 34, []⟩]⟩,
        ⟨.other "\x7d", false, false, none, 35, 36, []⟩]⟩,
      ⟨.other ";", false, false, none, 36, 37, []⟩]⟩]⟩

def exportReading : Context :=
  ⟨Source.ofBytes "lib/a.js" "export var a; var b, c; export \x7b b \x7d;".toUTF8,
    CallLimits.standard, false⟩

/-- In `sampleExports` the declaration of `a` is wrapped in an export statement, `b` is released by
a later one, and nothing in the file publishes `c`. -/
theorem extract_exported_iff_sampleExports :
    let aliases := Aliases.resolve exportReading.source sampleExports
    let reached := Cursor.reachedFrom exportReading.source aliases [.root sampleExports]
    let symbols := (exportReading.extract true "javascript" sampleExports).extraction.symbols
    (exportReading.creations aliases sampleExports).map (fun origin =>
        (origin.2.name, origin.1.parentKind?)) =
      [("a", some .exportStatement), ("b", some .program), ("c", some .program)] ∧
    (∃ statement ∈ reached, statement.Publishes exportReading.source aliases "b") ∧
    (¬∃ statement ∈ reached, statement.Publishes exportReading.source aliases "c") ∧
    symbols.map (fun symbol => (symbol.name, symbol.exported)) =
      [("a", true), ("b", true), ("c", false)] := by
  intro aliases reached symbols
  have origins : (exportReading.creations aliases sampleExports).map (fun origin =>
      (origin.2.name, origin.1.parentKind?)) =
        [("a", some .exportStatement), ("b", some .program), ("c", some .program)] := by
    decide +kernel
  have published : ∃ statement ∈ reached, statement.Publishes exportReading.source aliases "b" :=
    (exportReading.tables_published_iff aliases sampleExports "b").mp (by decide +kernel)
  have names : symbols.map (·.name) = ["a", "b", "c"] := by decide +kernel
  have hidden : (symbols.map (·.exported))[2]? = some false := by decide +kernel
  have unaliased : aliases.names = [] := by decide +kernel
  obtain ⟨⟨declared, given, flags, _⟩, _⟩ :=
    exportReading.extract_exported_iff "javascript" sampleExports
  have alone : symbols = declared := by
    rw [show symbols = _ from given, Aliases.synthetic?_of_unaliased unaliased,
      Option.toList_none, List.append_nil]
  have parents := origins
  simp only [List.map_eq_cons_iff, List.map_eq_nil_iff, Prod.mk.injEq] at parents
  obtain ⟨wrapped, _, created, ⟨_, parent⟩, listed, _, rfl, _, plain, _, rfl, _, rfl⟩ := parents
  rw [created] at flags
  simp only [List.forall₂_cons_left_iff, List.forall₂_nil_left_iff] at flags
  obtain ⟨a, _, ⟨_, flagA⟩, ⟨b, _, ⟨_, flagB⟩, ⟨c, _, ⟨_, flagC⟩, rfl, rfl⟩, rfl⟩, same⟩ := flags
  rw [alone, same] at names hidden ⊢
  simp only [List.map_cons, List.map_nil, List.cons.injEq, and_true] at names
  obtain ⟨nameA, nameB, nameC⟩ := names
  have exportedA : a.exported = true := flagA.mpr (.inl (.wrapped parent))
  have exportedB : b.exported = true := flagB.mpr (.inr (.inr (nameB ▸ published)))
  have exportedC : c.exported = false := by simpa using hidden
  refine ⟨origins, published, ?_, by simp [nameA, nameB, nameC, exportedA, exportedB, exportedC]⟩
  intro somewhere
  have exported := flagC.mpr (.inr (.inr (nameC ▸ somewhere)))
  simp [exportedC] at exported

end Context
end ScriptAtlas
