import ScriptAtlas.Proofs.FanOut
import ScriptAtlas.Proofs.Lineage

/-! What an expression statement does to the tables of its file. It has one effect: one import is
added, methods are attached, one symbol gets a parent, or names are published. The same comes out if
the readings of the statement are tried one after the other on the tables themselves, because a
reading that does not apply leaves nothing behind. -/
namespace ScriptAtlas
open SyntaxTree

inductive Effect where
  | imports
  | attaches
  | inherits
  | publishes
deriving DecidableEq

namespace Effect

/-- What an effect adds to the tables; all that is not mentioned stays. The statement is consumed
unless it only publishes. -/
def Describes (table grown : Table) (consumed : Bool) : Effect → Prop
  | .imports => consumed = true ∧ ∃ dependency : Import,
      dependency.isCommonJs = true ∧ dependency.isDynamic = false ∧
      grown = { table with imports := table.imports.push dependency }
  | .attaches => consumed = true ∧ ∃ (attached : List Symbol) (loaded : List Import)
      (noted : List Notice), attached ≠ [] ∧ (∀ symbol ∈ attached, symbol.exported = true) ∧
      (∀ dependency ∈ loaded, dependency.isDynamic = true) ∧
      grown = { table with
        symbols := table.symbols ++ attached
        imports := table.imports ++ loaded
        notices := table.notices ++ noted }
  | .inherits => consumed = true ∧
      ((∃ notice, grown = { table with notices := table.notices.push notice }) ∨
      ∃ front symbol back parent, table.symbols = (front ++ symbol :: back).toArray ∧
        grown = { table with symbols := (front ++ { symbol with
          metadata := some { symbol.metadata.getD {} with parent := some parent } } ::
            back).toArray })
  | .publishes => consumed = false ∧
      ∃ names, grown = { table with published := names ++ table.published }

/-- The effect that shows in the sizes of the tables. -/
def seen (table grown : Table) (consumed : Bool) : Effect :=
  if consumed then
    if table.symbols.size < grown.symbols.size then .attaches
    else if table.imports.size < grown.imports.size then .imports
    else .inherits
  else .publishes

variable {effect : Effect} {table grown : Table} {consumed : Bool}

theorem Describes.eq_seen (describes : effect.Describes table grown consumed) :
    effect = seen table grown consumed := by
  cases effect with
  | imports =>
    obtain ⟨rfl, dependency, _, _, rfl⟩ := describes
    simp [seen]
  | attaches =>
    obtain ⟨rfl, attached, loaded, noted, nonempty, _, _, rfl⟩ := describes
    have longer : table.symbols.size < (table.symbols ++ attached).size := by
      have more : 0 < attached.length := List.length_pos_iff.mpr nonempty
      rw [← Array.length_toList, ← Array.length_toList, Array.toList_appendList,
        List.length_append]
      omega
    simp [seen, longer]
  | inherits =>
    obtain ⟨rfl, ⟨notice, rfl⟩ | ⟨front, symbol, back, parent, parts, rfl⟩⟩ := describes
    · simp [seen]
    · simp [seen, parts]
  | publishes =>
    obtain ⟨rfl, _⟩ := describes
    rfl

end Effect

/-! ### The effect of each reading -/

/-- The effect of a reading. -/
def Idiom.effect : Idiom → Effect
  | .required _ => .imports
  | .assigned _ _ | .literal _ _ => .attaches
  | .inherits _ => .inherits
  | .plain _ => .publishes

theorem Table.absorb_of_edge_eq_none (table : Table) {part : Contribution}
    (edgeless : part.edge = none) :
    table.absorb part =
      { symbols := table.symbols ++ part.symbols
        imports := table.imports ++ part.imports
        published := part.published ++ table.published
        notices := table.notices ++ part.notices } := by
  rw [Table.absorb, edgeless]
  rfl

theorem Source.requiredExport?_flags {source : Source} {expression : Node} {dependency : Import}
    (found : source.requiredExport? expression = some dependency) :
    dependency.isCommonJs = true ∧ dependency.isDynamic = false := by
  obtain ⟨_, found⟩ := guard_bind_eq_some.mp found
  obtain ⟨left, _, found⟩ := Option.bind_eq_some_iff.mp found
  obtain ⟨right, _, found⟩ := Option.bind_eq_some_iff.mp found
  obtain ⟨_, found⟩ := guard_bind_eq_some.mp found
  obtain ⟨path, _, found⟩ := Option.bind_eq_some_iff.mp found
  obtain rfl := Option.some.inj found
  exact ⟨rfl, rfl⟩

/-- An edge gives one symbol a parent, or it is noted that there is none. -/
theorem Effect.describes_inherit (table : Table) (edge : Edge) :
    Effect.inherits.Describes table (table.inherit edge) true := by
  obtain ⟨⟨symbols⟩, imports, published, notices⟩ := table
  refine ⟨rfl, ?_⟩
  rw [Table.inherit, List.findIdx?_toArray]
  cases found : symbols.findIdx? (·.name == edge.child) with
  | none => exact .inl ⟨.orphan edge, rfl⟩
  | some index =>
    have bound : index < symbols.length := (List.findIdx?_eq_some_iff_findIdx_eq.mp found).1
    refine .inr ⟨symbols.take index, symbols[index], symbols.drop (index + 1), edge.parent, ?_, ?_⟩
    · rw [List.getElem_cons_drop, List.take_append_drop]
    · simp only [List.modify_toArray, List.modify_eq_take_cons_drop bound]
      rfl

/-- The readings that attach methods attach at least one. -/
theorem Idiom.methods?_cases {source : Source} {aliases : Aliases} {expression : Node}
    {idiom : Idiom} (found : methods? source aliases expression = some idiom) :
    (∃ function targets, idiom = .assigned function targets ∧ targets ≠ []) ∨
      ∃ owner methods, idiom = .literal owner methods ∧ methods ≠ [] := by
  unfold methods? at found
  split at found
  · dsimp only at found
    split at found
    · split at found
      · obtain ⟨owner, _, found⟩ := Option.bind_eq_some_iff.mp found
        obtain ⟨nonempty, found⟩ := guard_bind_eq_some.mp found
        exact .inr ⟨owner, _, (Option.some.inj found).symm, by simpa using nonempty⟩
      · cases found
    · split at found
      · obtain ⟨nonempty, found⟩ := guard_bind_eq_some.mp found
        exact .inl ⟨_, _, (Option.some.inj found).symm, by simpa using nonempty⟩
      · cases found
  · cases found

/-- What a reading that attaches methods contributes: at least one symbol, no names and no edge. -/
structure Contribution.Attaches (part : Contribution) : Prop where
  nonempty : part.symbols ≠ []
  exported : ∀ symbol ∈ part.symbols, symbol.exported = true
  dynamic : ∀ dependency ∈ part.imports, dependency.isDynamic = true
  silent : part.published = []
  edgeless : part.edge = none

namespace Context

theorem methods?_attaches {context : Context} {aliases : Aliases} {expression : Node}
    {idiom : Idiom} (found : Idiom.methods? context.source aliases expression = some idiom)
    (statement : Cursor) :
    (idiom.contribution context statement).Attaches := by
  rcases Idiom.methods?_cases found with ⟨function, targets, rfl, nonempty⟩ |
    ⟨owner, methods, rfl, nonempty⟩
  · exact
      { nonempty := by simpa [Idiom.contribution, assignedMethods] using nonempty
        exported := fun symbol member => idiom_exported member
        dynamic := fun dependency member => bodyOf_dynamic member
        silent := rfl
        edgeless := rfl }
  · refine
      { nonempty := ?_
        exported := fun symbol member => idiom_exported member
        dynamic := ?_
        silent := ?_
        edgeless := rfl }
    · simpa [Idiom.contribution, literalMethods, Contribution.join, Contribution.ofDeclared]
        using List.exists_mem_of_ne_nil methods nonempty
    · intro dependency member
      obtain ⟨part, present, inside⟩ := List.mem_flatMap.mp member
      obtain ⟨method, _, rfl⟩ := List.mem_map.mp present
      exact bodyOf_dynamic inside
    · simp [Idiom.contribution, literalMethods, Contribution.join, Contribution.ofDeclared]

theorem attaches_describes {part : Contribution} (attaches : part.Attaches) (table : Table) :
    Effect.attaches.Describes table (table.absorb part) true := by
  refine ⟨rfl, part.symbols, part.imports, part.notices, attaches.nonempty, attaches.exported,
    attaches.dynamic, ?_⟩
  rw [table.absorb_of_edge_eq_none attaches.edgeless, attaches.silent, List.nil_append]

variable (context : Context) (aliases : Aliases) (statement : Cursor)

theorem ofExpression_describes (expression : Node) (table : Table) :
    let idiom := Idiom.ofExpression context.source aliases expression
    idiom.effect.Describes table (table.absorb (idiom.contribution context statement))
      idiom.consumes := by
  unfold Idiom.ofExpression
  split
  · rename_i dependency required
    obtain ⟨common, static⟩ := Source.requiredExport?_flags required
    exact ⟨rfl, dependency, common, static, rfl⟩
  split
  · rename_i idiom attached
    have described := attaches_describes (methods?_attaches attached statement) table
    rcases Idiom.methods?_cases attached with ⟨_, _, rfl, _⟩ | ⟨_, _, rfl, _⟩
    · exact described
    · exact described
  split
  · rename_i edge _
    exact Effect.describes_inherit table edge
  · exact ⟨rfl, _, rfl⟩

/-- The reading of a statement has its effect on the tables. -/
theorem ofStatement_describes (table : Table) :
    let idiom := Idiom.ofStatement context.source aliases statement.node
    idiom.effect.Describes table (table.absorb (idiom.contribution context statement))
      idiom.consumes := by
  unfold Idiom.ofStatement
  split
  · exact ⟨rfl, [], rfl⟩
  · exact ofExpression_describes context aliases statement _ table

end Context

/-! ### The readings in turn -/

/-- The tables after a body was read: what it imports and what is to be noted about it. -/
def Table.load (table : Table) (imports : List Import) (notices : List Notice) : Table :=
  { table with imports := table.imports ++ imports, notices := table.notices ++ notices }

@[simp] theorem Table.load_nil (table : Table) : table.load [] [] = table := by
  simp [load]

theorem Table.load_load (table : Table) (imports imports' : List Import)
    (notices notices' : List Notice) :
    (table.load imports notices).load imports' notices' =
      table.load (imports ++ imports') (notices ++ notices') := by
  have joined {α : Type} (items : Array α) (front back : List α) :
      items ++ front ++ back = items ++ (front ++ back) := by
    apply Array.toList_inj.mp
    simp
  simp only [load, joined]

/-- A reading that is tried on the tables: the tables after it, and whether it applied. -/
abbrev Attempt := Table → Table × Bool

namespace Attempt

/-- Try readings one after the other on the same tables, up to the first that applies. -/
def inTurn : List Attempt → Attempt
  | [], table => (table, false)
  | attempt :: rest, table =>
    match attempt table with
    | (tried, true) => (tried, true)
    | (tried, false) => inTurn rest tried

/-- A reading that does not apply leaves the tables as they were. -/
def Traceless (attempt : Attempt) : Prop :=
  ∀ table, (attempt table).2 = false → (attempt table).1 = table

end Attempt

namespace Context

variable (context : Context) (aliases : Aliases) (statement : Cursor) (expression : Node)

def tryRequire : Attempt := fun table =>
  match context.source.requiredExport? expression with
  | some dependency => ({ table with imports := table.imports.push dependency }, true)
  | none => (table, false)

/-- Collect a member of a prototype object. Its body is read into the tables at once, while its
symbol waits for the other members. -/
def collectMember (owner : String) : Table × List Symbol → Cursor → Table × List Symbol
  | (table, found), member =>
    match context.source.literalMethod? member with
    | none => (table, found)
    | some method =>
      let { symbol, imports, notices } := context.literalSymbol owner method
      (table.load imports notices, found ++ [symbol])

/-- The methods that an assignment attaches, with the tables after their bodies were read. -/
def collectMethods (table : Table) : Table × List Symbol :=
  if expression.kind = .assignmentExpression then
    let (links, value) := expression.chainLinks
    if value.kind = .objectLiteral then
      match links with
      | [left] =>
        match context.source.prototypeOwner? left with
        | some owner =>
          (Cursor.root value).namedChildren.foldl (context.collectMember owner) (table, [])
        | none => (table, [])
      | _ => (table, [])
    else if value.kind.isFunctionValue then
      let targets := links.filterMap (context.source.target? aliases)
      if targets.isEmpty then (table, [])
      else
        let { calls, imports, notices } := context.bodyOf value
        let docComment := context.source.docComment statement
        (table.load imports notices,
          targets.map (context.assignedSymbol statement value calls docComment))
    else (table, [])
  else (table, [])

def tryMethods : Attempt := fun table =>
  let (read, found) := context.collectMethods aliases statement expression table
  if found.isEmpty then (read, false)
  else ({ read with symbols := read.symbols ++ found }, true)

def tryEdge : Attempt := fun table =>
  match context.source.edge? expression with
  | some edge => (table.inherit edge, true)
  | none => (table, false)

/-- The readings that consume a statement, in their order. -/
def attempts : List Attempt :=
  [context.tryRequire expression, context.tryMethods aliases statement expression,
    context.tryEdge expression]

/-- Read a statement on the tables themselves; if no reading applies, its names are published. -/
def readStatement : Attempt := fun table =>
  match statement.node.firstNamed? with
  | none => (table, false)
  | some expression =>
    match Attempt.inTurn (context.attempts aliases statement expression) table with
    | (tried, true) => (tried, true)
    | (tried, false) =>
      let names := context.source.publishedNames expression
      ({ tried with published := names ++ tried.published }, false)

/-- Members are collected in order, and nothing but their imports and notices reaches the tables. -/
theorem foldl_collectMember (owner : String) (members : List Cursor) (table : Table)
    (found : List Symbol) :
    members.foldl (context.collectMember owner) (table, found) =
      let part := context.literalMethods owner (members.filterMap context.source.literalMethod?)
      (table.load part.imports part.notices, found ++ part.symbols) := by
  induction members generalizing table found with
  | nil => simp [literalMethods, Contribution.join]
  | cons member rest ih =>
    rw [List.foldl_cons, collectMember]
    cases read : context.source.literalMethod? member with
    | none => simp [ih, read]
    | some method =>
      simp [ih, read, literalMethods, Contribution.join, Contribution.ofDeclared, Table.load_load]

/-- Whether or not an assignment attaches methods, only the bodies of those it attaches are read. -/
theorem collectMethods_eq (table : Table) :
    context.collectMethods aliases statement expression table =
      match Idiom.methods? context.source aliases expression with
      | none => (table, [])
      | some idiom =>
        let part := idiom.contribution context statement
        (table.load part.imports part.notices, part.symbols) := by
  unfold collectMethods Idiom.methods?
  obtain ⟨links, value⟩ := expression.chainLinks
  split
  · dsimp only
    split
    · rcases links with _ | ⟨left, _ | ⟨second, others⟩⟩
      · rfl
      · dsimp only
        cases context.source.prototypeOwner? left with
        | none => rfl
        | some owner =>
          simp only [foldl_collectMember, List.nil_append]
          -- Without a method no body was read, and the tables are still the old ones.
          cases (Cursor.root value).namedChildren.filterMap context.source.literalMethod? with
          | nil => simp [literalMethods, Contribution.join]
          | cons method methods => rfl
      · rfl
    · split
      · cases links.filterMap (context.source.target? aliases) with
        | nil => rfl
        | cons target targets => rfl
      · rfl
  · rfl

theorem tryMethods_eq (table : Table) :
    context.tryMethods aliases statement expression table =
      match Idiom.methods? context.source aliases expression with
      | none => (table, false)
      | some idiom => (table.absorb (idiom.contribution context statement), true) := by
  rw [tryMethods, collectMethods_eq]
  cases found : Idiom.methods? context.source aliases expression with
  | none => rfl
  | some idiom =>
    have attaches := methods?_attaches found statement
    simp [attaches.nonempty, table.absorb_of_edge_eq_none attaches.edgeless, attaches.silent,
      Table.load]

/-- No reading that fails leaves a trace. -/
theorem attempts_traceless :
    ∀ attempt ∈ context.attempts aliases statement expression, attempt.Traceless := by
  intro attempt member table declined
  simp only [attempts, List.mem_cons, List.not_mem_nil, or_false] at member
  rcases member with rfl | rfl | rfl
  · unfold tryRequire at declined ⊢
    split at declined
    · cases declined
    · rfl
  · rw [tryMethods_eq] at declined ⊢
    split at declined
    · rfl
    · cases declined
  · unfold tryEdge at declined ⊢
    split at declined
    · cases declined
    · rfl

/-- Tried in turn on the tables, the readings come out as the one reading of the statement. -/
theorem readStatement_eq (table : Table) :
    context.readStatement aliases statement table =
      let idiom := Idiom.ofStatement context.source aliases statement.node
      (table.absorb (idiom.contribution context statement), idiom.consumes) := by
  unfold readStatement Idiom.ofStatement
  cases statement.node.firstNamed? with
  | none => rfl
  | some expression =>
    simp only [attempts, Attempt.inTurn, Idiom.ofExpression, tryRequire]
    cases context.source.requiredExport? expression with
    | some dependency => rfl
    | none =>
      simp only [tryMethods_eq]
      cases found : Idiom.methods? context.source aliases expression with
      | some idiom =>
        rcases Idiom.methods?_cases found with ⟨_, _, rfl, _⟩ | ⟨_, _, rfl, _⟩ <;> rfl
      | none =>
        simp only [tryEdge]
        cases context.source.edge? expression <;> rfl

theorem visitOne_statement {context : Context} {aliases : Aliases} {statement : Cursor}
    (kind : statement.node.kind = .expressionStatement) (table : Table) :
    context.visitOne aliases statement table =
      let idiom := Idiom.ofStatement context.source aliases statement.node
      (table.absorb (idiom.contribution context statement), !idiom.consumes) := by
  rw [visitOne, Form.of_eq_statement_iff.mpr ⟨kind, rfl⟩]
  rfl

/-- An expression statement has exactly one effect on the tables, that of its reading. The readings
may as well be tried in turn on the tables: none of those that do not apply leaves a trace. -/
theorem statement_has_one_effect (context : Context) (aliases : Aliases) (statement : Cursor)
    (kind : statement.node.kind = .expressionStatement) (table : Table) :
    let (grown, enters) := context.visitOne aliases statement table
    (∃! effect : Effect, effect.Describes table grown (!enters)) ∧
    (Idiom.ofStatement context.source aliases statement.node).effect.Describes table grown
      (!enters) ∧
    context.readStatement aliases statement table = (grown, !enters) ∧
    ∀ expression, ∀ attempt ∈ context.attempts aliases statement expression, attempt.Traceless := by
  rw [visitOne_statement kind]
  simp only [Bool.not_not]
  have described := ofStatement_describes context aliases statement table
  refine ⟨⟨_, described, ?_⟩, described, readStatement_eq context aliases statement table,
    attempts_traceless context aliases statement⟩
  intro other describes
  exact describes.eq_seen.trans described.eq_seen.symm

/-- The sample chain attaches its three methods, with the import of their common body, and leaves a
published name alone. -/
theorem statement_has_one_effect_sampleChain :
    let table : Table := { published := ["T"] }
    let (grown, enters) := chainContext.visitOne ⟨"A", ["p"]⟩ chainStatement table
    chainStatement.node.kind = .expressionStatement ∧
    grown.symbols.toList.map (·.name) = ["a", "B", "d"] ∧ grown.imports.size = 1 ∧
    grown.published = ["T"] ∧ Effect.attaches.Describes table grown (!enters) := by
  have effect : (Idiom.ofStatement chainContext.source ⟨"A", ["p"]⟩ chainStatement.node).effect =
      .attaches := by
    decide +kernel
  have described := (statement_has_one_effect chainContext ⟨"A", ["p"]⟩ chainStatement rfl
    { published := ["T"] }).2.1
  rw [effect] at described
  exact ⟨rfl, by decide +kernel, by decide +kernel, by decide +kernel, described⟩

end Context
end ScriptAtlas
