import ScriptAtlas.Proofs.Exports

/-! Which type a symbol inherits from. The walk is seen as a history in which symbols are added and
edges are stated; the symbols of the tables are this history replayed. An edge goes to the first
symbol of its child's name, so that of the edges after a symbol the last one counts, if no symbol
before it has the same name. -/
namespace ScriptAtlas
open SyntaxTree

@[simp] theorem Symbol.setParent_name (symbol : Symbol) (parent : String) :
    (symbol.setParent parent).name = symbol.name := rfl

theorem Symbol.setParent_setParent (symbol : Symbol) (first second : String) :
    (symbol.setParent first).setParent second = symbol.setParent second := rfl

theorem notMem_names {name : String} {symbols : List Symbol}
    (others : ∀ other ∈ symbols, other.name ≠ name) : name ∉ symbols.map (·.name) := by
  intro present
  obtain ⟨other, member, named⟩ := List.mem_map.mp present
  exact others other member named

namespace Edge

variable {edge : Edge}

theorem applyTo_cons (symbol : Symbol) (rest : List Symbol) :
    edge.applyTo (symbol :: rest) =
      if symbol.name = edge.child then symbol.setParent edge.parent :: rest
      else symbol :: edge.applyTo rest := by
  unfold applyTo
  rw [List.findIdx_cons]
  by_cases named : symbol.name = edge.child
  · simp [named]
  · simp [named, beq_false_of_ne named]

theorem applyTo_names (symbols : List Symbol) :
    (edge.applyTo symbols).map (·.name) = symbols.map (·.name) :=
  map_modify_of_eq (fun symbol => symbol.setParent_name edge.parent) symbols _

theorem length_applyTo (symbols : List Symbol) : (edge.applyTo symbols).length = symbols.length :=
  List.length_modify _ _ _

/-- An edge passes over symbols of other names. -/
theorem applyTo_append_of_notMem {front : List Symbol} (absent : edge.child ∉ front.map (·.name))
    (back : List Symbol) : edge.applyTo (front ++ back) = front ++ edge.applyTo back := by
  induction front with
  | nil => rfl
  | cons symbol rest ih =>
    rw [List.map_cons, List.mem_cons, not_or] at absent
    rw [List.cons_append, applyTo_cons, if_neg (Ne.symm absent.1), ih absent.2, List.cons_append]

/-- An edge stops at the first symbol of its child's name. -/
theorem applyTo_append_of_mem {front : List Symbol} (present : edge.child ∈ front.map (·.name))
    (back : List Symbol) : edge.applyTo (front ++ back) = edge.applyTo front ++ back := by
  induction front with
  | nil => simp at present
  | cons symbol rest ih =>
    rw [List.cons_append, applyTo_cons, applyTo_cons]
    split
    · rfl
    · rename_i other
      have later : edge.child ∈ rest.map (·.name) := by
        rcases List.mem_cons.mp present with same | later
        · exact absurd same.symm other
        · exact later
      rw [ih later, List.cons_append]

/-- The tables after an edge: the first symbol of the child's name has got a parent, in new metadata
if it had none, and nothing else has changed. -/
structure Settles (edge : Edge) (table grown : Table) : Prop where
  imports : grown.imports = table.imports
  published : grown.published = table.published
  unregistered : (∀ symbol ∈ table.symbols.toList, symbol.name ≠ edge.child) →
    grown.symbols = table.symbols
  registered : ∀ front symbol back, table.symbols.toList = front ++ symbol :: back →
    (∀ other ∈ front, other.name ≠ edge.child) → symbol.name = edge.child →
      grown.symbols.toList =
        front ++ { symbol with
          metadata := some { symbol.metadata.getD {} with parent := some edge.parent } } :: back

theorem settles_absorb (edge : Edge) (table : Table) :
    edge.Settles table (table.absorb { edge := some edge }) := by
  have symbols : (table.absorb { edge := some edge }).symbols.toList =
      edge.applyTo table.symbols.toList := by
    simp [Table.absorb_symbols]
  refine ⟨?_, Table.absorb_published _ _, ?_, ?_⟩
  · apply Array.toList_inj.mp
    simp [Table.absorb_imports]
  · intro others
    apply Array.toList_inj.mp
    have passed := applyTo_append_of_notMem (notMem_names others) []
    simpa [symbols, applyTo] using passed
  · intro front symbol back split others named
    rw [symbols, split, applyTo_append_of_notMem (notMem_names others), applyTo_cons,
      if_pos named]
    rfl

end Edge

/-- What happens to the symbols of a file during the walk. -/
inductive Event where
  | added (symbol : Symbol)
  | stated (edge : Edge)

namespace Event

def symbol? : Event → Option Symbol
  | .added symbol => some symbol
  | .stated _ => none

def edge? : Event → Option Edge
  | .added _ => none
  | .stated edge => some edge

/-- The symbols after an event. -/
def record (symbols : List Symbol) : Event → List Symbol
  | .added symbol => symbols ++ [symbol]
  | .stated edge => edge.applyTo symbols

/-- The symbols that a history has added, as they were created. -/
def additions (history : List Event) : List Symbol := history.filterMap symbol?

theorem additions_added (symbol : Symbol) (history : List Event) :
    additions (.added symbol :: history) = symbol :: additions history := rfl

theorem additions_stated (edge : Edge) (history : List Event) :
    additions (.stated edge :: history) = additions history := rfl

/-- The last edge of a history that names a child. -/
def lastEdge? (child : String) (history : List Event) : Option Edge :=
  ((history.filterMap edge?).filter (·.child = child)).getLast?

/-- What a history makes of a symbol, if no symbol before it has its name. -/
def follow (history : List Event) (symbol : Symbol) : Symbol :=
  (lastEdge? symbol.name history).elim symbol fun edge => symbol.setParent edge.parent

theorem follow_added (new : Symbol) (history : List Event) (symbol : Symbol) :
    follow (.added new :: history) symbol = follow history symbol := rfl

theorem follow_stated_of_ne {edge : Edge} {symbol : Symbol} (other : symbol.name ≠ edge.child)
    (history : List Event) : follow (.stated edge :: history) symbol = follow history symbol := by
  simp [follow, lastEdge?, edge?, Ne.symm other]

theorem follow_stated_of_eq {edge : Edge} {symbol : Symbol} (named : symbol.name = edge.child)
    (history : List Event) :
    follow (.stated edge :: history) symbol = follow history (symbol.setParent edge.parent) := by
  have last : lastEdge? symbol.name (.stated edge :: history) =
      some ((lastEdge? symbol.name history).getD edge) := by
    simp [lastEdge?, edge?, named, List.getLast?_cons]
  unfold follow
  rw [last, Symbol.setParent_name]
  cases lastEdge? symbol.name history with
  | none => rfl
  | some later => exact (symbol.setParent_setParent edge.parent later.parent).symm

theorem foldl_record_added (new symbols : List Symbol) :
    (new.map added).foldl record symbols = symbols ++ new := by
  induction new generalizing symbols with
  | nil => simp
  | cons symbol rest ih => simp [record, ih]

theorem length_foldl_record (history : List Event) (symbols : List Symbol) :
    (history.foldl record symbols).length = symbols.length + (additions history).length := by
  induction history generalizing symbols with
  | nil => rfl
  | cons event rest ih =>
    rw [List.foldl_cons, ih]
    cases event with
    | added symbol =>
      rw [record, additions_added, List.length_append, List.length_singleton, List.length_cons]
      omega
    | stated edge => rw [record, additions_stated, edge.length_applyTo]

/-- A symbol during a history: it keeps its place, behind the same names, and follows the edges if
its own name is not among these. -/
theorem foldl_record_split (history : List Event) (front : List Symbol) (symbol : Symbol)
    (back : List Symbol) :
    ∃ front' back', front'.map (·.name) = front.map (·.name) ∧
      history.foldl record (front ++ symbol :: back) =
        front' ++ (if symbol.name ∈ front.map (·.name) then symbol else follow history symbol) ::
          back' := by
  induction history generalizing front symbol back with
  | nil => exact ⟨front, back, rfl, by simp [follow, lastEdge?]⟩
  | cons event rest ih =>
    rw [List.foldl_cons]
    cases event with
    | added new =>
      obtain ⟨front', back', names, final⟩ := ih front symbol (back ++ [new])
      refine ⟨front', back', names, ?_⟩
      rw [follow_added, ← final]
      simp [record]
    | stated edge =>
      -- the edge ends before the symbol, at the symbol or behind it
      by_cases before : edge.child ∈ front.map (·.name)
      · obtain ⟨front', back', names, final⟩ := ih (edge.applyTo front) symbol back
        rw [edge.applyTo_names] at names final
        refine ⟨front', back', names, ?_⟩
        rw [record, Edge.applyTo_append_of_mem before, final]
        by_cases first : symbol.name ∈ front.map (·.name)
        · rw [if_pos first, if_pos first]
        · have other : symbol.name ≠ edge.child := fun named => first (named ▸ before)
          rw [follow_stated_of_ne other]
      rw [record, Edge.applyTo_append_of_notMem before, Edge.applyTo_cons]
      by_cases named : symbol.name = edge.child
      · have first : symbol.name ∉ front.map (·.name) := named ▸ before
        obtain ⟨front', back', names, final⟩ := ih front (symbol.setParent edge.parent) back
        refine ⟨front', back', names, ?_⟩
        rw [Symbol.setParent_name, if_neg first] at final
        rw [if_pos named, if_neg first, follow_stated_of_eq named, final]
      · obtain ⟨front', back', names, final⟩ := ih front symbol (edge.applyTo back)
        refine ⟨front', back', names, ?_⟩
        rw [if_neg named, follow_stated_of_ne named, final]

/-- The addition at a given place divides a history. -/
theorem exists_split {history : List Event} {index : Nat}
    (bound : index < (additions history).length) :
    ∃ before created after, history = before ++ .added created :: after ∧
      (additions before).length = index := by
  have parts : history.filterMap symbol? =
      (additions history).take index ++ (additions history).drop index :=
    (List.take_append_drop _ _).symm
  obtain ⟨before, rest, rfl, early, late⟩ := List.filterMap_eq_append_iff.mp parts
  rw [List.drop_eq_getElem_cons bound] at late
  obtain ⟨edges, event, after, rfl, unadded, created, _⟩ := List.filterMap_eq_cons_iff.mp late
  cases event with
  | stated edge => cases created
  | added symbol =>
    refine ⟨before ++ edges, symbol, after, by simp, ?_⟩
    have none_added : additions edges = [] := List.filterMap_eq_nil_iff.mpr unadded
    have counted : additions (before ++ edges) = additions before ++ additions edges :=
      List.filterMap_append
    rw [counted, none_added, List.append_nil, additions, early, List.length_take]
    omega

/-- What a symbol has become in the history after its creation, with others before it in the table:
if it is the first of its name, the last edge to name it has set its parent, in new metadata if it
had none; in all other respects and cases it is as it was created. -/
structure Explains (after : List Event) (earlier : List Symbol) (created symbol : Symbol) :
    Prop where
  inherited : ∀ edge, (∀ other ∈ earlier, other.name ≠ symbol.name) →
    lastEdge? symbol.name after = some edge →
      symbol = { created with
        metadata := some { created.metadata.getD {} with parent := some edge.parent } }
  kept : (∃ other ∈ earlier, other.name = symbol.name) ∨ lastEdge? symbol.name after = none →
    symbol = created

theorem follow_name (history : List Event) (symbol : Symbol) :
    (follow history symbol).name = symbol.name := by
  unfold follow
  cases lastEdge? symbol.name history <;> rfl

theorem explains_follow {earlier : List Symbol} (after : List Event) (created : Symbol) :
    Explains after earlier created
      (if created.name ∈ earlier.map (·.name) then created else follow after created) := by
  have named : (if created.name ∈ earlier.map (·.name) then created
      else follow after created).name = created.name := by
    split
    · rfl
    · exact follow_name after created
  constructor
  · intro edge others last
    rw [named] at others last
    rw [if_neg (notMem_names others), follow, last]
    rfl
  · intro untouched
    rw [named] at untouched
    rcases untouched with ⟨other, member, same⟩ | unnamed
    · rw [if_pos (List.mem_map.mpr ⟨other, member, same⟩)]
    · rw [follow, unnamed, Option.elim_none, ite_self]

/-- The table that a history leaves, place by place. -/
theorem explains_foldl_record {history : List Event} {index : Nat} {symbol : Symbol}
    (found : (history.foldl record [])[index]? = some symbol) :
    ∃ before created after, history = before ++ .added created :: after ∧
      (additions before).length = index ∧
      Explains after ((history.foldl record []).take index) created symbol := by
  have bound : index < (additions history).length := by
    have inside := (List.getElem?_eq_some_iff.mp found).1
    rwa [length_foldl_record, List.length_nil, Nat.zero_add] at inside
  obtain ⟨before, created, after, rfl, count⟩ := exists_split bound
  refine ⟨before, created, after, rfl, count, ?_⟩
  obtain ⟨front, back, names, final⟩ :=
    foldl_record_split after (before.foldl record []) created []
  have place : front.length = index := by
    have same := congrArg List.length names
    rwa [List.length_map, List.length_map, length_foldl_record, List.length_nil, Nat.zero_add,
      count] at same
  rw [← names] at final
  rw [List.foldl_append, List.foldl_cons, record, final] at found ⊢
  subst place
  rw [List.getElem?_append_right (Nat.le_refl _), Nat.sub_self, List.getElem?_cons_zero] at found
  obtain rfl := Option.some.inj found
  rw [List.take_left]
  exact explains_follow after created

end Event

/-- The events of a contribution; its edge comes last. -/
def Contribution.events (part : Contribution) : List Event :=
  part.symbols.map .added ++ part.edge.toList.map .stated

namespace Table

theorem absorb_record (table : Table) (part : Contribution) :
    (table.absorb part).symbols.toList = part.events.foldl Event.record table.symbols.toList := by
  rw [absorb_symbols, Contribution.events, List.foldl_append, Event.foldl_record_added]
  cases part.edge <;> rfl

theorem foldl_absorb_record (parts : List Contribution) (table : Table) :
    (parts.foldl absorb table).symbols.toList =
      (parts.flatMap (·.events)).foldl Event.record table.symbols.toList := by
  induction parts generalizing table with
  | nil => rfl
  | cons part rest ih =>
    rw [List.foldl_cons, ih, absorb_record, List.flatMap_cons, List.foldl_append]

end Table

/-- An expression statement that states an edge: its expression has one of the forms of inheritance,
and neither imports nor attaches methods. -/
structure SyntaxTree.Cursor.States (source : Source) (aliases : Aliases) (statement : Cursor)
    (edge : Edge) : Prop where
  kind : statement.node.kind = .expressionStatement
  reading : ∃ expression, statement.node.firstNamed? = some expression ∧
    source.requiredExport? expression = none ∧ Idiom.methods? source aliases expression = none ∧
      source.edge? expression = some edge

theorem Idiom.ofStatement_eq_inherits_iff {source : Source} {aliases : Aliases} {statement : Node}
    {edge : Edge} :
    ofStatement source aliases statement = .inherits edge ↔
      ∃ expression, statement.firstNamed? = some expression ∧
        source.requiredExport? expression = none ∧ methods? source aliases expression = none ∧
          source.edge? expression = some edge := by
  unfold ofStatement
  constructor
  · intro inherits
    split at inherits
    · cases inherits
    · rename_i expression found
      refine ⟨expression, found, ?_⟩
      unfold ofExpression at inherits
      split at inherits
      · cases inherits
      rename_i unrequired
      split at inherits
      · rename_i idiom attached
        rw [inherits] at attached
        cases methods?_declaring attached
      rename_i unattached
      split at inherits
      · rename_i stated
        obtain rfl := Idiom.inherits.inj inherits
        exact ⟨unrequired, unattached, stated⟩
      · cases inherits
  · rintro ⟨expression, found, unrequired, unattached, stated⟩
    simp only [found, ofExpression, unrequired, unattached, stated]

theorem Form.of_eq_inherits_iff {source : Source} {aliases : Aliases} {cursor : Cursor}
    {edge : Edge} :
    Form.of source aliases cursor = .statement (.inherits edge) ↔
      cursor.States source aliases edge := by
  rw [Form.of_eq_statement_iff, eq_comm (a := Idiom.inherits edge),
    Idiom.ofStatement_eq_inherits_iff]
  exact ⟨fun ⟨kind, reading⟩ => ⟨kind, reading⟩, fun states => ⟨states.kind, states.reading⟩⟩

namespace Context

variable {context : Context} {aliases : Aliases} {cursor : Cursor} {edge : Edge}

theorem exportStatement_edge (source : Source) (node : Node) :
    (source.exportStatement node).edge = none := by
  unfold Source.exportStatement
  split
  · rfl
  split
  · rfl
  split <;> rfl

theorem contributionAt_edge_iff :
    (context.contributionAt aliases cursor).edge = some edge ↔
      cursor.States context.source aliases edge := by
  rw [← Form.of_eq_inherits_iff, contributionAt]
  cases Form.of context.source aliases cursor with
  | function =>
    cases found : context.functionDeclaration? cursor <;>
      simp [Form.contribution, found, Contribution.ofDeclared]
  | classType =>
    cases found : context.class? cursor none <;>
      simp [Form.contribution, found, Contribution.ofDeclared]
  | binding => simp [Form.contribution, variableDeclaration, Contribution.join]
  | importing =>
    cases found : context.source.importStatement? cursor.node <;>
      simp [Form.contribution, found, Contribution.ofImport]
  | exporting => simp [Form.contribution, exportStatement_edge]
  | statement idiom =>
    cases idiom <;>
      simp [Form.contribution, Idiom.contribution, Contribution.ofImport, assignedMethods,
        literalMethods, Contribution.join]
  | sealed | passing => simp [Form.contribution]

/-- What happens to the symbols at the node of a cursor. -/
def eventsAt (context : Context) (aliases : Aliases) (cursor : Cursor) : List Event :=
  (context.contributionAt aliases cursor).events

/-- What happens to the symbols during the walk over a tree, in order. -/
def history (context : Context) (aliases : Aliases) (root : Node) : List Event :=
  (Cursor.reachedFrom context.source aliases [.root root]).flatMap (context.eventsAt aliases)

theorem tables_eq_replay (context : Context) (aliases : Aliases) (root : Node) :
    (context.tables aliases root).symbols.toList =
      (context.history aliases root).foldl Event.record [] := by
  rw [tables_eq_foldl, Table.foldl_absorb_record, contributions, List.flatMap_map]
  rfl

theorem stated_mem_eventsAt_iff :
    .stated edge ∈ context.eventsAt aliases cursor ↔ cursor.States context.source aliases edge := by
  rw [← contributionAt_edge_iff]
  simp [eventsAt, Contribution.events]

theorem visitOne_settles (states : cursor.States context.source aliases edge) (table : Table) :
    edge.Settles table (context.visitOne aliases cursor table).1 := by
  simp only [visitOne, Form.of_eq_inherits_iff.mpr states]
  exact edge.settles_absorb table

/-- Edges and symbols over a whole walk. Each symbol of the tables was added at some point of the
history, the one at an index after as many others; if no symbol before it has its name, the last
edge after that point to name it has set its parent, and else it is as it was created. An edge is
stated by the statements read as inheritance only; it changes the metadata of the first symbol of
its child's name and nothing else, so that it is lost if there is none yet. -/
theorem tables_last_edge (context : Context) (aliases : Aliases) (root : Node) :
    let symbols := (context.tables aliases root).symbols.toList
    symbols.length = (Event.additions (context.history aliases root)).length ∧
    (∀ index symbol, symbols[index]? = some symbol →
      ∃ before created after, context.history aliases root = before ++ .added created :: after ∧
        (Event.additions before).length = index ∧
        Event.Explains after (symbols.take index) created symbol) ∧
    (∀ (cursor : Cursor) (edge : Edge), .stated edge ∈ context.eventsAt aliases cursor ↔
      cursor.States context.source aliases edge) ∧
    ∀ (cursor : Cursor) (edge : Edge), cursor.States context.source aliases edge → ∀ table,
      edge.Settles table (context.visitOne aliases cursor table).1 := by
  intro symbols
  have replayed : symbols = (context.history aliases root).foldl Event.record [] :=
    context.tables_eq_replay aliases root
  refine ⟨?_, ?_, fun _ _ => stated_mem_eventsAt_iff, fun _ _ => visitOne_settles⟩
  · rw [replayed, Event.length_foldl_record, List.length_nil, Nat.zero_add]
  · intro index symbol found
    rw [replayed] at found ⊢
    exact Event.explains_foldl_record found

/-- The tree of `inherits(A, B);` or the like at an offset. -/
def sampleEdge (start : Nat) : Node :=
  ⟨.expressionStatement, true, false, none, start, start + 15, [
    ⟨.callExpression, true, false, none, start, start + 14, [
      ⟨.identifier, true, false, some .callee, start, start + 8, []⟩,
      ⟨.arguments, true, false, some .arguments, start + 8, start + 14, [
        ⟨.identifier, true, false, none, start + 9, start + 10, []⟩,
        ⟨.identifier, true, false, none, start + 12, start + 13, []⟩]⟩]⟩]⟩

/-- The tree of `function A() {}` at an offset. -/
def sampleHeir (start : Nat) : Node :=
  ⟨.functionDeclaration, true, false, none, start, start + 15, [
    ⟨.identifier, true, false, some .name, start + 9, start + 10, []⟩,
    ⟨.other "formal_parameters", true, false, some .parameters, start + 10, start + 12, []⟩,
    ⟨.statementBlock, true, false, some .body, start + 13, start + 15, []⟩]⟩

/-- A file with an edge before, two between and none after the functions of its child's name. -/
def sampleHeirs : Node :=
  ⟨.program, true, false, none, 0, 79, [sampleEdge 0, sampleHeir 16, sampleEdge 32, sampleEdge 48,
    sampleHeir 64]⟩

def heirReading : Context :=
  let text := "inherits(A, Z); function A() \x7b\x7d inherits(A, B); inherits(A, C); " ++
    "function A() \x7b\x7d"
  ⟨Source.ofBytes "lib/heirs.js" text.toUTF8, CallLimits.standard, false⟩

/-- The first `A` has the parent of the last edge; the second is as it was created. -/
theorem tables_last_edge_sampleHeirs :
    let aliases := Aliases.resolve heirReading.source sampleHeirs
    let symbols := (heirReading.tables aliases sampleHeirs).symbols.toList
    (heirReading.history aliases sampleHeirs).filterMap Event.edge? =
      [⟨"A", "Z"⟩, ⟨"A", "B"⟩, ⟨"A", "C"⟩] ∧
    symbols.map (fun symbol => (symbol.name, symbol.details.parent)) =
      [("A", some "C"), ("A", none)] ∧
    ∃ symbol, symbols[1]? = some symbol ∧ ∃ before after,
      heirReading.history aliases sampleHeirs = before ++ .added symbol :: after ∧
        (Event.additions before).length = 1 := by
  intro aliases symbols
  refine ⟨by decide +kernel, by decide +kernel, ?_⟩
  have inside : 1 < symbols.length := by decide +kernel
  have shadowed : ∃ other ∈ symbols.take 1, other.name = symbols[1].name := by
    decide +kernel +revert
  have second : symbols[1]? = some symbols[1] := List.getElem?_eq_getElem inside
  obtain ⟨before, created, after, split, count, explained⟩ :=
    (tables_last_edge heirReading aliases sampleHeirs).2.1 1 symbols[1] second
  have kept := explained.kept (.inl shadowed)
  exact ⟨symbols[1], second, before, after, kept ▸ split, count⟩

end Context
end ScriptAtlas
