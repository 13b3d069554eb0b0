import ScriptAtlas.Proofs.Tables

/-! The local names of an import statement. Its one record has a list for the names of parts of the
module and a single place for the name of the module as a whole, which the last such name takes. -/
namespace ScriptAtlas
open SyntaxTree

namespace Source

/-- The local names that a part of an import clause introduces: a default binding, a namespace, or
for each specifier of a list its alias, and without one its name. -/
inductive PartIntroduces (source : Source) (part : Node) : String → Prop where
  | default (kind : part.kind = .identifier) : PartIntroduces source part (source.text part)
  | namespaced (name : Node) (kind : part.kind = .namespaceImport)
      (named : part.childOf? .identifier = some name) :
      PartIntroduces source part (source.text name)
  | renamed (specifier name : Node) (kind : part.kind = .namedImports)
      (listed : specifier ∈ part.namedChildren) (specifies : specifier.kind = .importSpecifier)
      (named : specifier.child? .aliasName = some name) :
      PartIntroduces source part (source.text name)
  | imported (specifier name : Node) (kind : part.kind = .namedImports)
      (listed : specifier ∈ part.namedChildren) (specifies : specifier.kind = .importSpecifier)
      (unaliased : specifier.child? .aliasName = none)
      (named : specifier.child? .name = some name) :
      PartIntroduces source part (source.text name)

/-- The parts of the clause of an import statement. -/
def clauseParts (statement : Node) : List Node :=
  (statement.childOf? .importClause).elim [] (·.namedChildren)

/-- The local names that an import statement introduces. -/
def Introduces (source : Source) (statement : Node) (name : String) : Prop :=
  ∃ part ∈ clauseParts statement, source.PartIntroduces part name

/-- The name that a part of a clause gives to the module as a whole. -/
def wholeName? (source : Source) (part : Node) : Option String :=
  match part.kind with
  | .identifier => some (source.text part)
  | .namespaceImport => (part.childOf? .identifier).map source.text
  | _ => none

/-- The names that a part of a clause gives to parts of the module. -/
def partNames (source : Source) (part : Node) : List String :=
  if part.kind = .namedImports then source.importedNames part else []

/-- The names that an import statement gives to the module as a whole, in order. -/
def wholeNames (source : Source) (statement : Node) : List String :=
  (clauseParts statement).filterMap source.wholeName?

variable {source : Source} {statement part : Node} {name : String}

theorem outerName?_eq_some_iff {specifier chosen : Node} :
    outerName? specifier = some chosen ↔
      specifier.child? .aliasName = some chosen ∨
        specifier.child? .aliasName = none ∧ specifier.child? .name = some chosen :=
  Option.or_eq_some_iff

theorem mem_partNames_iff :
    name ∈ source.partNames part ↔
      part.kind = .namedImports ∧ ∃ specifier ∈ part.namedChildren,
        specifier.kind = .importSpecifier ∧
          ∃ chosen, outerName? specifier = some chosen ∧ source.text chosen = name := by
  unfold partNames importedNames
  split <;> simp_all [and_assoc]

theorem partIntroduces_iff :
    source.PartIntroduces part name ↔
      source.wholeName? part = some name ∨ name ∈ source.partNames part := by
  rw [mem_partNames_iff]
  constructor
  · rintro (kind | ⟨chosen, kind, named⟩ | ⟨specifier, chosen, kind, listed, specifies, named⟩ |
      ⟨specifier, chosen, kind, listed, specifies, unaliased, named⟩)
    · exact .inl (by simp [wholeName?, kind])
    · exact .inl (by simp [wholeName?, kind, named])
    · exact .inr ⟨kind, specifier, listed, specifies, chosen,
        outerName?_eq_some_iff.mpr (.inl named), rfl⟩
    · exact .inr ⟨kind, specifier, listed, specifies, chosen,
        outerName?_eq_some_iff.mpr (.inr ⟨unaliased, named⟩), rfl⟩
  · rintro (whole | ⟨kind, specifier, listed, specifies, chosen, found, rfl⟩)
    · unfold wholeName? at whole
      split at whole
      · rename_i kind
        obtain rfl := Option.some.inj whole
        exact .default kind
      · rename_i kind
        obtain ⟨chosen, named, rfl⟩ := Option.map_eq_some_iff.mp whole
        exact .namespaced chosen kind named
      · cases whole
    · rcases outerName?_eq_some_iff.mp found with named | ⟨unaliased, named⟩
      · exact .renamed specifier chosen kind listed specifies named
      · exact .imported specifier chosen kind listed specifies unaliased named

theorem introduces_iff :
    source.Introduces statement name ↔
      name ∈ source.wholeNames statement ∨
        name ∈ (clauseParts statement).flatMap source.partNames := by
  simp only [Introduces, partIntroduces_iff, wholeNames, List.mem_filterMap, List.mem_flatMap,
    and_or_left, exists_or]

/-! ### One part, and a whole clause -/

theorem bindClause_binding (dependency : Import) (part : Node) :
    (source.bindClause dependency part).binding =
      (source.wholeName? part).or dependency.binding := by
  unfold bindClause wholeName?
  cases part.kind <;> rfl

theorem bindClause_names (dependency : Import) (part : Node) :
    (source.bindClause dependency part).names = dependency.names ++ source.partNames part := by
  unfold bindClause partNames
  cases part.kind <;> simp

theorem foldl_bindClause_binding (parts : List Node) (dependency : Import) :
    (parts.foldl source.bindClause dependency).binding =
      (parts.filterMap source.wholeName?).getLast?.or dependency.binding := by
  induction parts generalizing dependency with
  | nil => rfl
  | cons part rest ih =>
    rw [List.foldl_cons, ih, bindClause_binding]
    cases whole : source.wholeName? part with
    | none => simp [whole]
    | some name =>
      -- the name stands if the rest gives no other
      rw [List.filterMap_cons_some whole, List.getLast?_cons]
      cases (rest.filterMap source.wholeName?).getLast? <;> rfl

theorem foldl_bindClause_names (parts : List Node) (dependency : Import) :
    (parts.foldl source.bindClause dependency).names =
      dependency.names ++ parts.flatMap source.partNames := by
  induction parts generalizing dependency with
  | nil => simp
  | cons part rest ih => simp [ih, bindClause_names]

/-- What an import statement with a path records of its names. -/
theorem importStatement?_spec {path : String}
    (given : source.modulePath? statement = some path) :
    ∃ dependency, source.importStatement? statement = some dependency ∧
      dependency.binding = (source.wholeNames statement).getLast? ∧
      dependency.names = (clauseParts statement).flatMap source.partNames := by
  unfold importStatement?
  rw [given]
  refine ⟨_, rfl, ?_, ?_⟩
  · rw [foldl_bindClause_binding, Option.or_none]
    rfl
  · rw [foldl_bindClause_names, List.nil_append]
    rfl

end Source

/-- An import under whose record a local name is found. -/
def Import.Keeps (dependency : Import) (name : String) : Prop :=
  dependency.binding = some name ∨ name ∈ dependency.names

instance (dependency : Import) (name : String) : Decidable (dependency.Keeps name) :=
  inferInstanceAs (Decidable (_ ∨ _))

namespace Context

variable {context : Context} {aliases : Aliases} {cursor : Cursor}

theorem contributionAt_importing (kind : cursor.node.kind = .importStatement) :
    context.contributionAt aliases cursor =
      (context.source.importStatement? cursor.node).elim {} .ofImport := by
  have form : Form.of context.source aliases cursor = .importing := by
    simp [Form.of, kind, Kind.isFunctionDeclaration, Kind.isClass, Kind.isVariableDeclaration]
  rw [contributionAt, form, Form.contribution]

/-- What becomes of the local names of an import statement, whatever was read before it. It adds
one import, which keeps no name that the statement does not introduce. The names of parts of the
module are all kept. Of the names of the whole module the last one is, so nothing is lost exactly
if each of those before it is kept otherwise, in particular if there are none. -/
theorem import_keeps_names_iff (context : Context) (aliases : Aliases) (cursor : Cursor)
    (table : Table) (literal : Node) (kind : cursor.node.kind = .importStatement)
    (given : cursor.node.child? .source = some literal) (string : literal.kind = .stringLiteral) :
    ∃ dependency,
      (context.visitOne aliases cursor table).1.imports.toList =
        table.imports.toList ++ [dependency] ∧
      (∀ name, context.source.Introduces cursor.node name ↔
        name ∈ context.source.wholeNames cursor.node ∨ name ∈ dependency.names) ∧
      dependency.binding = (context.source.wholeNames cursor.node).getLast? ∧
      ((∀ name, context.source.Introduces cursor.node name → dependency.Keeps name) ↔
        ∀ earlier ∈ (context.source.wholeNames cursor.node).dropLast,
          dependency.Keeps earlier) := by
  have path : context.source.modulePath? cursor.node =
      some (Text.trim Text.isQuote (context.source.text literal)) := by
    simp [Source.modulePath?, given, Source.stringValue?, string]
  obtain ⟨dependency, found, binding, names⟩ := Source.importStatement?_spec path
  have introduced : ∀ name, context.source.Introduces cursor.node name ↔
      name ∈ context.source.wholeNames cursor.node ∨ name ∈ dependency.names := by
    intro name
    rw [names, Source.introduces_iff]
  refine ⟨dependency, ?_, introduced, binding, ?_⟩
  · change (table.absorb (context.contributionAt aliases cursor)).imports.toList = _
    rw [Table.absorb_imports, contributionAt_importing kind, found]
    rfl
  · constructor
    · intro kept earlier before
      exact kept earlier ((introduced earlier).mpr (.inl (List.dropLast_subset _ before)))
    · intro kept name present
      rcases (introduced name).mp present with whole | part
      · by_cases last : some name = (context.source.wholeNames cursor.node).getLast?
        · exact .inl (binding.trans last.symm)
        · exact kept name (List.mem_dropLast_of_mem_of_ne_getLast? whole last)
      · exact .inr part

end Context

/-- An import statement with a string at the given place after a clause of the given parts. -/
def sampleImport (parts : List Node) (place : Nat) : Node :=
  ⟨.importStatement, true, false, none, 0, place + 4, [
    ⟨.importClause, true, false, none, 7, place - 6, parts⟩,
    ⟨.stringLiteral, true, false, some .source, place, place + 3, []⟩]⟩

def sampleName (field : Option Field) (start : Nat) : Node :=
  ⟨.identifier, true, false, field, start, start + 1, []⟩

def importContext (text : String) : Context :=
  ⟨Source.ofBytes "lib/a.js" text.toUTF8, CallLimits.standard, false⟩

/-- A default binding is kept beside a renamed part. -/
theorem Context.import_keeps_names_sampleImport :
    let context := importContext "import a, \x7b b as c \x7d from 'x';"
    let specifier : Node := ⟨.importSpecifier, true, false, none, 12, 18,
      [sampleName (some .name) 12, sampleName (some .aliasName) 17]⟩
    let statement := sampleImport
      [sampleName none 7, ⟨.namedImports, true, false, none, 10, 20, [specifier]⟩] 26
    context.source.Introduces statement "a" ∧ context.source.Introduces statement "c" ∧
    ∃ dependency,
      (context.visitOne .empty (.root statement) {}).1.imports.toList = [dependency] ∧
      ∀ name, context.source.Introduces statement name → dependency.Keeps name := by
  intro context specifier statement
  refine ⟨Source.introduces_iff.mpr (.inl (by decide +kernel)),
    Source.introduces_iff.mpr (.inr (by decide +kernel)), ?_⟩
  obtain ⟨dependency, added, _, _, kept⟩ :=
    context.import_keeps_names_iff .empty (.root statement) {} _ rfl rfl rfl
  have single : (context.source.wholeNames (Cursor.root statement).node).dropLast = [] := by
    decide +kernel
  refine ⟨dependency, added, kept.mpr ?_⟩
  rw [single]
  exact fun earlier before => absurd before List.not_mem_nil

/-- A default binding before a namespace is lost: the namespace takes its place in the record, which
says that there is a default. -/
theorem Context.import_loses_default :
    let context := importContext "import a, * as b from 'x';"
    let statement := sampleImport
      [sampleName none 7, ⟨.namespaceImport, true, false, none, 10, 16, [sampleName none 15]⟩] 22
    let imports := (context.visitOne .empty (.root statement) {}).1.imports.toList
    context.source.Introduces statement "a" ∧
      imports.map (fun dependency => (dependency.isDefault, dependency.binding, dependency.names)) =
        [(true, some "b", [])] ∧
      ∀ dependency ∈ imports, ¬ dependency.Keeps "a" := by
  intro context statement imports
  exact ⟨Source.introduces_iff.mpr (.inl (by decide +kernel)), by decide +kernel,
    by decide +kernel⟩

end ScriptAtlas
