import ScriptAtlas.Proofs.Order

/-! What the last pass does to the tables of a file. It raises export flags and adds at most one
class, the one that the aliases stand for; whether that type then has a class in the result depends
on which symbols are dropped as private. -/
namespace ScriptAtlas
open SyntaxTree

namespace Symbol

section Fields

variable (symbol : Symbol) (function : Node) (aliases : Aliases) (published : List String)

@[simp] theorem promote_exported : (symbol.promote function).exported = symbol.exported := by
  unfold promote
  split <;> rfl

@[simp] theorem promote_receiver : (symbol.promote function).receiver = symbol.receiver := by
  unfold promote
  split <;> rfl

/-- Publishing touches the export flag only. -/
theorem publish_eq : symbol.publish aliases published =
    { symbol with
      exported := symbol.exported ||
        (aliases.contains symbol.name || published.contains symbol.name) } := by
  cases symbol
  unfold publish
  split
  · rename_i named
    rw [named, Bool.or_true]
  · rename_i unnamed
    rw [Bool.eq_false_iff.mpr unnamed, Bool.or_false]

@[simp] theorem publish_name : (symbol.publish aliases published).name = symbol.name := by
  rw [publish_eq]

@[simp] theorem publish_kind : (symbol.publish aliases published).kind = symbol.kind := by
  rw [publish_eq]

@[simp] theorem publish_receiver :
    (symbol.publish aliases published).receiver = symbol.receiver := by
  rw [publish_eq]

@[simp] theorem publish_exported : (symbol.publish aliases published).exported =
    (symbol.exported || (aliases.contains symbol.name || published.contains symbol.name)) := by
  rw [publish_eq]

end Fields

/-- A symbol before and after its export flag may have been raised. -/
def Raised (old new : Symbol) : Prop :=
  new = old ∨ old.exported = false ∧ new = { old with exported := true }

theorem raised_publish (symbol : Symbol) (aliases : Aliases) (published : List String) :
    symbol.Raised (symbol.publish aliases published) := by
  obtain ⟨_, _, _, _, _, _, exported, _, _, _, _⟩ := symbol
  unfold publish
  split
  · cases exported with
    | true => exact .inl rfl
    | false => exact .inr ⟨rfl, rfl⟩
  · exact .inl rfl

/-- A class or interface of a given name: what the members of a type belong to. -/
def owns (symbol : Symbol) (typeName : String) : Bool :=
  symbol.isClassLike && symbol.name == typeName

@[simp] theorem owns_iff (symbol : Symbol) (typeName : String) :
    symbol.owns typeName = true ↔ symbol.isClassLike = true ∧ symbol.name = typeName := by
  simp [owns]

@[simp] theorem owns_publish (symbol : Symbol) (typeName : String) (aliases : Aliases)
    (published : List String) :
    (symbol.publish aliases published).owns typeName = symbol.owns typeName := by
  simp [owns, isClassLike]

end Symbol

namespace Aliases

/-- The names of a file's aliases come in alphabetical order. -/
theorem resolve_sorted (source : Source) (root : Node) :
    (resolve source root).names.Pairwise (· ≤ ·) := by
  unfold resolve
  split
  · exact List.Pairwise.nil
  · have ordered := @List.pairwise_mergeSort String (fun left right => decide (left ≤ right))
      (fun first second third => by simpa using String.le_trans)
      (fun first second => by simpa using String.le_total first second)
    unfold ofNames
    simpa using ordered _

/-- Aliases denote the type that is named after the path of their file. -/
theorem typeName_of_resolve {source : Source} {root : Node}
    (aliased : (resolve source root).names ≠ []) :
    Path.typeName? source.path = some (resolve source root).typeName := by
  unfold resolve at aliased ⊢
  split
  · rename_i unnamed
    simp [unnamed, empty] at aliased
  · rename_i typeName named
    rw [named]
    rfl

/-- What is known of the class made for the aliases. `walked` are the symbols that the walk left,
`marked` the same symbols with their final export flags. -/
structure Stands (aliases : Aliases) (path : String) (walked marked : List Symbol)
    (made : Symbol) : Prop where
  name : made.name = aliases.typeName
  kind : made.kind = .classType
  exported : made.exported = true
  receiver : made.receiver = none
  calls : made.calls = []
  children : made.children = marked.filter (·.receiver == some aliases.typeName)
  methods : ∀ child ∈ made.children, child.kind = .method ∧ child.exported = true
  location : ∃ first ∈ aliases.names, (∀ other ∈ aliases.names, first ≤ other) ∧
    made.location =
      ((walked.find? (·.name == first)).map (·.location)).getD ⟨path, 1, 0, 1, 0⟩

variable {aliases : Aliases} {source : Source} {symbols : List Symbol}

theorem synthetic?_eq :
    aliases.synthetic? source symbols =
      if aliases.names.isEmpty || symbols.any (·.owns aliases.typeName) then none
      else some (aliases.syntheticClass source symbols) := rfl

/-- A class is made exactly for aliases whose type no symbol owns. -/
theorem synthetic?_eq_some_iff {made : Symbol} :
    aliases.synthetic? source symbols = some made ↔
      aliases.names ≠ [] ∧ (∀ symbol ∈ symbols, ¬ symbol.owns aliases.typeName) ∧
        made = aliases.syntheticClass source symbols := by
  rw [synthetic?_eq]
  split
  · rename_i refused
    constructor
    · intro impossible
      cases impossible
    · rintro ⟨aliased, unowned, _⟩
      rcases Bool.or_eq_true_iff.mp refused with empty | owned
      · exact absurd (List.isEmpty_iff.mp empty) aliased
      · obtain ⟨symbol, member, owns⟩ := List.any_eq_true.mp owned
        exact absurd owns (unowned symbol member)
  · rename_i accepted
    have ⟨aliased, unowned⟩ := Bool.or_eq_false_iff.mp (Bool.eq_false_iff.mpr accepted)
    have free : ∀ symbol ∈ symbols, ¬ symbol.owns aliases.typeName := by
      intro symbol member owns
      exact List.any_eq_false.mp unowned symbol member owns
    have named : aliases.names ≠ [] := by simpa using aliased
    rw [Option.some.injEq]
    constructor
    · intro same
      exact ⟨named, free, same.symm⟩
    · intro found
      exact found.2.2.symm

theorem synthetic?_of_unaliased (unaliased : aliases.names = []) :
    aliases.synthetic? source symbols = none := by
  rw [synthetic?_eq, unaliased]
  rfl

theorem location_eq_of_map {change : Symbol → Symbol} (path : String)
    (named : ∀ symbol, (change symbol).name = symbol.name)
    (placed : ∀ symbol, (change symbol).location = symbol.location) :
    aliases.location path (symbols.map change) = aliases.location path symbols := by
  unfold location
  cases aliases.names.head? with
  | none => rfl
  | some first => simp [List.find?_map, Function.comp_def, named, placed]

/-- The class stands where the least of the aliases is declared. -/
theorem exists_location (aliased : aliases.names ≠ []) (ordered : aliases.names.Pairwise (· ≤ ·))
    (path : String) :
    ∃ first ∈ aliases.names, (∀ other ∈ aliases.names, first ≤ other) ∧
      aliases.location path symbols =
        ((symbols.find? (·.name == first)).map (·.location)).getD ⟨path, 1, 0, 1, 0⟩ := by
  unfold location
  cases names : aliases.names with
  | nil => exact absurd names aliased
  | cons first rest =>
    rw [names] at ordered
    refine ⟨first, by simp, ?_, rfl⟩
    intro other member
    rcases List.mem_cons.mp member with same | later
    · exact same ▸ String.le_refl first
    · exact (List.pairwise_cons.mp ordered).1 other later

/-- The class made for the aliases takes only public methods for its members, if only these belong
to a type among the symbols that the walk left. -/
theorem syntheticClass_methods {walked : List Symbol}
    (attached : ∀ symbol ∈ walked, symbol.receiver.isSome = true →
      symbol.kind = .method ∧ symbol.exported = true) (published : List String) :
    ∀ child ∈
      (aliases.syntheticClass source (walked.map (·.publish aliases published))).children,
      child.kind = .method ∧ child.exported = true := by
  intro child member
  obtain ⟨present, belongs⟩ := List.mem_filter.mp member
  obtain ⟨old, walkedOld, rfl⟩ := List.mem_map.mp present
  rw [Symbol.publish_receiver, beq_iff_eq] at belongs
  have method := attached old walkedOld (by simp [belongs])
  simpa [method.2] using method.1

theorem syntheticClass_stands {walked : List Symbol} (aliased : aliases.names ≠ [])
    (ordered : aliases.names.Pairwise (· ≤ ·))
    (attached : ∀ symbol ∈ walked, symbol.receiver.isSome = true →
      symbol.kind = .method ∧ symbol.exported = true) (published : List String) :
    aliases.Stands source.path walked (walked.map (·.publish aliases published))
      (aliases.syntheticClass source (walked.map (·.publish aliases published))) where
  name := rfl
  kind := rfl
  exported := rfl
  receiver := rfl
  calls := rfl
  children := rfl
  methods := syntheticClass_methods attached published
  location := by
    have place :
        (aliases.syntheticClass source (walked.map (·.publish aliases published))).location =
          aliases.location source.path walked :=
      location_eq_of_map _ (fun _ => Symbol.publish_name _ _ _)
        (fun _ => Symbol.publish_location _ _ _)
    rw [place]
    exact exists_location aliased ordered source.path

end Aliases

namespace Context

variable {context : Context} {node : Node} {symbol : Symbol}

/-- A symbol that is declared outside of a class but belongs to a type is a public method. -/
theorem Declares.attached (declares : context.Declares node symbol)
    (belongs : symbol.receiver.isSome = true) : symbol.kind = .method ∧ symbol.exported = true := by
  cases declares with
  | function => simp [functionSymbol] at belongs
  | classType => simp [classSymbol] at belongs
  | variableBinding => simp [boundSymbol] at belongs
  | assigned statement function docComment target _ _ _ =>
    unfold assignedSymbol at belongs ⊢
    cases owner : target.owner with
    | some owner => simp
    | none => simp [owner] at belongs
  | literal => simp [literalSymbol]

theorem tables_attached (context : Context) (aliases : Aliases) (root : Node) :
    ∀ symbol ∈ (context.tables aliases root).symbols.toList,
      symbol.receiver.isSome = true → symbol.kind = .method ∧ symbol.exported = true := by
  rw [tables_eq_foldl]
  refine Table.foldl_absorb_forall (fun _ _ kept => kept) _ _ ?_ ?_
  · simp
  · intro part member symbol added
    obtain ⟨cursor, _, rfl⟩ := List.mem_map.mp member
    exact (contribution_declares added).attached

/-- The symbols of an extraction that keeps private ones are those that the walk left, some of them
now exported, and after them at most one class. It is there exactly if the file has aliases and no
class or interface owns their type; it holds the methods attached to the type and stands where the
alphabetically least alias is declared. -/
theorem extract_completes_tables (context : Context) (language : String) (root : Node) :
    let aliases := Aliases.resolve context.source root
    let walked := (context.tables aliases root).symbols.toList
    (aliases.names ≠ [] → Path.typeName? context.source.path = some aliases.typeName) ∧
    ∃ (marked : List Symbol) (extra : Option Symbol),
      (context.extract true language root).extraction.symbols = marked ++ extra.toList ∧
      List.Forall₂ Symbol.Raised walked marked ∧
      (extra.isSome = true ↔ aliases.names ≠ [] ∧
        ∀ symbol ∈ walked, symbol.kind = .classType ∨ symbol.kind = .interface →
          symbol.name ≠ aliases.typeName) ∧
      ∀ made ∈ extra, aliases.Stands context.source.path walked marked made := by
  intro aliases walked
  let published := (context.tables aliases root).published
  let marked := walked.map (·.publish aliases published)
  refine ⟨Aliases.typeName_of_resolve, marked, aliases.synthetic? context.source marked, rfl, ?_,
    ?_, ?_⟩
  · rw [List.forall₂_map_right_iff, List.forall₂_same]
    intro symbol _
    exact symbol.raised_publish aliases published
  · rw [Option.isSome_iff_exists]
    constructor
    · rintro ⟨made, found⟩
      obtain ⟨aliased, unowned, _⟩ := Aliases.synthetic?_eq_some_iff.mp found
      refine ⟨aliased, ?_⟩
      intro symbol member kind named
      apply unowned _ (List.mem_map_of_mem member)
      rw [Symbol.owns_publish, Symbol.owns_iff, Symbol.isClassLike_iff]
      exact ⟨kind, named⟩
    · rintro ⟨aliased, unowned⟩
      refine ⟨_, Aliases.synthetic?_eq_some_iff.mpr ⟨aliased, ?_, rfl⟩⟩
      intro symbol member owns
      obtain ⟨old, present, rfl⟩ := List.mem_map.mp member
      rw [Symbol.owns_publish, Symbol.owns_iff, Symbol.isClassLike_iff] at owns
      exact unowned old present owns.1 owns.2
  · intro made member
    obtain ⟨aliased, _, rfl⟩ := Aliases.synthetic?_eq_some_iff.mp member
    exact Aliases.syntheticClass_stands aliased (Aliases.resolve_sorted _ _)
      (context.tables_attached aliases root) published

/-- Whether private symbols are wanted makes one difference: without them, the symbols at the top
level that are not exported are left out, and those that stay are unchanged. The class of the
aliases stays as it was made from all the symbols, and its methods stay at the top level too. -/
theorem extract_drops_unexported (context : Context) (language : String) (root : Node) :
    let aliases := Aliases.resolve context.source root
    let table := context.tables aliases root
    let marked := table.symbols.toList.map (·.publish aliases table.published)
    let synthetic? := aliases.synthetic? context.source marked
    let all := (context.extract true language root).extraction
    let shown := (context.extract false language root).extraction
    shown.imports = all.imports ∧ shown.errors = all.errors ∧
    shown.symbols = all.symbols.filter (·.exported) ∧
    all.symbols = marked ++ synthetic?.toList ∧
    shown.symbols = marked.filter (·.exported) ++ synthetic?.toList ∧
    ∀ made ∈ synthetic?, ∀ child ∈ made.children, child ∈ shown.symbols := by
  intro aliases table marked synthetic? all shown
  have shownSymbols : shown.symbols = marked.filter (·.exported) ++ synthetic?.toList := by
    have kept : synthetic?.toList.filter (·.exported) = synthetic?.toList := by
      rw [List.filter_eq_self]
      intro made member
      obtain ⟨_, _, rfl⟩ := Aliases.synthetic?_eq_some_iff.mp (Option.mem_toList.mp member)
      rfl
    change (marked ++ synthetic?.toList).filter (·.exported) = _
    rw [List.filter_append, kept]
  refine ⟨rfl, rfl, rfl, rfl, shownSymbols, ?_⟩
  intro made member child belongs
  obtain ⟨_, _, rfl⟩ := Aliases.synthetic?_eq_some_iff.mp member
  have method := Aliases.syntheticClass_methods (context.tables_attached aliases root) _ _ belongs
  rw [shownSymbols]
  apply List.mem_append_left
  exact List.mem_filter.mpr ⟨(List.mem_filter.mp belongs).1, method.2⟩

end Context

/-- The type of the aliases is owned by symbols of the tables, but by none that is or becomes
exported. -/
structure Aliases.Hidden (aliases : Aliases) (table : Table) : Prop where
  owned : ∃ symbol ∈ table.symbols.toList, symbol.owns aliases.typeName = true
  unexported : ∀ symbol ∈ table.symbols.toList, symbol.owns aliases.typeName = true →
    symbol.exported = false
  unaliased : aliases.contains aliases.typeName = false
  unpublished : table.published.contains aliases.typeName = false

section Owners

variable {includePrivate : Bool} {source : Source} {aliases : Aliases} {table : Table}
  {symbols : List Symbol} {symbol : Symbol}

theorem mem_visibleSymbols_iff : symbol ∈ visibleSymbols includePrivate symbols ↔
    symbol ∈ symbols ∧ (includePrivate = true ∨ symbol.exported = true) := by
  unfold visibleSymbols
  split
  · rename_i wanted
    simp [wanted]
  · rename_i unwanted
    rw [List.mem_filter]
    simp [unwanted]

theorem mem_completeSymbols_iff {published : List String} :
    symbol ∈ completeSymbols source aliases published symbols ↔
      symbol ∈ symbols.map (·.publish aliases published) ∨
        aliases.synthetic? source (symbols.map (·.publish aliases published)) = some symbol := by
  unfold completeSymbols
  rw [List.mem_append, Option.mem_toList]

/-- Hidden owners are those that the last pass leaves unexported. -/
theorem Aliases.hidden_iff :
    aliases.Hidden table ↔
      (∃ symbol ∈ table.symbols.toList.map (·.publish aliases table.published),
        symbol.owns aliases.typeName = true) ∧
      ∀ symbol ∈ table.symbols.toList.map (·.publish aliases table.published),
        symbol.owns aliases.typeName = true → symbol.exported = false := by
  rw [List.forall_mem_map]
  simp only [List.mem_map, exists_exists_and_eq_and, Symbol.owns_publish, Symbol.publish_exported]
  constructor
  · intro hidden
    refine ⟨hidden.owned, ?_⟩
    intro symbol member owns
    have named := ((symbol.owns_iff _).mp owns).2
    rw [named, hidden.unexported symbol member owns, hidden.unaliased, hidden.unpublished]
    rfl
  · rintro ⟨⟨first, present, owner⟩, unexported⟩
    have flags : ∀ symbol ∈ table.symbols.toList, symbol.owns aliases.typeName = true →
        symbol.exported = false ∧ aliases.contains aliases.typeName = false ∧
          table.published.contains aliases.typeName = false := by
      intro symbol member owns
      have named := ((symbol.owns_iff _).mp owns).2
      have flag := unexported symbol member owns
      rw [named, Bool.or_eq_false_iff, Bool.or_eq_false_iff] at flag
      exact flag
    exact {
      owned := ⟨first, present, owner⟩
      unexported := fun symbol member owns => (flags symbol member owns).1
      unaliased := (flags first present owner).2.1
      unpublished := (flags first present owner).2.2 }

/-- The type of the aliases has an owner after the last pass, unless all its owners are hidden and
private symbols are dropped. -/
theorem exists_owner_iff (aliased : aliases.names ≠ []) :
    (∃ owner ∈ visibleSymbols includePrivate
        (completeSymbols source aliases table.published table.symbols.toList),
      owner.owns aliases.typeName = true) ↔
        ¬ (includePrivate = false ∧ aliases.Hidden table) := by
  rw [Aliases.hidden_iff]
  constructor
  · rintro ⟨owner, member, owns⟩ ⟨dropping, owned, hidden⟩
    obtain ⟨complete, shown⟩ := mem_visibleSymbols_iff.mp member
    rcases mem_completeSymbols_iff.mp complete with marked | made
    · simp [dropping, hidden owner marked owns] at shown
    · obtain ⟨other, present, owner⟩ := owned
      exact (Aliases.synthetic?_eq_some_iff.mp made).2.1 other present owner
  · intro kept
    by_cases owned : ∃ symbol ∈ table.symbols.toList.map (·.publish aliases table.published),
        symbol.owns aliases.typeName = true
    · cases includePrivate with
      | true =>
        obtain ⟨owner, marked, owns⟩ := owned
        refine ⟨owner, mem_visibleSymbols_iff.mpr ⟨?_, .inl rfl⟩, owns⟩
        exact mem_completeSymbols_iff.mpr (.inl marked)
      | false =>
        have shown : ∃ symbol ∈ table.symbols.toList.map (·.publish aliases table.published),
            symbol.owns aliases.typeName = true ∧ symbol.exported = true := by
          by_contra hidden
          apply kept
          refine ⟨rfl, owned, fun symbol marked owns => ?_⟩
          rw [Bool.eq_false_iff]
          intro exported
          exact hidden ⟨symbol, marked, owns, exported⟩
        obtain ⟨owner, marked, owns, exported⟩ := shown
        refine ⟨owner, mem_visibleSymbols_iff.mpr ⟨?_, .inr exported⟩, owns⟩
        exact mem_completeSymbols_iff.mpr (.inl marked)
    · -- nothing owns the type, so that a class is made for it, and that one is exported
      have made : aliases.synthetic? source
          (table.symbols.toList.map (·.publish aliases table.published)) = some _ :=
        Aliases.synthetic?_eq_some_iff.mpr
          ⟨aliased, fun symbol marked owns => owned ⟨symbol, marked, owns⟩, rfl⟩
      refine ⟨_, mem_visibleSymbols_iff.mpr ⟨mem_completeSymbols_iff.mpr (.inr made), .inr rfl⟩, ?_⟩
      rw [Symbol.owns_iff]
      exact ⟨rfl, rfl⟩

end Owners

namespace Context

/-- In a file with aliases their type has a class or interface in the result, except in one case:
private symbols are dropped, and the classes of that name, which keep one from being made, are all
private. -/
theorem extract_owner_iff (context : Context) (includePrivate : Bool) (language : String)
    (root : Node) (aliased : (Aliases.resolve context.source root).names ≠ []) :
    let aliases := Aliases.resolve context.source root
    (∃ owner ∈ (context.extract includePrivate language root).extraction.symbols,
      owner.isClassLike = true ∧ owner.name = aliases.typeName) ↔
        ¬ (includePrivate = false ∧ aliases.Hidden (context.tables aliases root)) := by
  intro aliases
  simp only [← Symbol.owns_iff]
  exact exists_owner_iff aliased

/-- The tree of `class Thing {} var a = module.exports = {}; a.m = function () {};`. -/
def sampleAlias : Node :=
  ⟨.program, true, false, none, 0, 65, [
    ⟨.classDeclaration, true, false, none, 0, 14, [
      ⟨.classExpression, false, false, none, 0, 5, []⟩,
      ⟨.identifier, true, false, some .name, 6, 11, []⟩,
      ⟨.classBody, true, false, some .body, 12, 14, [
        ⟨.other "\x7b", false, false, none, 12, 13, []⟩,
        ⟨.other "\x7d", false, false, none, 13, 14, []⟩]⟩]⟩,
    ⟨.variableDeclaration, true, false, none, 15, 43, [
      ⟨.varToken, false, false, none, 15, 18, []⟩,
      ⟨.variableDeclarator, true, false, none, 19, 42, [
        ⟨.identifier, true, false, some .name, 19, 20, []⟩,
        ⟨.other "=", false, false, none, 21, 22, []⟩,
        ⟨.assignmentExpression, true, false, some .value, 23, 42, [
          ⟨.memberExpression, true, false, some .left, 23, 37, [
            ⟨.identifier, true, false, some .object, 23, 29, []⟩,
            ⟨.other ".", false, false, none, 29, 30, []⟩,
            ⟨.propertyIdentifier, true, false, some .property, 30, 37, []⟩]⟩,
          ⟨.other "=", false, false, none, 38, 39, []⟩,
          ⟨.objectLiteral, true, false, some .right, 40, 42, [
            ⟨.other "\x7b", false, false, none, 40, 41, []⟩,
            ⟨.other "\x7d", false, false, none, 41, 42, []⟩]⟩]⟩]⟩,
      ⟨.other ";", false, false, none, 42, 43, []⟩]⟩,
    ⟨.expressionStatement, true, false, none, 44, 65, [
      ⟨.assignmentExpression, true, false, none, 44, 64, [
        ⟨.memberExpression, true, false, some .left, 44, 47, [
          ⟨.identifier, true, false, some .object, 44, 45, []⟩,
          ⟨.other ".", false, false, none, 45, 46, []⟩,
          ⟨.propertyIdentifier, true, false, some .property, 46, 47, []⟩]⟩,
        ⟨.other "=", false, false, none, 48, 49, []⟩,
        ⟨.functionExpression, true, false, some .right, 50, 64, [
          ⟨.other "function", false, false, none, 50, 58, []⟩,
          ⟨.other "formal_parameters", true, false, some .parameters, 59, 61, [
            ⟨.other "(", false, false, none, 59, 60, []⟩,
            ⟨.other ")", false, false, none, 60, 61, []⟩]⟩,
          ⟨.statementBlock, true, false, some .body, 62, 64, [
            ⟨.other "\x7b", false, false, none, 62, 63, []⟩,
            ⟨.other "\x7d", false, false, none, 63, 64, []⟩]⟩]⟩]⟩,
      ⟨.other ";", false, false, none, 64, 65, []⟩]⟩]⟩

/-- A reading of `sampleAlias` as the file at a path. -/
def aliasReading (path : String) : Context :=
  let text := "class Thing \x7b\x7d var a = module.exports = \x7b\x7d; a.m = function () \x7b\x7d;"
  ⟨Source.ofBytes path text.toUTF8, CallLimits.standard, false⟩

/-- In `lib/thing.js` the class `Thing` owns the type of the alias, so that no class is added; in
`lib/app.js` no symbol owns it, and one is. -/
theorem extract_completes_tables_sampleAlias :
    let thing := aliasReading "lib/thing.js"
    let things := Aliases.resolve thing.source sampleAlias
    let app := aliasReading "lib/app.js"
    let apps := Aliases.resolve app.source sampleAlias
    ((thing.tables things sampleAlias).symbols.toList.map fun symbol =>
        (symbol.name, symbol.kind)) =
      [("Thing", .classType), ("a", .variableBinding), ("m", .method)] ∧
    List.Forall₂ Symbol.Raised (thing.tables things sampleAlias).symbols.toList
      (thing.extract true "javascript" sampleAlias).extraction.symbols ∧
    ∃ marked made, (app.extract true "javascript" sampleAlias).extraction.symbols =
        marked ++ [made] ∧
      apps.Stands "lib/app.js" (app.tables apps sampleAlias).symbols.toList marked made := by
  intro thing things app apps
  refine ⟨by decide +kernel, ?_, ?_⟩
  · have owned : ∃ symbol ∈ (thing.tables things sampleAlias).symbols.toList,
        symbol.kind = .classType ∧ symbol.name = things.typeName := by
      decide +kernel
    obtain ⟨_, marked, extra, symbols, raised, presence, _⟩ :=
      thing.extract_completes_tables "javascript" sampleAlias
    obtain ⟨owner, member, kind, named⟩ := owned
    cases extra with
    | none => rwa [symbols, Option.toList_none, List.append_nil]
    | some made => exact absurd named ((presence.mp rfl).2 owner member (.inl kind))
  · have free : ∀ symbol ∈ (app.tables apps sampleAlias).symbols.toList,
        symbol.kind = .classType ∨ symbol.kind = .interface → symbol.name ≠ apps.typeName := by
      decide +kernel
    have aliased : apps.names ≠ [] := by decide +kernel
    obtain ⟨_, marked, extra, symbols, _, presence, stands⟩ :=
      app.extract_completes_tables "javascript" sampleAlias
    obtain ⟨made, rfl⟩ := Option.isSome_iff_exists.mp (presence.mpr ⟨aliased, free⟩)
    exact ⟨marked, made, symbols, stands made rfl⟩

/-- In `lib/app.js` the alias denotes a type without a class of its own, so that one is made. -/
theorem extract_owner_iff_sampleAlias :
    (Aliases.resolve (aliasReading "lib/app.js").source sampleAlias).names ≠ [] ∧
    (Aliases.resolve (aliasReading "lib/app.js").source sampleAlias).typeName = "App" ∧
    ∃ owner ∈ ((aliasReading "lib/app.js").extract false "javascript" sampleAlias).extraction.symbols,
      owner.isClassLike = true ∧
        owner.name = (Aliases.resolve (aliasReading "lib/app.js").source sampleAlias).typeName := by
  have aliased : (Aliases.resolve (aliasReading "lib/app.js").source sampleAlias).names ≠ [] := by
    decide +kernel
  refine ⟨aliased, by decide +kernel, (extract_owner_iff _ false "javascript" _ aliased).mpr ?_⟩
  rintro ⟨_, hidden⟩
  exact absurd hidden.owned (by decide +kernel)

/-- In `lib/thing.js` the class `Thing` is private: it keeps a class from being made, and is dropped
itself, so that the method of the alias is left without its owner. -/
theorem extract_loses_owner_sampleAlias :
    (Aliases.resolve (aliasReading "lib/thing.js").source sampleAlias).names = ["a"] ∧
    (Aliases.resolve (aliasReading "lib/thing.js").source sampleAlias).typeName = "Thing" ∧
    ((aliasReading "lib/thing.js").extract false "javascript" sampleAlias).extraction.symbols.map
        (fun symbol => (symbol.name, symbol.kind, symbol.receiver)) =
      [("a", .variableBinding, none), ("m", .method, some "Thing")] ∧
    ¬ ∃ owner ∈
        ((aliasReading "lib/thing.js").extract false "javascript" sampleAlias).extraction.symbols,
      owner.isClassLike = true ∧
        owner.name = (Aliases.resolve (aliasReading "lib/thing.js").source sampleAlias).typeName := by
  decide +kernel

end Context
end ScriptAtlas
