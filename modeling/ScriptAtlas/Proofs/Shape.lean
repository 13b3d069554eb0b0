import ScriptAtlas.Proofs.Members
import ScriptAtlas.Validation

/-! The shape of every extracted symbol. Symbols are made regular, stay so while edges, exports and
the class of the aliases are added, and leave the validator little to report. -/
namespace ScriptAtlas
open SyntaxTree

namespace Source

theorem breaksBefore_mono (source : Source) {first second : Nat} (before : first ≤ second) :
    source.breaksBefore first <+: source.breaksBefore second := by
  unfold breaksBefore
  induction source.lineBreaks with
  | nil => simp
  | cons lineBreak rest ih =>
    by_cases passed : lineBreak < first
    · have alsoPassed : lineBreak < second := Nat.lt_of_lt_of_le passed before
      simp [passed, alsoPassed, ih]
    · simp [passed]

theorem row_le_row (source : Source) {first second : Nat} (before : first ≤ second) :
    source.row first ≤ source.row second :=
  (source.breaksBefore_mono before).length_le

theorem row_le_size (source : Source) (offset : Nat) : source.row offset ≤ source.bytes.size := by
  have taken := (List.takeWhile_prefix (l := source.lineBreaks) (· < offset)).length_le
  have broken : source.lineBreaks.length ≤ source.bytes.size := by
    rw [source.lineBreaks_eq, lineBreaksOf]
    simpa using List.length_filter_le (fun offset => source.bytes[offset]? == some 10)
      (List.range source.bytes.size)
  exact Nat.le_trans taken broken

end Source

/-- A range that begins on a line and does not end before it. -/
structure Location.Proper (location : Location) : Prop where
  start : 1 ≤ location.startLine
  stop : location.startLine ≤ location.endLine

/-- The lines of a file that is not too large count from one, and a node ends no earlier than it
starts. -/
theorem Source.location_proper {source : Source} {node : Node}
    (small : source.bytes.size < UInt32.size - 1) (ordered : node.start ≤ node.stop) :
    (source.location node).Proper := by
  have width : UInt32.size = 4294967296 := rfl
  have rows := source.row_le_row ordered
  have last := source.row_le_size node.stop
  have line (row : Nat) (fits : row ≤ source.bytes.size) :
      (row + 1).toUInt32.toNat = row + 1 := by
    rw [Nat.toUInt32, UInt32.toNat_ofNat', Nat.mod_eq_of_lt (by omega)]
  constructor
  · rw [UInt32.le_iff_toNat_le, Source.location, line _ (by omega)]
    simp
  · rw [UInt32.le_iff_toNat_le, Source.location, line _ (by omega), line _ last]
    omega

namespace Symbol

/-- What holds of every symbol of an extraction, at the top level or as a member. -/
structure Regular (sites : Nat) (symbol : Symbol) : Prop where
  kind : symbol.kind ∈ [.function, .classType, .method, .field, .variableBinding, .constant,
    .importBinding]
  receiver : symbol.receiver.isSome = true ↔ symbol.kind = .method ∨ symbol.kind = .field
  lines : symbol.location.Proper
  owns : symbol.children ≠ [] → symbol.kind = .classType
  calls : ∀ call ∈ symbol.calls, call.Valid
  bounded : symbol.calls.length ≤ sites

/-- A member of an owner: it has a name and no members of its own, and is hidden if private. -/
structure RegularMember (sites : Nat) (owner : String) (symbol : Symbol) : Prop
    extends Regular sites symbol where
  owner : symbol.receiver = some owner
  leaf : symbol.children = []
  access : symbol.exported = false ↔
    symbol.metadata.bind (·.accessModifier) = some "private"
  named : symbol.name ≠ ""

/-- A symbol at the top level: not a field, and every member belongs to it. -/
structure WellFormed (sites : Nat) (symbol : Symbol) : Prop extends Regular sites symbol where
  topLevel : symbol.kind ≠ .field
  members : ∀ child ∈ symbol.children, child.RegularMember sites symbol.name

/-- A symbol of the tables. One that belongs to a type outside of any class is public and has a
name, so that it may become a member later. -/
structure Walked (sites : Nat) (symbol : Symbol) : Prop extends WellFormed sites symbol where
  attached : symbol.receiver.isSome = true →
    symbol.exported = true ∧ symbol.metadata.bind (·.accessModifier) = none ∧ symbol.name ≠ ""

variable {sites : Nat} {symbol : Symbol}

theorem accessModifier_details (symbol : Symbol) :
    symbol.details.accessModifier = symbol.metadata.bind (·.accessModifier) := by
  unfold details
  cases symbol.metadata <;> rfl

theorem Walked.setParent (walked : symbol.Walked sites) (parent : String) :
    (symbol.setParent parent).Walked sites where
  toRegular := { walked.toRegular with }
  topLevel := walked.topLevel
  members := walked.members
  attached := fun some => by
    obtain ⟨exported, access, named⟩ := walked.attached some
    refine ⟨exported, ?_, named⟩
    simpa [Symbol.setParent, accessModifier_details] using access

theorem Walked.publish (walked : symbol.Walked sites) (aliases : Aliases)
    (published : List String) : (symbol.publish aliases published).Walked sites := by
  unfold Symbol.publish
  split
  · exact {
      toRegular := { walked.toRegular with }
      topLevel := walked.topLevel
      members := walked.members
      attached := fun some => ⟨rfl, (walked.attached some).2⟩ }
  · exact walked

/-- A symbol of the tables that belongs to a type can serve as a member of it. -/
theorem Walked.regularMember (walked : symbol.Walked sites) {owner : String}
    (belongs : symbol.receiver = some owner) : symbol.RegularMember sites owner := by
  have attached := walked.attached (by simp [belongs])
  have notClass : symbol.kind ≠ .classType := by
    rcases walked.receiver.mp (by simp [belongs]) with kind | kind <;> simp [kind]
  exact {
    toRegular := walked.toRegular
    owner := belongs
    leaf := by
      by_contra children
      exact notClass (walked.owns children)
    access := by simp [attached.1, attached.2.1]
    named := attached.2.2 }

/-- A function that is found to be a constructor changes its kind and nothing else of its shape. -/
theorem Walked.promote (walked : symbol.Walked sites) (function : Node)
    (kind : symbol.kind = .function) : (symbol.promote function).Walked sites := by
  have free : symbol.receiver.isSome = false := by
    rw [Bool.eq_false_iff]
    intro some
    rcases walked.receiver.mp some with other | other <;> simp [kind] at other
  unfold Symbol.promote
  split
  · exact {
      kind := by simp
      receiver := by simp [free]
      lines := walked.lines
      owns := fun _ => rfl
      calls := walked.calls
      bounded := walked.bounded
      topLevel := by simp
      members := walked.members
      attached := by simp [free] }
  · exact walked

end Symbol

namespace Context

variable {context : Context} {node : Node} {symbol : Symbol}

theorem symbolAt_walked {source : Source} {cursor : Cursor} {name : String} {kind : SymbolKind}
    {options : Source.SymbolOptions} {sites : Nat} (lines : (source.location cursor.node).Proper)
    (known : kind ∈ [.function, .classType, .method, .variableBinding, .constant, .importBinding])
    (receiver : options.receiver.isSome = true ↔ kind = .method)
    (calls : ∀ call ∈ options.calls, call.Valid) (bounded : options.calls.length ≤ sites)
    (attached : options.receiver.isSome = true → options.exported = true ∧
      options.metadata.bind (·.accessModifier) = none ∧ name ≠ "") :
    (source.symbolAt cursor name kind options).Walked sites := by
  have topLevel : kind ≠ .field := by
    rintro rfl
    simp at known
  exact {
    kind := by
      simp only [List.mem_cons, List.not_mem_nil, or_false, Source.symbolAt_kind] at known ⊢
      tauto
    receiver := by simpa [topLevel] using receiver
    lines
    owns := by simp
    calls
    bounded
    topLevel
    members := by simp
    attached }

/-- The members of a class are regular members of it. -/
theorem ClassMember.regularMember {owner : String} {cursor : Cursor} {declared : Declared}
    (member : context.ClassMember owner cursor declared)
    (lines : (context.source.location cursor.node).Proper) :
    declared.symbol.RegularMember context.limits.sites owner where
  kind := by rcases member.kind with kind | kind <;> simp [kind]
  receiver := by simp [member.receiver, member.kind]
  lines := by
    rw [member.place]
    exact lines
  owns := by simp [member.leaf]
  calls := by
    rcases member.body with ⟨none, _⟩ | ⟨function, _, calls, _⟩
    · simp [none]
    · rw [calls]
      exact fun _ => bodyOf_valid
  bounded := by
    rcases member.body with ⟨none, _⟩ | ⟨function, _, calls, _⟩
    · simp [none]
    · rw [calls]
      exact context.bodyOf_length_le function
  owner := member.receiver
  leaf := member.leaf
  access := member.access
  named := member.named

/-- However a symbol is declared, it has the shape that the tables ask for. -/
theorem Declares.walked (declares : context.Declares node symbol)
    (small : context.source.bytes.size < UInt32.size - 1)
    (ordered : ∀ part ∈ node.preorder, part.start ≤ part.stop) :
    symbol.Walked context.limits.sites := by
  have lines {part : Node} (inside : part.Within node) : (context.source.location part).Proper :=
    Source.location_proper small (ordered part inside.mem)
  cases declares with
  | function anchor function name exported docComment place _ =>
    exact (symbolAt_walked (lines place) (by simp) (by simp) (fun _ => bodyOf_valid)
      (context.bodyOf_length_le function) (by simp)).promote function rfl
  | classType cursor name exported docComment place named =>
    exact {
      kind := by simp [classSymbol]
      receiver := by simp [classSymbol]
      lines := lines place
      owns := fun _ => rfl
      calls := by simp [classSymbol]
      bounded := by simp [classSymbol]
      topLevel := by simp [classSymbol]
      members := by
        intro child member
        obtain ⟨declared, present, rfl⟩ := List.mem_map.mp member
        obtain ⟨spot, inside, spec⟩ := classMembers_spec present
        exact spec.regularMember (lines (inside.trans place))
      attached := by simp [classSymbol] }
  | variableBinding declaration declarator kind name value? place binds =>
    refine symbolAt_walked (lines place) ?_ ?_ (by simp) (by simp) (by simp)
    · rcases binds with rfl | rfl | rfl <;> simp
    · rcases binds with rfl | rfl | rfl <;> simp
  | assigned statement function docComment target place _ named =>
    unfold assignedSymbol
    cases owner : target.owner with
    | some owner =>
      exact symbolAt_walked (lines place) (by simp) (by simp) (fun _ => bodyOf_valid)
        (context.bodyOf_length_le function) (fun _ => ⟨rfl, rfl, named⟩)
    | none =>
      exact (symbolAt_walked (lines place) (by simp) (by simp) (fun _ => bodyOf_valid)
        (context.bodyOf_length_le function) (by simp)).promote function rfl
  | literal owner method place _ named =>
    exact symbolAt_walked (lines place) (by simp) (by simp)
      (fun _ => bodyOf_valid) (context.bodyOf_length_le method.function)
      (fun _ => ⟨rfl, rfl, named⟩)

/-- Every symbol that the walk leaves in the tables is regular. -/
theorem tables_walked (context : Context) (aliases : Aliases) (root : Node)
    (small : context.source.bytes.size < UInt32.size - 1)
    (ordered : ∀ node ∈ root.preorder, node.start ≤ node.stop) :
    ∀ symbol ∈ (context.tables aliases root).symbols.toList,
      symbol.Walked context.limits.sites := by
  have lasting : context.Lasting root (Symbol.Walked context.limits.sites) := {
    declared := fun inside declares => declares.walked small fun part present =>
      ordered part (inside.subset present)
    linked := fun parent walked => walked.setParent parent
    published := fun aliases published walked => walked.publish aliases published }
  exact lasting.tables aliases

end Context

namespace Aliases

variable {aliases : Aliases} {source : Source} {symbols : List Symbol} {sites : Nat}

theorem location_proper (walked : ∀ symbol ∈ symbols, symbol.Walked sites) :
    (aliases.location source.path symbols).Proper := by
  rcases aliases.location_cases source.path symbols with ⟨symbol, present, same⟩ | same
  · rw [same]
    exact (walked symbol present).lines
  · rw [same]
    exact ⟨by simp, by simp⟩

/-- The class of the aliases takes methods of the tables for its members. -/
theorem syntheticClass_wellFormed (walked : ∀ symbol ∈ symbols, symbol.Walked sites) :
    (aliases.syntheticClass source symbols).WellFormed sites where
  kind := by simp [syntheticClass]
  receiver := by simp [syntheticClass]
  lines := location_proper walked
  owns := fun _ => rfl
  calls := by simp [syntheticClass]
  bounded := by simp [syntheticClass]
  topLevel := by simp [syntheticClass]
  members := by
    intro child member
    obtain ⟨present, belongs⟩ := List.mem_filter.mp member
    exact (walked child present).regularMember (by simpa [syntheticClass] using belongs)

end Aliases

/-- The last pass keeps every symbol in shape. -/
theorem completeSymbols_wellFormed {source : Source} {aliases : Aliases} {published : List String}
    {symbols : List Symbol} {sites : Nat} (walked : ∀ symbol ∈ symbols, symbol.Walked sites) :
    ∀ symbol ∈ completeSymbols source aliases published symbols, symbol.WellFormed sites := by
  have marked : ∀ symbol ∈ symbols.map (·.publish aliases published), symbol.Walked sites := by
    intro symbol member
    obtain ⟨old, present, rfl⟩ := List.mem_map.mp member
    exact (walked old present).publish aliases published
  intro symbol member
  rcases List.mem_append.mp member with old | new
  · exact (marked symbol old).toWellFormed
  · unfold Aliases.synthetic? at new
    split at new
    · simp at new
    · obtain rfl := List.mem_singleton.mp new
      exact Aliases.syntheticClass_wellFormed marked

namespace Violation

theorem ofTree_eq (symbol : Symbol) (isMember : Bool) :
    ofTree isMember symbol = ofSymbol symbol isMember ++ ofMembers symbol.children := by
  cases symbol; rfl

/-- A regular symbol can only lack a name. -/
theorem ofSymbol_regular {sites : Nat} {symbol : Symbol} {isMember : Bool}
    (regular : symbol.Regular sites) (belongs : isMember = true → symbol.receiver.isSome = true) :
    ofSymbol symbol isMember =
      if symbol.name.isEmpty then [.emptyName symbol.location.startLine] else [] := by
  have start : ¬ symbol.location.startLine < 1 := UInt32.not_lt.mpr regular.lines.start
  have stop : ¬ symbol.location.endLine < symbol.location.startLine :=
    UInt32.not_lt.mpr regular.lines.stop
  have owns : (!symbol.children.isEmpty && symbol.kind != .classType) = false := by
    by_cases children : symbol.children = []
    · simp [children]
    · simp [regular.owns children]
  have member : (isMember && symbol.receiver.isNone) = false := by
    cases isMember with
    | false => rfl
    | true => simpa using belongs rfl
  have targets : symbol.calls.filter (·.target.isEmpty) = [] := by
    apply List.filter_eq_nil_iff.mpr
    intro call present
    simpa using (regular.calls call present).target
  simp [ofSymbol, start, stop, owns, member, targets]

theorem ofMembers_regular {sites : Nat} {owner : String} {members : List Symbol}
    (regular : ∀ member ∈ members, member.RegularMember sites owner) : ofMembers members = [] := by
  induction members with
  | nil => rfl
  | cons member rest ih =>
    have first := regular member (by simp)
    have alone : ofTree true member = [] := by
      rw [ofTree_eq, ofSymbol_regular first.toRegular (by simp [first.owner]), first.leaf]
      simp [first.named, ofMembers]
    rw [ofMembers, alone, ih fun other present => regular other (by simp [present])]
    rfl

theorem ofTree_wellFormed {sites : Nat} {symbol : Symbol} (wellFormed : symbol.WellFormed sites) :
    ofTree false symbol =
      if symbol.name.isEmpty then [.emptyName symbol.location.startLine] else [] := by
  rw [ofTree_eq, ofSymbol_regular wellFormed.toRegular (by simp),
    ofMembers_regular wellFormed.members, List.append_nil]

/-- What is left to report of well-formed symbols: repeated identifiers and missing names. -/
theorem ofSymbols_wellFormed {sites : Nat} {symbols : List Symbol} {violation : Violation}
    (wellFormed : ∀ symbol ∈ symbols, symbol.WellFormed sites) (seen : List String)
    (member : violation ∈ ofSymbols seen symbols) :
    (∃ symbol ∈ symbols, violation = .duplicateId symbol.id symbol.name) ∨
      ∃ symbol ∈ symbols, symbol.name = "" ∧ violation = .emptyName symbol.location.startLine := by
  induction symbols generalizing seen with
  | nil => simp [ofSymbols] at member
  | cons symbol rest ih =>
    rw [ofSymbols, ofTree_wellFormed (wellFormed symbol (by simp))] at member
    rcases List.mem_append.mp member with own | later
    · rcases List.mem_append.mp own with repeated | unnamed
      · split at repeated
        · exact .inl ⟨symbol, by simp, List.mem_singleton.mp repeated⟩
        · simp at repeated
      · split at unnamed
        · rename_i empty
          exact .inr ⟨symbol, by simp, by simpa using empty, List.mem_singleton.mp unnamed⟩
        · simp at unnamed
    · rcases ih (fun other present => wellFormed other (by simp [present])) _ later with
        ⟨other, present, same⟩ | ⟨other, present, empty, same⟩
      · exact .inl ⟨other, by simp [present], same⟩
      · exact .inr ⟨other, by simp [present], empty, same⟩

end Violation

theorem validate_wellFormed {sites : Nat} {symbols : List Symbol} {imports : List Import}
    {path message : String} (wellFormed : ∀ symbol ∈ symbols, symbol.WellFormed sites)
    (member : message ∈ validate path symbols imports) :
    (∃ symbol ∈ symbols,
      message = (Violation.duplicateId symbol.id symbol.name).message path) ∨
    (∃ dependency ∈ imports, dependency.path = "" ∧
      message = (Violation.emptyPath dependency.location.startLine).message path) ∨
    ∃ symbol ∈ symbols, symbol.name = "" ∧
      message = (Violation.emptyName symbol.location.startLine).message path := by
  obtain ⟨violation, found, rfl⟩ := List.mem_map.mp member
  rcases List.mem_append.mp found with inSymbols | inImports
  · rcases Violation.ofSymbols_wellFormed wellFormed [] inSymbols with
      ⟨symbol, present, rfl⟩ | ⟨symbol, present, empty, rfl⟩
    · exact .inl ⟨symbol, present, rfl⟩
    · exact .inr (.inr ⟨symbol, present, empty, rfl⟩)
  · obtain ⟨dependency, present, found⟩ := List.mem_flatMap.mp inImports
    unfold Violation.ofImport at found
    split at found
    · rename_i empty
      obtain rfl := List.mem_singleton.mp found
      exact .inr (.inl ⟨dependency, present, by simpa using empty, rfl⟩)
    · simp at found

/-- Every extraction is well formed: each symbol and each of its members has a proper kind, place,
receiver and calls, within the limits. So the validator can only find repeated identifiers, imports
without a path, and symbols at the top level without a name. -/
theorem Context.extract_wellFormed (context : Context) (includePrivate : Bool) (language : String)
    (root : Node) (small : context.source.bytes.size < UInt32.size - 1)
    (ordered : ∀ node ∈ root.preorder, node.start ≤ node.stop) :
    (∀ symbol ∈ (context.extract includePrivate language root).extraction.symbols,
      symbol.WellFormed context.limits.sites) ∧
    ∀ path, ∀ message ∈ validate path
        (context.extract includePrivate language root).extraction.symbols
        (context.extract includePrivate language root).extraction.imports,
      (∃ symbol ∈ (context.extract includePrivate language root).extraction.symbols,
        message = (Violation.duplicateId symbol.id symbol.name).message path) ∨
      (∃ dependency ∈ (context.extract includePrivate language root).extraction.imports,
        dependency.path = "" ∧
          message = (Violation.emptyPath dependency.location.startLine).message path) ∨
      ∃ symbol ∈ (context.extract includePrivate language root).extraction.symbols,
        symbol.name = "" ∧
          message = (Violation.emptyName symbol.location.startLine).message path := by
  have wellFormed : ∀ symbol ∈ (context.extract includePrivate language root).extraction.symbols,
      symbol.WellFormed context.limits.sites := by
    intro symbol member
    have walked := context.tables_walked (Aliases.resolve context.source root) root small ordered
    exact completeSymbols_wellFormed walked symbol (mem_of_mem_visibleSymbols member)
  exact ⟨wellFormed, fun path message member => validate_wellFormed wellFormed member⟩

/-- The tree of `class A{m(){f()}}`. -/
def sampleClass : Node :=
  ⟨.program, true, false, none, 0, 17, [
    ⟨.classDeclaration, true, false, none, 0, 17, [
      ⟨.classExpression, false, false, none, 0, 5, []⟩,
      ⟨.identifier, true, false, some .name, 6, 7, []⟩,
      ⟨.classBody, true, false, some .body, 7, 17, [
        ⟨.methodDefinition, true, false, none, 8, 16, [
          ⟨.propertyIdentifier, true, false, some .name, 8, 9, []⟩,
          ⟨.other "formal_parameters", true, false, some .parameters, 9, 11, []⟩,
          ⟨.statementBlock, true, false, some .body, 11, 16, [
            ⟨.expressionStatement, true, false, none, 12, 15, [
              ⟨.callExpression, true, false, none, 12, 15, [
                ⟨.identifier, true, false, some .callee, 12, 13, []⟩,
                ⟨.arguments, true, false, some .arguments, 13, 15, []⟩]⟩]⟩]⟩]⟩]⟩]⟩]⟩

def sampleContext : Context :=
  ⟨Source.ofBytes "lib/a.js" "class A\x7bm()\x7bf()\x7d\x7d".toUTF8, CallLimits.standard, false⟩

theorem Context.extract_wellFormed_sampleClass :
    sampleContext.source.bytes.size < UInt32.size - 1 ∧
    (∀ node ∈ sampleClass.preorder, node.start ≤ node.stop) ∧
    (sampleContext.extract true "javascript" sampleClass).extraction.symbols.map
        (fun symbol => (symbol.name, symbol.children.map fun child =>
          (child.name, child.calls.map (·.target)))) = [("A", [("m", ["f"])])] ∧
    ∀ symbol ∈ (sampleContext.extract true "javascript" sampleClass).extraction.symbols,
      symbol.WellFormed sampleContext.limits.sites := by
  have small : sampleContext.source.bytes.size < UInt32.size - 1 := by decide +kernel
  have ordered : ∀ node ∈ sampleClass.preorder, node.start ≤ node.stop := by decide
  exact ⟨small, ordered, by decide +kernel,
    (extract_wellFormed sampleContext true "javascript" sampleClass small ordered).1⟩

end ScriptAtlas
