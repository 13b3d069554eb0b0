import ScriptAtlas.Proofs.Admission
import ScriptAtlas.Proofs.LastPass
import ScriptAtlas.Proofs.Shape

/-! The identity of symbols. Every symbol is named by a digest of its file, its first line and its
qualified name, whatever is changed in it after it was made. That text can be read back in one way
only, so as long as the digest tells the texts of a file apart, the validator reports exactly the
symbols that share their first line and their qualified name with an earlier one. -/
namespace ScriptAtlas
open SyntaxTree

private theorem colon_notMem_toString (number : Nat) : ':' ∉ (toString number).toList := by
  rw [Nat.toString_eq_repr, Nat.toList_repr]
  intro member
  have digit := Nat.isDigit_of_mem_toDigits (by decide) (by decide) member
  exact absurd digit (by decide)

private theorem toString_inj {first second : Nat} (same : toString first = toString second) :
    first = second := by
  have digits : Nat.toDigits 10 first = Nat.toDigits 10 second := by
    simpa [Nat.toString_eq_repr, Nat.toList_repr] using congrArg String.toList same
  have numbers := congrArg (Nat.ofDigitChars 10 · 0) digits
  simpa using numbers

/-- Two texts that are cut at their first mark have equal parts if they are equal. -/
private theorem eq_of_append_mark_eq {mark : Char} {left left' right right' : List Char}
    (absent : mark ∉ left) (absent' : mark ∉ left')
    (same : left ++ mark :: right = left' ++ mark :: right') : left = left' ∧ right = right' := by
  obtain ⟨lefts, rights⟩ := Text.append_inj_of_run (Text.bne_of_notMem absent)
    (Text.bne_of_notMem absent') (by simp) (by simp) same
  exact ⟨lefts, (List.cons.inj rights).2⟩

/-- The digest tells the messages of a list apart. -/
def Digest.Md5.CollisionFree (messages : List ByteArray) : Prop :=
  ∀ first ∈ messages, ∀ second ∈ messages, hex first = hex second → first = second

instance (messages : List ByteArray) : Decidable (Digest.Md5.CollisionFree messages) :=
  inferInstanceAs (Decidable (∀ first ∈ messages, ∀ second ∈ messages, _ → _))

/-- The owner and the name of a symbol, or its name alone. -/
def Symbol.qualified (symbol : Symbol) : String := Symbol.qualify symbol.receiver symbol.name

namespace Source

/-- The text whose digest is an identifier. -/
def identityText (source : Source) (qualified : String) (line : UInt32) : String :=
  source.path ++ ":" ++ toString line.toNat ++ ":" ++ qualified

/-- The message that is digested for a symbol. -/
def identityMessage (source : Source) (symbol : Symbol) : ByteArray :=
  (source.identityText symbol.qualified symbol.location.startLine).toUTF8

/-- A symbol of the file that carries the identifier of its own line and qualified name. -/
structure Identifies (source : Source) (symbol : Symbol) : Prop where
  id : symbol.id = source.identifier symbol.qualified symbol.location.startLine
  path : symbol.location.filePath = source.path

theorem Identifies.id_eq {source : Source} {symbol : Symbol} (identifies : source.Identifies symbol) :
    symbol.id = Digest.Md5.hex (source.identityMessage symbol) :=
  identifies.id

/-- In one file the text of an identity tells the line and the qualified name. -/
theorem identityText_inj {source : Source} {qualified qualified' : String} {line line' : UInt32}
    (same : source.identityText qualified line = source.identityText qualified' line') :
    line = line' ∧ qualified = qualified' := by
  have chars := congrArg String.toList same
  simp only [identityText, String.toList_append, List.append_assoc] at chars
  have tails := List.append_cancel_left (List.append_cancel_left chars)
  obtain ⟨digits, names⟩ := eq_of_append_mark_eq (colon_notMem_toString line.toNat)
    (colon_notMem_toString line'.toNat) tails
  have numbers : line.toNat = line'.toNat := toString_inj (String.toList_inj.mp digits)
  exact ⟨UInt32.toNat_inj.mp numbers, String.toList_inj.mp names⟩

theorem identityMessage_inj {source : Source} {first second : Symbol}
    (same : source.identityMessage first = source.identityMessage second) :
    first.location.startLine = second.location.startLine ∧ first.qualified = second.qualified :=
  identityText_inj (String.toByteArray_inj.mp same)

theorem symbolAt_identifies (source : Source) (cursor : Cursor) (name : String) (kind : SymbolKind)
    (options : SymbolOptions) : source.Identifies (source.symbolAt cursor name kind options) :=
  ⟨rfl, rfl⟩

end Source

namespace Source.Identifies

variable {source : Source} {symbol : Symbol}

theorem promote (identifies : source.Identifies symbol) (function : Node) :
    source.Identifies (symbol.promote function) := by
  unfold Symbol.promote
  split
  · exact ⟨identifies.id, identifies.path⟩
  · exact identifies

theorem setParent (identifies : source.Identifies symbol) (parent : String) :
    source.Identifies (symbol.setParent parent) :=
  ⟨identifies.id, identifies.path⟩

theorem publish (identifies : source.Identifies symbol) (aliases : Aliases)
    (published : List String) : source.Identifies (symbol.publish aliases published) := by
  rw [Symbol.publish_eq]
  exact ⟨identifies.id, identifies.path⟩

end Source.Identifies

namespace Context

variable {context : Context} {node : Node} {symbol : Symbol}

theorem ClassMember.identifies {owner : String} {cursor : Cursor} {declared : Declared}
    (member : context.ClassMember owner cursor declared) :
    context.source.Identifies declared.symbol where
  id := by rw [Symbol.qualified, member.receiver, member.place, member.id]
  path := by rw [member.place]; rfl

/-- However a symbol is declared, it and its members are identified by their places and names. -/
theorem Declares.identified (declares : context.Declares node symbol) :
    symbol.Throughout context.source.Identifies := by
  cases declares with
  | function anchor function name exported docComment _ _ =>
    apply Symbol.throughout_of_leaf
    · exact (Source.symbolAt_identifies _ _ _ _ _).promote function
    · simp [functionSymbol]
  | classType cursor name exported docComment _ _ =>
    apply Symbol.throughout_of_members
    · exact ⟨rfl, rfl⟩
    · intro child member
      obtain ⟨declared, present, rfl⟩ := List.mem_map.mp member
      obtain ⟨_, _, spec⟩ := classMembers_spec present
      exact Symbol.throughout_of_leaf spec.identifies spec.leaf
  | variableBinding declaration declarator kind name value? _ _ =>
    exact Symbol.throughout_of_leaf (Source.symbolAt_identifies _ _ _ _ _) rfl
  | assigned statement function docComment target _ _ _ =>
    unfold assignedSymbol
    cases target.owner with
    | some owner => exact Symbol.throughout_of_leaf (Source.symbolAt_identifies _ _ _ _ _) rfl
    | none =>
      apply Symbol.throughout_of_leaf
      · exact (Source.symbolAt_identifies _ _ _ _ _).promote function
      · simp
  | literal owner method _ _ _ =>
    exact Symbol.throughout_of_leaf (Source.symbolAt_identifies _ _ _ _ _) rfl

end Context

/-- The class of the aliases is identified by its type's name and the line where it was put. -/
theorem Aliases.syntheticClass_identified {source : Source} {symbols : List Symbol}
    (aliases : Aliases) (all : ∀ symbol ∈ symbols, symbol.Throughout source.Identifies) :
    (aliases.syntheticClass source symbols).Throughout source.Identifies := by
  apply Symbol.throughout_of_members
  · -- The identifier is computed anew, for the type's name, and the place may be taken over.
    refine ⟨rfl, ?_⟩
    rcases aliases.location_cases source.path symbols with ⟨symbol, present, same⟩ | same
    · exact (congrArg Location.filePath same).trans (all symbol present).own.path
    · exact congrArg Location.filePath same
  · intro child member
    exact all child (List.mem_filter.mp member).1

/-- Every symbol of an extraction, at any depth, carries the identifier of its line and name. -/
theorem Context.extract_identified (context : Context) (includePrivate : Bool) (language : String)
    (root : Node) :
    ∀ symbol ∈ (context.extract includePrivate language root).extraction.symbols,
      symbol.Throughout context.source.Identifies := by
  have lasting : context.Lasting root (Symbol.Throughout context.source.Identifies) :=
    .throughout (fun _ declares => declares.identified)
      (fun parent identifies => identifies.setParent parent)
      (fun aliases published identifies => identifies.publish aliases published)
  exact lasting.extract (fun _ all => all) (fun _ all => Aliases.syntheticClass_identified _ all)
    includePrivate language

/-- Two symbols that begin on one line under one qualified name. -/
def Symbol.SharesIdentity (first second : Symbol) : Prop :=
  first.location.startLine = second.location.startLine ∧ first.qualified = second.qualified

instance (first second : Symbol) : Decidable (first.SharesIdentity second) :=
  inferInstanceAs (Decidable (_ ∧ _))

/-- The items that are alike to an earlier one. -/
def repeats {α : Type} (alike : α → α → Prop) [DecidableRel alike] (items : List α) : List α :=
  (items.zipIdx.filter fun (item, place) => ∃ earlier ∈ items.take place, alike earlier item).map
    Prod.fst

theorem repeats_congr {α : Type} {alike alike' : α → α → Prop} [DecidableRel alike]
    [DecidableRel alike'] {items : List α}
    (same : ∀ first ∈ items, ∀ second ∈ items, alike first second ↔ alike' first second) :
    repeats alike items = repeats alike' items := by
  unfold repeats
  congr 1
  apply List.filter_congr
  intro entry member
  have present : entry.1 ∈ items := List.fst_mem_of_mem_zipIdx member
  rw [decide_eq_decide]
  apply exists_congr
  intro earlier
  apply and_congr_right
  intro before
  exact same earlier (List.mem_of_mem_take before) entry.1 present

namespace Violation

/-- The report of a repeated identifier. -/
def isDuplicate : Violation → Bool
  | .duplicateId _ _ => true
  | _ => false

theorem ofSymbol_no_duplicate (symbol : Symbol) (isMember : Bool) :
    (ofSymbol symbol isMember).filter isDuplicate = [] := by
  rw [List.filter_eq_nil_iff]
  intro violation member
  simp only [ofSymbol, List.mem_append, List.mem_map] at member
  rcases member with ((((named | start) | stop) | owns) | belongs) | ⟨_, _, rfl⟩
  all_goals grind [isDuplicate]

/-- A symbol and its members, taken by themselves, repeat nothing. -/
theorem ofTree_no_duplicate (isMember : Bool) (symbol : Symbol) :
    (ofTree isMember symbol).filter isDuplicate = [] := by
  refine ofTree.induct (fun isMember symbol => (ofTree isMember symbol).filter isDuplicate = [])
    (fun members => (ofMembers members).filter isDuplicate = []) ?_ ?_ ?_ isMember symbol
  · intro isMember id name kind location signature docComment exported receiver children calls
      metadata members
    rw [ofTree_eq, List.filter_append, ofSymbol_no_duplicate, members, List.append_nil]
  · rfl
  · intro member rest first later
    rw [ofMembers, List.filter_append, first, later, List.append_nil]

/-- After some symbols, the repeated identifiers that are reported of the rest are those of the
symbols that have the identifier of an earlier one. -/
theorem ofSymbols_duplicates (before after : List Symbol) :
    (ofSymbols (before.map (·.id)).reverse after).filter isDuplicate =
      ((after.zipIdx before.length).filter fun (symbol, place) =>
        ∃ earlier ∈ (before ++ after).take place, earlier.id = symbol.id).map
          fun (symbol, _) => .duplicateId symbol.id symbol.name := by
  induction after generalizing before with
  | nil => rfl
  | cons symbol rest ih =>
    -- The identifiers seen before the rest are those seen before the symbol, and then its own.
    have later := ih (before ++ [symbol])
    simp only [List.map_append, List.map_cons, List.map_nil, List.reverse_append,
      List.reverse_singleton, List.singleton_append, List.append_assoc, List.length_append,
      List.length_singleton] at later
    rw [ofSymbols, List.filter_append, List.filter_append, ofTree_no_duplicate, List.append_nil,
      later, List.zipIdx_cons, List.filter_cons]
    by_cases seen : ∃ earlier ∈ before, earlier.id = symbol.id
    · simp [seen, List.filter_cons, isDuplicate]
    · simp [seen]

/-- The validator reports one repeated identifier for each symbol that has the identifier of an
earlier one, and no other. -/
theorem violations_duplicates (symbols : List Symbol) (imports : List Import) :
    (violations symbols imports).filter isDuplicate =
      (repeats (fun first second : Symbol => first.id = second.id) symbols).map
        fun symbol => .duplicateId symbol.id symbol.name := by
  have inImports : (imports.flatMap ofImport).filter isDuplicate = [] := by
    rw [List.filter_eq_nil_iff]
    intro violation member
    obtain ⟨dependency, _, found⟩ := List.mem_flatMap.mp member
    unfold ofImport at found
    split at found
    · obtain rfl := List.mem_singleton.mp found
      simp [isDuplicate]
    · simp at found
  have inSymbols := ofSymbols_duplicates [] symbols
  rw [violations, List.filter_append, inImports, List.append_nil]
  simpa [repeats, Function.comp_def] using inSymbols

end Violation

theorem Source.sharesIdentity_iff {source : Source} {symbols : List Symbol}
    (identified : ∀ symbol ∈ symbols, source.Identifies symbol)
    (apart : Digest.Md5.CollisionFree (symbols.map source.identityMessage)) :
    ∀ first ∈ symbols, ∀ second ∈ symbols, first.id = second.id ↔ first.SharesIdentity second := by
  intro first member second member'
  have id := identified first member
  have id' := identified second member'
  constructor
  · intro same
    rw [id.id_eq, id'.id_eq] at same
    exact identityMessage_inj
      (apart _ (List.mem_map_of_mem member) _ (List.mem_map_of_mem member') same)
  · rintro ⟨line, name⟩
    rw [id.id, id'.id, line, name]

/-- Every symbol of a file, at any depth, is identified by its first line and its qualified name and
placed in the file. As long as the digest tells the symbols at the top level apart, the diagnostics
of a report hold, in the order of the symbols, one repeated identifier for each symbol that shares
line and qualified name with an earlier one, and none for the others. -/
theorem extractFile_identities (config : Config) (cancelled : Bool) (language path : String)
    (bytes : ByteArray) (root : Node) :
    let source := Source.ofBytes path bytes
    let context : Context := ⟨source, config.callLimits, cancelled⟩
    (∀ symbol ∈ (context.extract config.includePrivate language root).extraction.symbols,
      ∀ part : Symbol, part.Within symbol →
        part.id = source.identifier part.qualified part.location.startLine ∧
          part.location.filePath = Path.unix path) ∧
    ∀ report, (extractFile config cancelled ⟨path, bytes, some root⟩).result = .ok report →
      Digest.Md5.CollisionFree (report.symbols.map source.identityMessage) →
        report.errors = context.treeErrors root ++
          (violations report.symbols report.imports).map (Violation.message path) ∧
        (violations report.symbols report.imports).filter Violation.isDuplicate =
          (repeats Symbol.SharesIdentity report.symbols).map fun symbol =>
            .duplicateId symbol.id symbol.name := by
  intro source context
  constructor
  · intro symbol member part inside
    have identifies := context.extract_identified _ _ root symbol member part inside
    exact ⟨identifies.id, identifies.path⟩
  · intro report answered apart
    obtain ⟨⟨spoken, read⟩, passed, rfl⟩ := extractFile_eq_ok answered
    obtain ⟨_, _, same⟩ := InputFile.admission_eq_ok passed
    obtain rfl := Option.some.inj same
    refine ⟨rfl, ?_⟩
    have identified : ∀ symbol ∈
        (InputFile.report ⟨path, bytes, some root⟩ config ⟨spoken, root⟩).1.symbols,
        source.Identifies symbol := by
      intro symbol member
      exact (Context.extract_identified _ _ spoken.name root symbol member).own
    rw [Violation.violations_duplicates, repeats_congr (source.sharesIdentity_iff identified apart)]

/-- The tree of `var Router = module.exports = function () {}; var b;`. -/
def sampleRouter : Node :=
  ⟨.program, true, false, none, 0, 52, [
    ⟨.variableDeclaration, true, false, none, 0, 45, [
      ⟨.varToken, false, false, none, 0, 3, []⟩,
      ⟨.variableDeclarator, true, false, none, 4, 44, [
        ⟨.identifier, true, false, some .name, 4, 10, []⟩,
        ⟨.other "=", false, false, none, 11, 12, []⟩,
        ⟨.assignmentExpression, true, false, some .value, 13, 44, [
          ⟨.memberExpression, true, false, some .left, 13, 27, [
            ⟨.identifier, true, false, some .object, 13, 19, []⟩,
            ⟨.other ".", false, false, none, 19, 20, []⟩,
            ⟨.propertyIdentifier, true, false, some .property, 20, 27, []⟩]⟩,
          ⟨.other "=", false, false, none, 28, 29, []⟩,
          ⟨.functionExpression, true, false, some .right, 30, 44, [
            ⟨.other "function", false, false, none, 30, 38, []⟩,
            ⟨.other "formal_parameters", true, false, some .parameters, 39, 41, [
              ⟨.other "(", false, false, none, 39, 40, []⟩,
              ⟨.other ")", false, false, none, 40, 41, []⟩]⟩,
            ⟨.statementBlock, true, false, some .body, 42, 44, [
              ⟨.other "\x7b", false, false, none, 42, 43, []⟩,
              ⟨.other "\x7d", false, false, none, 43, 44, []⟩]⟩]⟩]⟩]⟩,
      ⟨.other ";", false, false, none, 44, 45, []⟩]⟩,
    ⟨.variableDeclaration, true, false, none, 46, 52, [
      ⟨.varToken, false, false, none, 46, 49, []⟩,
      ⟨.variableDeclarator, true, false, none, 50, 51, [
        ⟨.identifier, true, false, some .name, 50, 51, []⟩]⟩,
      ⟨.other ";", false, false, none, 51, 52, []⟩]⟩]⟩

def routerBytes : ByteArray :=
  "var Router = module.exports = function () \x7b\x7d; var b;".toUTF8

/-- In `lib/router.js` the class made for the alias has the line and the name of the function, and is
reported for that. -/
theorem extractFile_identities_sampleRouter :
    ∃ report,
      (extractFile {} false ⟨"lib/router.js", routerBytes, some sampleRouter⟩).result = .ok report ∧
      Digest.Md5.CollisionFree
        (report.symbols.map (Source.ofBytes "lib/router.js" routerBytes).identityMessage) ∧
      report.symbols.map (fun symbol => (symbol.name, symbol.kind)) =
        [("Router", .function), ("b", .variableBinding), ("Router", .classType)] ∧
      (repeats Symbol.SharesIdentity report.symbols).map (·.kind) = [.classType] ∧
      (violations report.symbols report.imports).filter Violation.isDuplicate =
        (repeats Symbol.SharesIdentity report.symbols).map fun symbol =>
          .duplicateId symbol.id symbol.name := by
  let file : InputFile := ⟨"lib/router.js", routerBytes, some sampleRouter⟩
  have answered : (extractFile {} false file).result =
      .ok (file.report {} ⟨.javascript, sampleRouter⟩).1 := by
    have small : routerBytes.size ≤ 5 * 1024 * 1024 := by decide +kernel
    have valid : Text.Utf8.fault? routerBytes = none := by decide +kernel
    have known : Path.extension? "lib/router.js" = some "js" := by decide +kernel
    have sound : file.Sound {} false := ⟨rfl, small, valid⟩
    rw [extractFile_result, sound.admitted]
    simp only [file, Language.ofPath, known]
    rfl
  have apart : Digest.Md5.CollisionFree
      ((file.report {} ⟨.javascript, sampleRouter⟩).1.symbols.map
        (Source.ofBytes "lib/router.js" routerBytes).identityMessage) := by
    decide +kernel
  exact ⟨_, answered, apart, by decide +kernel, by decide +kernel,
    ((extractFile_identities {} false "javascript" _ _ _).2 _ answered apart).2⟩

end ScriptAtlas
