import ScriptAtlas.Proofs.LastPass
import ScriptAtlas.Proofs.Members

/-! The summary of methods in the metadata of a symbol. It is written twice, for a class that is
declared and for the class made for the aliases, by rules that are not the same; both times it
tells the methods among the members, and no later change of metadata touches it. -/
namespace ScriptAtlas
open SyntaxTree

namespace Symbol

/-- The methods in the metadata are those of the members, in order and without constructors, and
nothing has members but no metadata. -/
structure Summarized (symbol : Symbol) : Prop where
  methods : symbol.details.methods =
    (symbol.children.filter fun member =>
      member.kind == .method && !member.details.isConstructor).map methodSignature
  detailed : symbol.children ≠ [] → symbol.metadata.isSome = true

variable {symbol : Symbol}

theorem summarized_of_leaf (leaf : symbol.children = []) (bare : symbol.details.methods = []) :
    symbol.Summarized where
  methods := by rw [bare, leaf]; rfl
  detailed := by simp [leaf]

theorem Summarized.setParent (summarized : symbol.Summarized) (parent : String) :
    (symbol.setParent parent).Summarized where
  methods := summarized.methods
  detailed := fun _ => rfl

theorem Summarized.publish (summarized : symbol.Summarized) (aliases : Aliases)
    (published : List String) : (symbol.publish aliases published).Summarized := by
  rw [publish_eq]
  exact ⟨summarized.methods, summarized.detailed⟩

theorem promote_methods (symbol : Symbol) (function : Node) :
    (symbol.promote function).details.methods = symbol.details.methods := by
  unfold promote
  split <;> rfl

end Symbol

namespace Context

variable {context : Context} {node : Node} {symbol : Symbol}

/-- However a symbol is declared, it and its members are summarized. -/
theorem Declares.summarized (declares : context.Declares node symbol) :
    symbol.Throughout Symbol.Summarized := by
  cases declares with
  | function anchor function name exported docComment _ _ =>
    have leaf : (context.functionSymbol anchor function name exported
        docComment).symbol.children = [] := by simp [functionSymbol]
    exact Symbol.throughout_of_leaf
      (Symbol.summarized_of_leaf leaf (Symbol.promote_methods _ function)) leaf
  | classType cursor name exported docComment _ _ =>
    apply Symbol.throughout_of_members
    · exact ⟨rfl, fun _ => rfl⟩
    · intro child member
      obtain ⟨declared, present, rfl⟩ := List.mem_map.mp member
      obtain ⟨_, _, spec⟩ := classMembers_spec present
      exact Symbol.throughout_of_leaf (Symbol.summarized_of_leaf spec.leaf spec.methods) spec.leaf
  | variableBinding => exact Symbol.throughout_of_leaf (Symbol.summarized_of_leaf rfl rfl) rfl
  | assigned statement function docComment target _ _ _ =>
    unfold assignedSymbol
    cases target.owner with
    | some owner => exact Symbol.throughout_of_leaf (Symbol.summarized_of_leaf rfl rfl) rfl
    | none =>
      have leaf (symbol : Symbol) (free : symbol.children = []) :
          (symbol.promote function).children = [] := by simp [free]
      exact Symbol.throughout_of_leaf
        (Symbol.summarized_of_leaf (leaf _ rfl) (Symbol.promote_methods _ function)) (leaf _ rfl)
  | literal => exact Symbol.throughout_of_leaf (Symbol.summarized_of_leaf rfl rfl) rfl

/-- What belongs to a type outside of any class is never taken for a constructor. -/
theorem Declares.attached_not_constructor (declares : context.Declares node symbol)
    (belongs : symbol.receiver.isSome = true) : symbol.details.isConstructor = false := by
  cases declares with
  | function => simp [functionSymbol] at belongs
  | classType => simp [classSymbol] at belongs
  | variableBinding => simp [boundSymbol] at belongs
  | assigned statement function docComment target _ _ _ =>
    unfold assignedSymbol at belongs ⊢
    cases owner : target.owner with
    | some owner => rfl
    | none => simp [owner] at belongs
  | literal => rfl

end Context

/-- The class of the aliases tells all methods among its members, and none of them is taken for a
constructor. -/
theorem Aliases.syntheticClass_summarized {source : Source} {symbols : List Symbol}
    (aliases : Aliases)
    (attached : ∀ symbol ∈ symbols, symbol.receiver.isSome = true →
      symbol.details.isConstructor = false) :
    (aliases.syntheticClass source symbols).Summarized where
  methods := by
    refine congrArg (List.map Symbol.methodSignature) ?_
    apply List.filter_congr
    intro child member
    obtain ⟨present, belongs⟩ := List.mem_filter.mp member
    have plain := attached child present (by simp [beq_iff_eq.mp belongs])
    simp [plain]
  detailed := fun _ => rfl

/-- Wherever a symbol of an extraction has metadata, at the top level or as a member, the methods
told there are exactly the methods among its members, in order, each as its summary, constructors
left out. A class with members always has metadata. -/
theorem Context.extract_summarizes_methods (context : Context) (includePrivate : Bool)
    (language : String) (root : Node) :
    ∀ symbol ∈ (context.extract includePrivate language root).extraction.symbols,
      ∀ part : Symbol, part.Within symbol →
        (∀ metadata ∈ part.metadata, metadata.methods =
          (part.children.filter fun member =>
            member.kind == .method && !member.details.isConstructor).map
              Symbol.methodSignature) ∧
        (part.kind = .classType → part.children ≠ [] → part.metadata.isSome = true) := by
  have summarized : context.Lasting root (Symbol.Throughout Symbol.Summarized) :=
    .throughout (fun _ declares => declares.summarized)
      (fun parent summarized => summarized.setParent parent)
      (fun aliases published summarized => summarized.publish aliases published)
  have attached : context.Lasting root fun symbol =>
      symbol.receiver.isSome = true → symbol.details.isConstructor = false := {
    declared := fun _ declares => declares.attached_not_constructor
    linked := fun _ plain => plain
    published := fun aliases published plain => by
      rw [Symbol.publish_eq]
      exact plain }
  have all := (summarized.and attached).extract (fun _ both => both.1) (fun symbols both =>
    Symbol.throughout_of_members
      (Aliases.syntheticClass_summarized _ fun symbol present => (both symbol present).2)
      (fun child member => (both child (List.mem_filter.mp member).1).1))
    includePrivate language
  intro symbol member part inside
  have own := all symbol member part inside
  refine ⟨?_, fun _ => own.detailed⟩
  intro metadata present
  have same : part.details = metadata := by simp [Symbol.details, Option.mem_def.mp present]
  rw [← same]
  exact own.methods

/-- The tree of `class A{constructor(){}m(){}}`. -/
def sampleConstructor : Node :=
  ⟨.program, true, false, none, 0, 29, [
    ⟨.classDeclaration, true, false, none, 0, 29, [
      ⟨.classExpression, false, false, none, 0, 5, []⟩,
      ⟨.identifier, true, false, some .name, 6, 7, []⟩,
      ⟨.classBody, true, false, some .body, 7, 29, [
        ⟨.methodDefinition, true, false, none, 8, 23, [
          ⟨.propertyIdentifier, true, false, some .name, 8, 19, []⟩,
          ⟨.other "formal_parameters", true, false, some .parameters, 19, 21, []⟩,
          ⟨.statementBlock, true, false, some .body, 21, 23, []⟩]⟩,
        ⟨.methodDefinition, true, false, none, 23, 28, [
          ⟨.propertyIdentifier, true, false, some .name, 23, 24, []⟩,
          ⟨.other "formal_parameters", true, false, some .parameters, 24, 26, []⟩,
          ⟨.statementBlock, true, false, some .body, 26, 28, []⟩]⟩]⟩]⟩]⟩

def constructorContext : Context :=
  ⟨Source.ofBytes "lib/a.js" "class A\x7bconstructor()\x7b\x7dm()\x7b\x7d\x7d".toUTF8,
    CallLimits.standard, false⟩

/-- The constructor is a member of its class and not among the methods that are told. -/
theorem Context.extract_summarizes_sampleConstructor :
    (constructorContext.extract true "javascript" sampleConstructor).extraction.symbols.map
        (fun symbol => (symbol.name, symbol.children.map (·.name),
          symbol.metadata.map fun metadata => metadata.methods.map (·.name))) =
      [("A", ["constructor", "m"], some ["m"])] ∧
    ∀ symbol ∈
        (constructorContext.extract true "javascript" sampleConstructor).extraction.symbols,
      ∀ metadata ∈ symbol.metadata, metadata.methods =
        (symbol.children.filter fun member =>
          member.kind == .method && !member.details.isConstructor).map Symbol.methodSignature := by
  refine ⟨by decide +kernel, ?_⟩
  intro symbol member
  exact (extract_summarizes_methods constructorContext true "javascript" sampleConstructor symbol
    member symbol (.self symbol)).1

end ScriptAtlas
