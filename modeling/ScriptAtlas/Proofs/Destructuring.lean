import ScriptAtlas.Proofs.Scan
import ScriptAtlas.Proofs.Tables

/-! Destructuring patterns. The loop that collects names from a stack of patterns finds those that
the patterns bind, from left to right, however deeply they nest; a declarator with a pattern turns
them into one import or into one variable each. -/
namespace ScriptAtlas
open SyntaxTree

namespace Source

/-- The names that a pattern binds: an identifier its own, a pair those of its value, a default
those of its left side, a pattern of several parts those of its parts in order. -/
def boundNames (source : Source) (node : Node) : List String :=
  match node.kind with
  | .identifier | .shorthandPropertyIdentifierPattern => [source.text node]
  | .pairPattern =>
    match _ : node.child? .value with
    | some value => source.boundNames value
    | none => []
  | .assignmentPattern | .objectAssignmentPattern =>
    match _ : node.child? .left with
    | some left => source.boundNames left
    | none => []
  | .objectPattern | .arrayPattern | .restPattern =>
    node.namedChildren.attach.flatMap fun ⟨part, _⟩ => source.boundNames part
  | _ => []
termination_by node.size
decreasing_by
  · exact Node.size_lt_of_child? ‹_›
  · exact Node.size_lt_of_child? ‹_›
  · exact Node.size_lt_of_mem (Node.mem_children_of_mem_namedChildren ‹_›)

/-- A call of `require` whose first argument is a string with the given contents. -/
structure Requires (source : Source) (call : Node) (path : String) : Prop where
  kind : call.kind = .callExpression
  called : ∃ callee, call.child? .callee = some callee ∧ callee.kind = .identifier ∧
    source.text callee = "require"
  given : ∃ list first, call.child? .arguments = some list ∧ list.firstNamed? = some first ∧
    source.stringValue? first = some path

variable {source : Source} {node : Node}

theorem boundNames_of_bindsName (binds : bindsName node) :
    source.boundNames node = [source.text node] := by
  rcases Bool.or_eq_true_iff.mp binds with kind | kind <;>
    simp [boundNames, beq_iff_eq.mp kind]

/-- Any other pattern binds what its parts bind. -/
theorem boundNames_of_parts (other : ¬ bindsName node) :
    source.boundNames node = (patternParts node).flatMap source.boundNames := by
  rw [boundNames]
  split
  · rename_i kind
    simp [bindsName, kind] at other
  · rename_i kind
    simp [bindsName, kind] at other
  · rename_i kind
    cases found : node.child? .value <;> simp [patternParts, kind, found]
  · rename_i kind
    cases found : node.child? .left <;> simp [patternParts, kind, found]
  · rename_i kind
    cases found : node.child? .left <;> simp [patternParts, kind, found]
  · rename_i kind
    simp [patternParts, kind]
  · rename_i kind
    simp [patternParts, kind]
  · rename_i kind
    simp [patternParts, kind]
  · have none : patternParts node = [] := by
      unfold patternParts
      split <;> simp_all
    simp [none]

/-- The loop appends what the patterns on its stack bind. -/
theorem collectNames_eq (stack : List Node) (names : Array String) :
    (source.collectNames stack names).toList = names.toList ++ stack.flatMap source.boundNames := by
  fun_induction collectNames source stack names with
  | case1 names => simp
  | case2 names node rest binds ih =>
    rw [ih, List.flatMap_cons, boundNames_of_bindsName binds]
    simp
  | case3 names node rest other ih =>
    rw [ih, List.flatMap_cons, boundNames_of_parts other, List.flatMap_append]

theorem patternNames_eq (pattern : Node) :
    source.patternNames pattern = source.boundNames pattern := by
  rw [patternNames, collectNames_eq]
  simp

theorem requirePath?_eq_some_iff {path : String} :
    source.requirePath? node = some path ↔ source.Requires node path := by
  unfold requirePath?
  constructor
  · intro found
    obtain ⟨kind, found⟩ := guard_bind_eq_some.mp found
    obtain ⟨callee, called, found⟩ := Option.bind_eq_some_iff.mp found
    obtain ⟨⟨identifier, text⟩, found⟩ := guard_bind_eq_some.mp found
    obtain ⟨list, listed, found⟩ := Option.bind_eq_some_iff.mp found
    obtain ⟨first, opened, value⟩ := Option.bind_eq_some_iff.mp found
    exact ⟨kind, ⟨callee, called, identifier, text⟩, list, first, listed, opened, value⟩
  · rintro ⟨kind, ⟨callee, called, identifier, text⟩, list, first, listed, opened, value⟩
    refine guard_bind_eq_some.mpr ⟨kind, Option.bind_eq_some_iff.mpr ⟨callee, called, ?_⟩⟩
    refine guard_bind_eq_some.mpr
      ⟨⟨identifier, text⟩, Option.bind_eq_some_iff.mpr ⟨list, listed, ?_⟩⟩
    exact Option.bind_eq_some_iff.mpr ⟨first, opened, value⟩

end Source

theorem Keyword.symbolKind_eq (keyword : Keyword) :
    keyword.symbolKind = if keyword = .constWord then .constant else .variableBinding := by
  cases keyword <;> rfl

namespace Context

@[simp] theorem plainVariable_name (context : Context) (declaration : Declaration)
    (declarator : Cursor) (name : String) (value? : Option Node) :
    (context.plainVariable declaration declarator name value?).name = name := rfl

variable {context : Context} {declaration : Declaration} {declarator : Cursor} {pattern : Node}
  {value? : Option Node}

/-- An object pattern of a required module imports the bound names. -/
theorem patternDeclarator_of_requires {value : Node} {path : String}
    (kind : pattern.kind = .objectPattern) (required : context.source.Requires value path) :
    context.patternDeclarator declaration declarator pattern (some value) = .ofImport {
      path
      names := context.source.boundNames pattern
      isCommonJs := true
      location := context.source.location declarator.node } := by
  simp [patternDeclarator, kind, Source.requirePath?_eq_some_iff.mpr required,
    Source.patternNames_eq]

/-- Any other pattern declares a variable for each bound name. -/
theorem patternDeclarator_of_not_requires
    (other : ¬ (pattern.kind = .objectPattern ∧
      ∃ value path, value? = some value ∧ context.source.Requires value path)) :
    context.patternDeclarator declaration declarator pattern value? =
      { symbols := (context.source.boundNames pattern).map fun name =>
          context.plainVariable declaration declarator name value? } := by
  unfold patternDeclarator
  rw [Source.patternNames_eq]
  split
  · rename_i path required kind
    obtain ⟨value, rfl, found⟩ := Option.bind_eq_some_iff.mp required
    exact absurd ⟨kind, value, path, rfl, Source.requirePath?_eq_some_iff.mp found⟩ other
  · rfl

/-- Patterns publish nothing and state no inheritance. -/
theorem patternDeclarator_silent (context : Context) (declaration : Declaration)
    (declarator : Cursor) (pattern : Node) (value? : Option Node) :
    (context.patternDeclarator declaration declarator pattern value?).published = [] ∧
      (context.patternDeclarator declaration declarator pattern value?).edge = none := by
  unfold patternDeclarator
  split <;> exact ⟨rfl, rfl⟩

/-- The declarator of a pattern is read by the pattern's rules. -/
theorem declarator_of_pattern (named : declarator.node.child? .name = some pattern)
    (kind : pattern.kind = .objectPattern ∨ pattern.kind = .arrayPattern) :
    context.declarator declaration declarator =
      context.patternDeclarator declaration declarator pattern (declarator.node.child? .value) := by
  rcases kind with kind | kind <;> simp [Context.declarator, named, kind]

/-- What a destructuring pattern declares. The loop over a pattern appends the names it binds, in
order. A declarator with an object pattern and the value `require("path")` adds one import of these
names; with any other pattern or value it adds one variable or constant for each of them, in order,
and no import. -/
theorem destructuring_binds_exactly (context : Context) :
    (∀ (node : Node) (names : Array String),
      (context.source.collectNames [node] names).toList =
        names.toList ++ context.source.boundNames node) ∧
    ∀ (declaration : Declaration) (declarator : Cursor) (pattern : Node),
      declarator.node.child? .name = some pattern →
      pattern.kind = .objectPattern ∨ pattern.kind = .arrayPattern →
      let added := context.declarator declaration declarator
      let value? := declarator.node.child? .value
      added.published = [] ∧ added.edge = none ∧
      (∀ value path, pattern.kind = .objectPattern → value? = some value →
        context.source.Requires value path →
          added.symbols = [] ∧
          added.imports = [{
            path
            names := context.source.boundNames pattern
            isCommonJs := true
            location := context.source.location declarator.node }]) ∧
      (¬ (pattern.kind = .objectPattern ∧
          ∃ value path, value? = some value ∧ context.source.Requires value path) →
        added.imports = [] ∧
        added.symbols.map (·.name) = context.source.boundNames pattern ∧
        ∀ symbol ∈ added.symbols,
          symbol.kind = (if declaration.keyword = .constWord then .constant else .variableBinding) ∧
          symbol.location = context.source.location declarator.node ∧
          symbol.exported = declaration.exported) := by
  constructor
  · intro node names
    rw [Source.collectNames_eq, List.flatMap_singleton]
  · intro declaration declarator pattern named kind added value?
    have read : added = context.patternDeclarator declaration declarator pattern value? :=
      declarator_of_pattern named kind
    rw [read]
    have silent := context.patternDeclarator_silent declaration declarator pattern value?
    refine ⟨silent.1, silent.2, ?_, ?_⟩
    · intro value path object given required
      rw [given, patternDeclarator_of_requires object required]
      exact ⟨rfl, rfl⟩
    · intro other
      rw [patternDeclarator_of_not_requires other]
      refine ⟨rfl, ?_, ?_⟩
      · simp [Function.comp_def]
      · intro symbol member
        obtain ⟨name, _, rfl⟩ := List.mem_map.mp member
        exact ⟨Keyword.symbolKind_eq _, rfl, rfl⟩

end Context

/-- The pattern of `const { a, b: [c = 1, ...d] } = require('p');`. -/
def samplePattern : Node :=
  ⟨.objectPattern, true, false, some .name, 6, 29, [
    ⟨.other "\x7b", false, false, none, 6, 7, []⟩,
    ⟨.shorthandPropertyIdentifierPattern, true, false, none, 8, 9, []⟩,
    ⟨.other ",", false, false, none, 9, 10, []⟩,
    ⟨.pairPattern, true, false, none, 11, 27, [
      ⟨.propertyIdentifier, true, false, some .key, 11, 12, []⟩,
      ⟨.other ":", false, false, none, 12, 13, []⟩,
      ⟨.arrayPattern, true, false, some .value, 14, 27, [
        ⟨.other "[", false, false, none, 14, 15, []⟩,
        ⟨.assignmentPattern, true, false, none, 15, 20, [
          ⟨.identifier, true, false, some .left, 15, 16, []⟩,
          ⟨.other "=", false, false, none, 17, 18, []⟩,
          ⟨.other "number", true, false, some .right, 19, 20, []⟩]⟩,
        ⟨.other ",", false, false, none, 20, 21, []⟩,
        ⟨.restPattern, true, false, none, 22, 26, [
          ⟨.other "...", false, false, none, 22, 25, []⟩,
          ⟨.identifier, true, false, none, 25, 26, []⟩]⟩,
        ⟨.other "]", false, false, none, 26, 27, []⟩]⟩]⟩,
    ⟨.other "\x7d", false, false, none, 28, 29, []⟩]⟩

def sampleRequire : Node :=
  ⟨.callExpression, true, false, some .value, 32, 44, [
    ⟨.identifier, true, false, some .callee, 32, 39, []⟩,
    ⟨.arguments, true, false, some .arguments, 39, 44, [
      ⟨.other "(", false, false, none, 39, 40, []⟩,
      ⟨.stringLiteral, true, false, none, 40, 43, []⟩,
      ⟨.other ")", false, false, none, 43, 44, []⟩]⟩]⟩

def sampleDeclarator : Node :=
  ⟨.variableDeclarator, true, false, none, 6, 44,
    [samplePattern, ⟨.other "=", false, false, none, 30, 31, []⟩, sampleRequire]⟩

def patternContext : Context :=
  ⟨Source.ofBytes "lib/a.js" "const \x7b a, b: [c = 1, ...d] \x7d = require('p');".toUTF8,
    CallLimits.standard, false⟩

/-- Neither the key `b` nor the default `1` is among the imported names. -/
theorem Context.destructuring_binds_sampleDeclarator :
    let added := patternContext.declarator ⟨.constWord, false, ""⟩ (.root sampleDeclarator)
    added.symbols = [] ∧
      added.imports.map (fun dependency => (dependency.path, dependency.names)) =
        [("p", ["a", "c", "d"])] := by
  intro added
  obtain ⟨_, declared⟩ := patternContext.destructuring_binds_exactly
  obtain ⟨_, _, imported, _⟩ :=
    declared ⟨.constWord, false, ""⟩ (.root sampleDeclarator) samplePattern rfl (.inl rfl)
  have required : patternContext.source.Requires sampleRequire "p" :=
    Source.requirePath?_eq_some_iff.mp (by decide +kernel)
  obtain ⟨noSymbols, single⟩ := imported sampleRequire "p" rfl rfl required
  have names : patternContext.source.boundNames samplePattern = ["a", "c", "d"] := by
    decide +kernel
  refine ⟨noSymbols, ?_⟩
  simp only [single, added, List.map_cons, List.map_nil, names]

end ScriptAtlas
