import ScriptAtlas.Extract.Calls
import ScriptAtlas.Extract.Inheritance
import Mathlib.Data.List.Basic
import Mathlib.Data.Option.Basic

/-! Comments among the arguments of a call. The readings that look for callbacks and for
inheritance pass over them; a required path is lost behind a leading comment, and a dynamic import
behind any. -/
namespace ScriptAtlas
open SyntaxTree

namespace SyntaxTree.Node

/-- A node without the comments among its children. -/
def uncommented (list : Node) : Node :=
  { list with children := list.children.filter (·.kind != .comment) }

/-- A child of a call as it stands in the call without comments. -/
def bareChild (child : Node) : Node :=
  if child.field? = some .arguments then child.uncommented else child

/-- A call without the comments among its arguments. Two calls have the same bare form when one
becomes the other by inserting and removing such comments. -/
def bare (call : Node) : Node :=
  { call with children := call.children.map bareChild }

/-- Whether a comment comes before the first argument. -/
def leadsWithComment (call : Node) : Bool :=
  ((call.child? .arguments).bind firstNamed?).any (·.kind == .comment)

/-- Whether a comment stands anywhere among the arguments. -/
def holdsComment (call : Node) : Bool :=
  (call.child? .arguments).any (·.namedChildren.any (·.kind == .comment))

@[simp] theorem bareChild_field? (child : Node) : child.bareChild.field? = child.field? := by
  unfold bareChild
  split <;> rfl

theorem child?_bare (call : Node) (field : Field) :
    call.bare.child? field = (call.child? field).map bareChild := by
  unfold child? bare
  rw [List.find?_map]
  congr 2
  funext child
  simp

theorem child?_bare_arguments (call : Node) :
    call.bare.child? .arguments = (call.child? .arguments).map uncommented := by
  rw [child?_bare]
  apply Option.map_congr
  intro list found
  have placed : list.field? = some .arguments := by simpa using List.find?_some found
  simp [bareChild, placed]

theorem child?_bare_callee (call : Node) : call.bare.child? .callee = call.child? .callee := by
  rw [child?_bare]
  cases found : call.child? .callee with
  | none => rfl
  | some callee =>
    have placed : callee.field? = some .callee := by simpa using List.find?_some found
    simp [bareChild, placed]

theorem namedChildren_uncommented (list : Node) :
    list.uncommented.namedChildren = list.operands :=
  List.filter_comm _ _ _

theorem operands_uncommented (list : Node) : list.uncommented.operands = list.operands := by
  rw [operands, namedChildren_uncommented, operands, List.filter_filter]
  simp

theorem firstNamed?_eq_head? (node : Node) : node.firstNamed? = node.namedChildren.head? :=
  List.head?_filter.symm

theorem firstNamed?_uncommented {list : Node}
    (free : ¬ list.firstNamed?.any (·.kind == .comment)) :
    list.uncommented.firstNamed? = list.firstNamed? := by
  rw [firstNamed?_eq_head?, firstNamed?_eq_head?, namedChildren_uncommented, operands]
  rw [firstNamed?_eq_head?] at free
  cases named : list.namedChildren with
  | nil => rfl
  | cons first rest =>
    have kept : first.kind ≠ .comment := by simpa [named] using free
    simp [kept]

theorem namedChildren_uncommented_of_free {list : Node}
    (free : ¬ list.namedChildren.any (·.kind == .comment)) :
    list.uncommented.namedChildren = list.namedChildren := by
  rw [namedChildren_uncommented]
  apply List.filter_eq_self.mpr
  simpa using free

end SyntaxTree.Node

namespace Source

variable (source : Source) (call : Node)

theorem stringValue?_comment {source : Source} {node : Node} (comment : node.kind = .comment) :
    source.stringValue? node = none := by
  simp [stringValue?, comment]

theorem callbackArgs_bare : source.callbackArgs call.bare = source.callbackArgs call := by
  unfold callbackArgs
  rw [Node.child?_bare_arguments]
  cases call.child? .arguments with
  | none => rfl
  | some list =>
    simp only [Option.map_some, Node.namedChildren_uncommented, Node.operands,
      List.filterMap_filter]
    congr 1
    funext argument
    -- a comment is no callback
    by_cases comment : argument.kind = .comment <;> simp [comment]

theorem callArguments_bare : callArguments call.bare = callArguments call := by
  unfold callArguments
  rw [Node.child?_bare_arguments]
  cases call.child? .arguments with
  | none => rfl
  | some list => exact Node.operands_uncommented list

theorem callEdge?_bare : source.callEdge? call.bare = source.callEdge? call := by
  unfold callEdge?
  rw [Node.child?_bare_callee, callArguments_bare]

/-- A required path is read from the first argument, so it is lost when a comment comes first. -/
theorem requirePath?_eq_bare :
    source.requirePath? call =
      if call.leadsWithComment then none else source.requirePath? call.bare := by
  unfold requirePath? Node.leadsWithComment
  rw [Node.child?_bare_callee, Node.child?_bare_arguments]
  cases call.child? .arguments with
  | none => simp
  | some list =>
    by_cases leads : list.firstNamed?.any (·.kind == .comment)
    · obtain ⟨first, found, comment⟩ := (Option.any_eq_true _ _).mp leads
      simp [found, comment, stringValue?_comment (beq_iff_eq.mp comment)]
    · simp only [Option.bind_eq_bind, Option.bind_some, leads, Option.map_some,
        Node.firstNamed?_uncommented leads]
      rfl

/-- A dynamic import has one argument, comments included, so any comment hides it. -/
theorem dynamicImport?_eq_bare :
    source.dynamicImport? call =
      if call.holdsComment then none else source.dynamicImport? call.bare := by
  unfold dynamicImport? Node.holdsComment
  rw [Node.child?_bare_callee, Node.child?_bare_arguments]
  cases call.child? .arguments with
  | none => simp
  | some list =>
    by_cases held : list.namedChildren.any (·.kind == .comment)
    -- either the comment is the one argument, or there are several
    · cases named : list.namedChildren with
      | nil => simp [named] at held
      | cons first rest =>
        cases rest with
        | nil =>
          have comment : first.kind = .comment := by simpa [named] using held
          simp [named, comment, stringValue?_comment comment]
        | cons second rest =>
          rw [named] at held
          simp [named, held]
    · simp only [Option.any_some, held, Option.map_some, Option.bind_eq_bind, Option.bind_some,
        Node.namedChildren_uncommented_of_free held]
      rfl

/-- Two readings that each give the same answer or none are equal exactly when neither or both give
it, unless there is nothing to give. -/
theorem hidden_eq_iff {α : Type} {first second : Bool} {answer : Option α} :
    (if first then none else answer) = (if second then none else answer) ↔
      answer = none ∨ first = second := by
  cases first <;> cases second <;> simp [eq_comm]

/-- What comments among the arguments of a call can change. For calls that differ in nothing else,
callbacks and inheritance are the same. If the bare call requires a path, both do unless a comment
comes first in just one of them; if it is a dynamic import, both are unless just one of them holds
a comment. -/
theorem comments_invisible_iff (source : Source) {first second : Node}
    (same : first.bare = second.bare) :
    source.callbackArgs first = source.callbackArgs second ∧
    source.callEdge? first = source.callEdge? second ∧
    (source.requirePath? first = source.requirePath? second ↔
      source.requirePath? first.bare = none ∨
        first.leadsWithComment = second.leadsWithComment) ∧
    (source.dynamicImport? first = source.dynamicImport? second ↔
      source.dynamicImport? first.bare = none ∨ first.holdsComment = second.holdsComment) := by
  refine ⟨?_, ?_, ?_, ?_⟩
  · rw [← callbackArgs_bare, same, callbackArgs_bare]
  · rw [← callEdge?_bare, same, callEdge?_bare]
  · rw [source.requirePath?_eq_bare first, source.requirePath?_eq_bare second, ← same,
      hidden_eq_iff]
  · rw [source.dynamicImport?_eq_bare first, source.dynamicImport?_eq_bare second, ← same,
      hidden_eq_iff]

end Source

/-- A call of a callee that ends where its argument list begins. -/
def sampleCall (callee : Kind) (start stop : Nat) (arguments : List Node) : Node :=
  ⟨.callExpression, true, false, none, 0, stop, [
    ⟨callee, true, false, some .callee, 0, start, []⟩,
    ⟨.arguments, true, false, some .arguments, start, stop, arguments⟩]⟩

def sampleComment (start stop : Nat) : Node := ⟨.comment, true, false, none, start, stop, []⟩

def sampleString (start stop : Nat) : Node := ⟨.stringLiteral, true, false, none, start, stop, []⟩

/-- A comment after the path does not hide it. -/
theorem Source.comments_invisible_trailing :
    let source := Source.ofBytes "lib/a.js" "require('x' /* c */)".toUTF8
    let noted := sampleCall .identifier 7 20 [sampleString 8 11, sampleComment 12 19]
    let plain := sampleCall .identifier 7 20 [sampleString 8 11]
    noted.bare = plain.bare ∧ source.requirePath? plain = some "x" ∧
      source.requirePath? noted = source.requirePath? plain := by
  intro source noted plain
  have same : noted.bare = plain.bare := rfl
  refine ⟨same, by decide +kernel, (source.comments_invisible_iff same).2.2.1.mpr (.inr ?_)⟩
  rfl

/-- A comment before the path hides it, from a required path and from a dynamic import. -/
theorem Source.comments_hide_paths :
    let required := Source.ofBytes "lib/a.js" "require(/* c */ 'x')".toUTF8
    let notedCall := sampleCall .identifier 7 20 [sampleComment 8 15, sampleString 16 19]
    let plainCall := sampleCall .identifier 7 20 [sampleString 16 19]
    let imported := Source.ofBytes "lib/a.js" "import(/* c */ 'x')".toUTF8
    let notedImport := sampleCall .importKeyword 6 19 [sampleComment 7 14, sampleString 15 18]
    let plainImport := sampleCall .importKeyword 6 19 [sampleString 15 18]
    notedCall.bare = plainCall.bare ∧ notedImport.bare = plainImport.bare ∧
      required.requirePath? plainCall = some "x" ∧ required.requirePath? notedCall = none ∧
      (imported.dynamicImport? plainImport).map (·.path) = some "x" ∧
      imported.dynamicImport? notedImport = none := by
  refine ⟨rfl, rfl, ?_, ?_, ?_, ?_⟩ <;> decide +kernel

end ScriptAtlas
